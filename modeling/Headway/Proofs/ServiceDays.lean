import Headway.Calendar.Zone.Names
import Headway.Proofs.Calendar.Year
import Headway.Proofs.Service.Intake

/-!
# Local days in order

Local time goes back where an offset shrinks, and local dates can go back with it: in a zone where
the clock is set back just after midnight, a date comes twice. Where this does not happen, a clock
keeps service days in order (`ServiceClock.KeepsDaysInOrder`).

A zone is checked for it. In a list of changes no date before a change may be later than the one
after (`Zone.advances`). A yearly rule sets the clock back at the end of summer time only, and
whenever summer time has given way to standard time, one such end lies between
(`YearlyRule.exists_stop`). In a zone that passes, local dates do not go back (`Zone.localDay_mono`),
and so a clock in it keeps service days in order (`ServiceClock.keepsDaysInOrder_of_steady`).
-/

namespace Headway

/-! ## Changes of offset -/

namespace Zone

/-- The last of some changes that is not after a second, over an offset to start with. -/
def offsetOf (initial : Int) (changes : List (Int × Int)) (second : Int) : Int :=
  changes.foldl (fun offset c => if c.1 ≤ second then c.2 else offset) initial

/-- The number of the local date at an offset. -/
def localDay (second offset : Int) : Int := (second + offset) / 86400

theorem localDay_mono_of_le {s t a b : Int} (h : s ≤ t) (hoffset : a ≤ b) :
    localDay s a ≤ localDay t b := by
  unfold localDay
  omega

/-- Changes come one after the other, and no local date before a change is later than the one
after. -/
def advances (offset : Int) : List (Int × Int) → Bool
  | [] => true
  | c :: rest => localDay (c.1 - 1) offset ≤ localDay c.1 c.2 && rest.head?.all (c.1 < ·.1) &&
      advances c.2 rest

theorem lt_of_advances {offset : Int} {c : Int × Int} {rest : List (Int × Int)}
    (h : advances offset (c :: rest) = true) : ∀ d ∈ rest, c.1 < d.1 := by
  induction rest generalizing offset c with
  | nil => simp
  | cons next rest ih =>
    obtain ⟨hchange, hrest⟩ := Bool.and_eq_true_iff.mp h
    have hnext : c.1 < next.1 := of_decide_eq_true (Bool.and_eq_true_iff.mp hchange).2
    exact List.forall_mem_cons.mpr ⟨hnext, fun d hd => Int.lt_trans hnext (ih hrest d hd)⟩

theorem offsetOf_eq_initial {changes : List (Int × Int)} {second : Int}
    (h : ∀ c ∈ changes, second < c.1) (initial : Int) :
    offsetOf initial changes second = initial := by
  induction changes with
  | nil => rfl
  | cons c rest ih =>
    obtain ⟨hc, hrest⟩ := List.forall_mem_cons.mp h
    rw [offsetOf, List.foldl_cons, if_neg (by omega)]
    exact ih hrest

theorem localDay_offsetOf_mono {changes : List (Int × Int)} {initial s t : Int}
    (h : advances initial changes = true) (hst : s ≤ t) :
    localDay s (offsetOf initial changes s) ≤ localDay t (offsetOf initial changes t) := by
  induction changes generalizing initial s with
  | nil => exact localDay_mono_of_le hst (Int.le_refl _)
  | cons c rest ih =>
    have hlater := lt_of_advances h
    simp only [advances, Bool.and_eq_true, decide_eq_true_eq] at h
    obtain ⟨⟨hchange, -⟩, hrest⟩ := h
    have hbefore {u : Int} (hu : u < c.1) : offsetOf initial (c :: rest) u = initial :=
      offsetOf_eq_initial (List.forall_mem_cons.mpr
        ⟨hu, fun d hd => Int.lt_trans hu (hlater d hd)⟩) initial
    have hafter {u : Int} (hu : c.1 ≤ u) :
        offsetOf initial (c :: rest) u = offsetOf c.2 rest u := by
      rw [offsetOf, List.foldl_cons, if_pos hu]
      rfl
    rcases Int.lt_or_le t c.1 with ht | ht
    · rw [hbefore ht, hbefore (by omega)]
      exact localDay_mono_of_le hst (Int.le_refl _)
    · rcases Int.lt_or_le s c.1 with hs | hs
      -- the change lies between the two seconds
      · rw [hbefore hs, hafter ht]
        have hfirst := ih hrest ht
        rw [offsetOf_eq_initial hlater] at hfirst
        calc localDay s initial
            ≤ localDay (c.1 - 1) initial := localDay_mono_of_le (by omega) (Int.le_refl _)
          _ ≤ localDay c.1 c.2 := hchange
          _ ≤ localDay t (offsetOf c.2 rest t) := hfirst
      · rw [hafter hs, hafter ht]
        exact ih hrest hst

end Zone

/-! ## Yearly rules -/

theorem YearlyRule.yearStart_eq (year : Int) : yearStart year = Day.newYear year * 86400 := rfl

namespace YearlySwitch

/-- The days from the first of March to the first day on which a switch can fall. -/
def daysIn (w : YearlySwitch) : Int := (153 * (w.month - 3) + 2) / 5 + w.onOrAfter - 1

/-- The first second after the start of March at which a switch can take place. -/
def earliest (w : YearlySwitch) : Int := w.daysIn * 86400 + w.second

/-- A switch takes place within a week. -/
def latest (w : YearlySwitch) : Int := w.earliest + 6 * 86400

/-- A switch takes place between March and the end of the year. -/
def inYear (w : YearlySwitch) : Bool := 2 < w.month && 0 ≤ w.earliest && w.latest ≤ 306 * 86400

variable {w v : YearlySwitch}

theorem secondIn_bounds (h : 2 < w.month) (year : Int) :
    Day.marchStart year * 86400 + w.earliest ≤ w.secondIn year ∧
      w.secondIn year ≤ Day.marchStart year * 86400 + w.latest := by
  simp only [secondIn, latest, earliest, daysIn, Day.numberOfCivil_of_march h]
  omega

theorem secondIn_modEq (w : YearlySwitch) (year : Int) :
    ∃ n, w.secondIn year = n * 86400 + w.second := ⟨_, rfl⟩

theorem inYear_bounds (h : w.inYear = true) (year : Int) :
    YearlyRule.yearStart year ≤ w.secondIn year ∧
      w.secondIn year ≤ YearlyRule.yearStart (year + 1) := by
  simp only [inYear, Bool.and_eq_true, decide_eq_true_eq] at h
  obtain ⟨⟨hmonth, hearliest⟩, hlatest⟩ := h
  obtain ⟨hlow, hhigh⟩ := secondIn_bounds hmonth year
  have hmarch := Day.marchStart_succ (year - 1)
  rw [Int.sub_add_cancel] at hmarch
  rw [YearlyRule.yearStart_eq, YearlyRule.yearStart_eq, Day.newYear_succ, Day.newYear_eq]
  omega

end YearlySwitch

namespace YearlyRule

variable {r : YearlyRule} {s t : Int}

theorem yearStart_mono {year later : Int} (h : year ≤ later) : yearStart year ≤ yearStart later :=
  Int.mul_le_mul_of_nonneg_right (Day.newYear_mono h) (by omega)

/-- A rule starts in 1970 or later. Summer time is the later time, one of the two switches always
comes before the other, and the one that ends summer time falls between March and the end of the
year, where the local date does not go back. -/
def steady (r : YearlyRule) : Bool :=
  (1970 ≤ r.firstYear && r.firstYear ≤ lastYear) && r.standard ≤ r.summer &&
    (2 < r.start.month && r.stop.inYear) &&
    (r.start.latest ≤ r.stop.earliest || r.stop.latest < r.start.earliest) &&
    Zone.localDay (r.stop.second - 1) r.summer ≤ Zone.localDay r.stop.second r.standard

/-- A second in the reach of a rule lies in the year that the rule takes it for, or after the last
one. -/
theorem yearOf_bounds (hfirst : 1970 ≤ r.firstYear ∧ r.firstYear ≤ lastYear)
    (hs : yearStart r.firstYear ≤ s) :
    r.yearOf s ≤ lastYear ∧ yearStart (r.yearOf s) ≤ s ∧
      (r.yearOf s < lastYear → s < yearStart (r.yearOf s + 1)) := by
  have hreach : Day.newYear r.firstYear ≤ s / 86400 := by
    rw [yearStart_eq] at hs
    omega
  unfold yearOf
  cases hday : Day.ofNumber? (s / 86400) with
  | none =>
    -- such a second comes after the end of the calendar
    have hepoch := Day.newYear_mono hfirst.1
    rw [show Day.newYear 1970 = 0 from rfl] at hepoch
    rw [Day.ofNumber?_eq_none_iff] at hday
    have hlast : yearStart lastYear = 4070908800 := rfl
    simp only [firstDayNumber, lastDayNumber] at hday
    simp only [hlast]
    omega
  | some d =>
    have hnumber := Day.ofNumber?_eq_some_iff.mp hday
    obtain ⟨hle, hlt⟩ := d.newYear_civil
    have hyear : r.firstYear ≤ d.civil.year := by
      rcases Int.lt_or_le d.civil.year r.firstYear with h | h
      · have := Day.newYear_mono (show d.civil.year + 1 ≤ r.firstYear from h)
        omega
      · exact h
    simp only [yearStart_eq,
      show max r.firstYear (min lastYear d.civil.year) = min lastYear d.civil.year by omega]
    refine ⟨Int.min_le_left _ _, ?_, fun h => ?_⟩
    · have := Day.newYear_mono (Int.min_le_right lastYear d.civil.year)
      omega
    · rw [show min lastYear d.civil.year = d.civil.year by omega]
      omega

theorem yearOf_mono (hfirst : 1970 ≤ r.firstYear ∧ r.firstYear ≤ lastYear)
    (hs : yearStart r.firstYear ≤ s) (hst : s ≤ t) : r.yearOf s ≤ r.yearOf t := by
  obtain ⟨hlast, hle, -⟩ := yearOf_bounds hfirst hs
  obtain ⟨-, -, hlt⟩ := yearOf_bounds hfirst (Int.le_trans hs hst)
  rcases Int.lt_or_le (r.yearOf t) (r.yearOf s) with h | h
  · have := hlt (Int.lt_of_lt_of_le h hlast)
    have := yearStart_mono (show r.yearOf t + 1 ≤ r.yearOf s from h)
    omega
  · exact h

/-- Summer time by the switches of a year. -/
def InSummer (r : YearlyRule) (year s : Int) : Prop :=
  if r.start.secondIn year ≤ r.stop.secondIn year then
    r.start.secondIn year ≤ s ∧ s < r.stop.secondIn year
  else s < r.stop.secondIn year ∨ r.start.secondIn year ≤ s

theorem offsetAt_eq_or (r : YearlyRule) (s : Int) :
    r.InSummer (r.yearOf s) s ∧ r.offsetAt s = r.summer ∨
      ¬ r.InSummer (r.yearOf s) s ∧ r.offsetAt s = r.standard := by
  unfold offsetAt InSummer
  by_cases h : r.start.secondIn (r.yearOf s) ≤ r.stop.secondIn (r.yearOf s)
  · simp only [if_pos h]
    split
    · rename_i hsummer
      exact Or.inl ⟨hsummer, rfl⟩
    · rename_i hsummer
      exact Or.inr ⟨hsummer, rfl⟩
  · simp only [if_neg h]
    split
    · rename_i hsummer
      exact Or.inl ⟨hsummer, rfl⟩
    · rename_i hsummer
      exact Or.inr ⟨hsummer, rfl⟩

/-- One of the two switches comes first in all years. -/
theorem switches_in_order (h : r.steady = true) :
    (∀ year, r.start.secondIn year ≤ r.stop.secondIn year) ∨
      ∀ year, r.stop.secondIn year < r.start.secondIn year := by
  simp only [steady, YearlySwitch.inYear, Bool.and_eq_true, Bool.or_eq_true,
    decide_eq_true_eq] at h
  obtain ⟨⟨⟨-, hstart, ⟨hstop, -⟩, -⟩, hapart⟩, -⟩ := h
  refine hapart.imp (fun hfirst year => ?_) (fun hfirst year => ?_)
  · obtain ⟨-, hstart⟩ := YearlySwitch.secondIn_bounds hstart year
    obtain ⟨hstop, -⟩ := YearlySwitch.secondIn_bounds hstop year
    omega
  · obtain ⟨hstart, -⟩ := YearlySwitch.secondIn_bounds hstart year
    obtain ⟨-, hstop⟩ := YearlySwitch.secondIn_bounds hstop year
    omega

/-- Two seconds share their year, or the year of the later one starts after the other second and
after the end of its summer time. -/
theorem yearOf_eq_or (h : r.steady = true) (hs : yearStart r.firstYear ≤ s) (hst : s ≤ t) :
    r.yearOf s = r.yearOf t ∨
      s < yearStart (r.yearOf t) ∧ r.stop.secondIn (r.yearOf s) ≤ yearStart (r.yearOf t) := by
  simp only [steady, Bool.and_eq_true, decide_eq_true_eq] at h
  obtain ⟨⟨⟨⟨hfirst, -⟩, -, hstop⟩, -⟩, -⟩ := h
  rcases Int.lt_or_eq_of_le (yearOf_mono hfirst hs hst) with hlt | heq
  · obtain ⟨hlast, -, -⟩ := yearOf_bounds hfirst (Int.le_trans hs hst)
    obtain ⟨-, -, hnext⟩ := yearOf_bounds hfirst hs
    obtain ⟨-, hended⟩ := YearlySwitch.inYear_bounds hstop (r.yearOf s)
    have hyears := yearStart_mono (show r.yearOf s + 1 ≤ r.yearOf t from hlt)
    exact Or.inr ⟨Int.lt_of_lt_of_le (hnext (Int.lt_of_lt_of_le hlt hlast)) hyears,
      Int.le_trans hended hyears⟩
  · exact Or.inl heq

/-- Between summer time and later standard time, summer time ends. -/
theorem exists_stop (h : r.steady = true) (hs : yearStart r.firstYear ≤ s) (hst : s ≤ t)
    (hsummer : r.InSummer (r.yearOf s) s) (hstandard : ¬ r.InSummer (r.yearOf t) t) :
    ∃ year, s < r.stop.secondIn year ∧ r.stop.secondIn year ≤ t := by
  have hyears := yearOf_eq_or h hs hst
  have horder := switches_in_order h
  simp only [steady, Bool.and_eq_true, decide_eq_true_eq] at h
  obtain ⟨⟨⟨⟨hfirst, -⟩, -, hstop⟩, -⟩, -⟩ := h
  obtain ⟨-, hreached, -⟩ := yearOf_bounds hfirst (Int.le_trans hs hst)
  obtain ⟨hwithin, -⟩ := YearlySwitch.inYear_bounds hstop (r.yearOf t)
  rcases horder with hnorth | hsouth
  -- summer lies within a year, and what has ended is that of the earlier second's year
  · rw [InSummer, if_pos (hnorth _)] at hsummer hstandard
    refine ⟨r.yearOf s, hsummer.2, ?_⟩
    rcases hyears with heq | ⟨-, hended⟩
    · rw [heq] at hsummer ⊢
      omega
    · omega
  -- summer lies across the new year, and it has ended in the later second's year
  · rw [InSummer, if_neg (Int.not_le.mpr (hsouth _))] at hsummer hstandard
    refine ⟨r.yearOf t, ?_, by omega⟩
    rcases hyears with heq | ⟨hlt, -⟩
    · rw [heq] at hsummer
      omega
    · omega

theorem localDay_offsetAt_mono (h : r.steady = true) (hs : yearStart r.firstYear ≤ s)
    (hst : s ≤ t) : Zone.localDay s (r.offsetAt s) ≤ Zone.localDay t (r.offsetAt t) := by
  have hsteady := h
  simp only [steady, Bool.and_eq_true, Bool.or_eq_true, decide_eq_true_eq] at hsteady
  obtain ⟨⟨⟨⟨-, hoffsets⟩, -⟩, -⟩, hback⟩ := hsteady
  rcases r.offsetAt_eq_or s with ⟨hsummer, hs'⟩ | ⟨-, hs'⟩
  · rcases r.offsetAt_eq_or t with ⟨-, ht'⟩ | ⟨hstandard, ht'⟩
    · rw [hs', ht']
      exact Zone.localDay_mono_of_le hst (Int.le_refl _)
    · obtain ⟨year, hlt, hle⟩ := exists_stop h hs hst hsummer hstandard
      obtain ⟨n, hn⟩ := r.stop.secondIn_modEq year
      rw [hs', ht']
      unfold Zone.localDay at *
      omega
  · rw [hs']
    apply Zone.localDay_mono_of_le hst
    rcases r.offsetAt_eq_or t with ⟨-, ht'⟩ | ⟨-, ht'⟩
    · omega
    · omega

end YearlyRule

/-! ## Zones -/

namespace Zone

/-- Local dates do not go back: not in the list of changes, not by the yearly rule, and not where
the rule takes over. -/
def steady (z : Zone) : Bool :=
  advances z.initial z.changes &&
    match z.yearly with
    | some r =>
      let start := YearlyRule.yearStart r.firstYear
      r.steady &&
        localDay (start - 1) (z.listedOffset (start - 1)) ≤ localDay start (r.offsetAt start)
    | none => true

theorem localDay_mono {z : Zone} (h : z.steady = true) {s t : Int} (hst : s ≤ t) :
    localDay s (z.offsetAt s) ≤ localDay t (z.offsetAt t) := by
  obtain ⟨hadvances, hyearly⟩ := Bool.and_eq_true_iff.mp h
  have hlisted {u v : Int} (huv : u ≤ v) :
      localDay u (z.listedOffset u) ≤ localDay v (z.listedOffset v) :=
    localDay_offsetOf_mono hadvances huv
  unfold offsetAt
  cases hrule : z.yearly with
  | none => exact hlisted hst
  | some r =>
    simp only [hrule, Bool.and_eq_true, decide_eq_true_eq] at hyearly
    obtain ⟨hsteady, hjoin⟩ := hyearly
    simp only
    rcases Int.lt_or_le t (YearlyRule.yearStart r.firstYear) with ht | ht
    · rw [if_neg (by omega), if_neg (by omega)]
      exact hlisted hst
    · rw [if_pos ht]
      rcases Int.lt_or_le s (YearlyRule.yearStart r.firstYear) with hs | hs
      -- the rule takes over between the two seconds
      · rw [if_neg (by omega)]
        calc localDay s (z.listedOffset s)
            ≤ localDay _ _ := hlisted (show s ≤ YearlyRule.yearStart r.firstYear - 1 by omega)
          _ ≤ localDay _ _ := hjoin
          _ ≤ localDay t (r.offsetAt t) :=
            YearlyRule.localDay_offsetAt_mono hsteady (Int.le_refl _) ht
      · rw [if_pos hs]
        exact YearlyRule.localDay_offsetAt_mono hsteady hs hst

/-- Of the zones that the program knows by name one is left out. -/
theorem steady_iff_of_named : ∀ z ∈ all, z.2.steady = true ↔ z.1 ≠ "America/St_Johns" := by
  decide +kernel

end Zone

/-! ## Service days -/

namespace ServiceClock

variable {clock : ServiceClock}

variable (clock) in
/-- Of two instants the later one has the later service day, or they share it. -/
def KeepsDaysInOrder : Prop :=
  ∀ {s t : Instant} {day day' : Day}, s ≤ t → clock.serviceDay s = .ok day →
    clock.serviceDay t = .ok day' → day ≤ day'

theorem keepsDaysInOrder_of_steady (h : clock.zone.steady = true) : clock.KeepsDaysInOrder := by
  intro s t day day' hst hday hday'
  have hnumber {u : Instant} {d : Day} (hd : clock.serviceDay u = .ok d) :
      d.number = Zone.localDay u.second (clock.zone.offsetAt u.second) := by
    obtain ⟨l, hlocal, rfl⟩ := exists_toLocal hd
    unfold toLocal at hlocal
    split at hlocal
    · rename_i hshift
      obtain ⟨hsecond, -⟩ := Instant.of?_eq_some_iff.mp hshift
      rw [← Except.ok.inj hlocal, Zone.localDay, ← hsecond]
      rfl
    · cases hlocal
  show day.number ≤ day'.number
  rw [hnumber hday, hnumber hday']
  apply Zone.localDay_mono h
  rw [Instant.le_def] at hst
  omega

end ServiceClock

end Headway
