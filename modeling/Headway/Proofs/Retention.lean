import Headway.Retention

/-!
# What a retention keeps

The latest day only moves forward, so a day that is out of reach stays out of reach
(`isLive_of_isLive_observe`). Of two days the later one is kept at least as long
(`isLive_latest`). In which order days are observed, and how often, makes no difference
(`observe_comm`, `observe_self`). A retention that trails behind another one keeps all that the
other keeps, and goes on doing so while both observe the same days (`Trails.observe`).

The latest day is the last of those observed that were at most one day past the clock's
(`latestOf_observeAll`), so that nothing of the present ages out (`isLive_of_present`).
-/

namespace Headway

namespace Day

theorem latest_self (a : Day) : latest a a = a := Day.ext (by rw [number_latest]; omega)

theorem latest_comm (a b : Day) : latest a b = latest b a :=
  Day.ext (by rw [number_latest, number_latest]; omega)

theorem latest_right_comm (a b c : Day) : latest (latest a b) c = latest (latest a c) b :=
  Day.ext (by simp only [number_latest]; omega)

theorem latest_latest_self (a b : Day) : latest (latest a b) b = latest a b :=
  Day.ext (by simp only [number_latest]; omega)

theorem le_latest_left (a b : Day) : a ≤ latest a b := by
  show a.number ≤ (latest a b).number
  rw [number_latest]
  omega

theorem le_latest_right (a b : Day) : b ≤ latest a b := by
  rw [latest_comm]
  exact le_latest_left b a

end Day

namespace Retention

theorem isLive_iff {r : Retention} {day : Day} :
    r.isLive day = true ↔ ∀ l, r.latest = some l → l.number - day.number ≤ r.days := by
  unfold isLive
  cases r.latest with
  | none => simp
  | some l => simp

theorem isLive_of_isLive_observe {r : Retention} {today day other : Day}
    (h : (r.observe today day).isLive other = true) : r.isLive other = true := by
  by_cases ha : admits today day = true
  · rw [isLive_iff, latest_observe r today day ha, days_observe] at h
    rw [isLive_iff]
    intro l hl
    rw [hl] at h
    have hlatest := h (Day.latest l day) rfl
    rw [Day.number_latest] at hlatest
    omega
  · rwa [observe_of_not_admits r (by simpa using ha)] at h

theorem isLive_of_le {r : Retention} {a b : Day} (hab : a.number ≤ b.number)
    (h : r.isLive a = true) : r.isLive b = true := by
  rw [isLive_iff] at *
  intro l hl
  have := h l hl
  omega

/-- The later of two days is kept as long as one of them is. -/
theorem isLive_latest (r : Retention) (a b : Day) :
    r.isLive (Day.latest a b) = (r.isLive a || r.isLive b) := by
  have hnumber := Day.number_latest a b
  rw [Bool.eq_iff_iff, Bool.or_eq_true]
  constructor
  · intro h
    unfold Day.latest at h
    split at h
    · exact Or.inr h
    · exact Or.inl h
  · rintro (h | h)
    · exact isLive_of_le (by omega) h
    · exact isLive_of_le (by omega) h

/-- A day that is kept is later than one that is not. -/
theorem latest_eq_right {r : Retention} {a b : Day} (ha : r.isLive a = false)
    (hb : r.isLive b = true) : Day.latest a b = b := by
  have hlt : ¬ b.number ≤ a.number := fun h => by
    rw [isLive_of_le h hb] at ha
    cases ha
  have hnumber := Day.number_latest a b
  exact Day.ext (by omega)

theorem observe_comm (r : Retention) (today day today' day' : Day) :
    (r.observe today day).observe today' day' = (r.observe today' day').observe today day := by
  unfold observe
  by_cases h : admits today day = true
  · by_cases h' : admits today' day' = true
    · cases r.latest with
      | none => simp [h, h', Day.latest_comm day day']
      | some l => simp [h, h', Day.latest_right_comm l day day']
    · simp [h, h']
  · simp [h]

theorem observe_self (r : Retention) (today day : Day) :
    (r.observe today day).observe today day = r.observe today day := by
  unfold observe
  by_cases h : admits today day = true
  · cases r.latest with
    | none => simp [h, Day.latest_self]
    | some l => simp [h, Day.latest_latest_self]
  · simp [h]

/-! ## Two retentions -/

/-- A retention keeps all that another one keeps: it goes back as far, from a latest day that is not
later. -/
structure Trails (a b : Retention) : Prop where
  days : b.days ≤ a.days
  latest : ∀ l, a.latest = some l → ∃ l', b.latest = some l' ∧ l.number ≤ l'.number

namespace Trails

variable {a b : Retention}

theorem new {days days' : Nat} (h : days' ≤ days) : Trails (new days) (new days') where
  days := h
  latest l hl := by cases hl

theorem isLive (h : Trails a b) {day : Day} (hday : b.isLive day = true) : a.isLive day = true := by
  rw [isLive_iff] at *
  intro l hl
  obtain ⟨l', hl', hle⟩ := h.latest l hl
  have := hday l' hl'
  have := h.days
  omega

theorem observe_right (h : Trails a b) (today day : Day) : Trails a (b.observe today day) where
  days := by
    rw [days_observe]
    exact h.days
  latest l hl := by
    obtain ⟨l', hl', hle⟩ := h.latest l hl
    by_cases ha : admits today day = true
    · exact ⟨Day.latest l' day, by rw [latest_observe b today day ha, hl'],
        Int.le_trans hle (Day.le_latest_left l' day)⟩
    · rw [observe_of_not_admits b (by simpa using ha)]
      exact ⟨l', hl', hle⟩

theorem observe (h : Trails a b) (today day : Day) :
    Trails (a.observe today day) (b.observe today day) := by
  by_cases ha : admits today day = true
  · refine ⟨by rw [days_observe, days_observe]; exact h.days, ?_⟩
    rw [latest_observe a today day ha, latest_observe b today day ha]
    rintro l ⟨⟩
    refine ⟨_, rfl, ?_⟩
    cases hlatest : a.latest with
    | none =>
      cases b.latest with
      | none => exact Int.le_refl _
      | some l' => exact Day.le_latest_right l' day
    | some l =>
      obtain ⟨l', hl', hle⟩ := h.latest l hlatest
      rw [hl', Day.number_latest, Day.number_latest]
      omega
  · rw [observe_of_not_admits a (by simpa using ha)]
    exact h.observe_right today day

end Trails

/-! ## The days observed -/

/-- Takes note of several days, each with the day that the clock shows then. -/
def observeAll (r : Retention) (seen : List (Day × Day)) : Retention :=
  seen.foldl (fun r x => r.observe x.1 x.2) r

/-- Those of the days observed that are at most one day past the clock's. -/
def admitted (seen : List (Day × Day)) : List Day :=
  (seen.filter fun x => admits x.1 x.2).map Prod.snd

theorem admitted_append (seen more : List (Day × Day)) :
    admitted (seen ++ more) = admitted seen ++ admitted more := by
  rw [admitted, List.filter_append, List.map_append, admitted, admitted]

/-- The latest day is the last of some days, and there is none when there are none of them. -/
def LatestOf (r : Retention) (seen : List Day) : Prop :=
  match r.latest with
  | none => seen = []
  | some l => l ∈ seen ∧ ∀ day ∈ seen, day ≤ l

theorem days_observeAll (r : Retention) (seen : List (Day × Day)) :
    (r.observeAll seen).days = r.days := by
  induction seen generalizing r with
  | nil => rfl
  | cons x rest ih => exact (ih _).trans (r.days_observe x.1 x.2)

theorem LatestOf.observe {r : Retention} {seen : List Day} (h : r.LatestOf seen)
    (today day : Day) : (r.observe today day).LatestOf (seen ++ admitted [(today, day)]) := by
  by_cases ha : admits today day = true
  · have hadmitted : admitted [(today, day)] = [day] := by simp [admitted, ha]
    rw [hadmitted, LatestOf, latest_observe r today day ha]
    rw [LatestOf] at h
    cases hlatest : r.latest with
    | none =>
      simp only [hlatest] at h
      subst h
      refine ⟨List.mem_singleton_self day, fun other hother => ?_⟩
      obtain rfl := List.mem_singleton.mp hother
      exact Int.le_refl _
    | some l =>
      simp only [hlatest] at h
      obtain ⟨hl, hle⟩ := h
      refine ⟨?_, fun other hother => ?_⟩
      · show Day.latest l day ∈ seen ++ [day]
        unfold Day.latest
        split
        · exact List.mem_append_right seen (List.mem_singleton_self day)
        · exact List.mem_append_left [day] hl
      · rcases List.mem_append.mp hother with hother | hother
        · exact Int.le_trans (hle other hother) (Day.le_latest_left l day)
        · obtain rfl := List.mem_singleton.mp hother
          exact Day.le_latest_right l other
  · have hadmitted : admitted [(today, day)] = [] := by simp [admitted, ha]
    rw [hadmitted, List.append_nil, observe_of_not_admits r (by simpa using ha)]
    exact h

theorem latestOf_observeAll (days : Nat) (seen : List (Day × Day)) :
    ((new days).observeAll seen).LatestOf (admitted seen) := by
  suffices hfrom : ∀ (r : Retention) (before : List Day), r.LatestOf before →
      (r.observeAll seen).LatestOf (before ++ admitted seen) from hfrom (new days) [] rfl
  induction seen with
  | nil =>
    intro r before h
    rwa [show admitted [] = [] from rfl, List.append_nil]
  | cons x rest ih =>
    intro r before h
    have hrest := ih _ _ (h.observe x.1 x.2)
    rw [List.append_assoc, ← admitted_append] at hrest
    exact hrest

/-- While the clock never showed a later day than today, no day ages out that lies at most as many
days before tomorrow as are kept. -/
theorem isLive_of_present {days : Nat} {seen : List (Day × Day)} {today day : Day}
    (hclock : ∀ x ∈ seen, x.1 ≤ today) (hday : today.number + 1 - days ≤ day.number) :
    ((new days).observeAll seen).isLive day = true := by
  have hlatest := latestOf_observeAll days seen
  rw [isLive_iff, days_observeAll]
  intro l hl
  rw [LatestOf, hl] at hlatest
  obtain ⟨x, hx, rfl⟩ := List.mem_map.mp hlatest.1
  obtain ⟨hseen, hadmits⟩ := List.mem_filter.mp hx
  have hshown : x.1.number ≤ today.number := hclock x hseen
  have hnext : x.2.number ≤ x.1.number + 1 := of_decide_eq_true hadmits
  change x.2.number - day.number ≤ days
  omega

end Retention

end Headway
