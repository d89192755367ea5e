import Headway.Calendar.Day

/-!
# Instants

An instant is a second since the start of 1970 and the nanoseconds into it. A leap second has no
second of its own: it is the second before it, with 10⁹ or more nanoseconds. Instants are ordered by
second first and nanoseconds second, so that a leap second comes after the second it extends.

* `Instant.addMillis?` adds a signed number of milliseconds, with no result outside the calendar.
  Outside leap seconds it adds exactly (`nanos_addMillis?`), and adding more never leads to an
  earlier instant (`addMillis?_mono`);
* `Instant.nanosSince` is the signed distance of two instants, counting a leap second that lies
  between their times of day;
* `Instant.millis` counts whole milliseconds since 1970, rounded down.
-/

namespace Headway

/-- A second of the calendar, with the nanoseconds into it. -/
structure Instant where
  second : Int
  nano : Nat
  nano_lt : nano < 2000000000
  first_le : firstDayNumber * 86400 ≤ second
  lt_end : second < (lastDayNumber + 1) * 86400
  deriving DecidableEq

namespace Instant

theorem ext {a b : Instant} (h : a.second = b.second) (h' : a.nano = b.nano) : a = b := by
  cases a
  cases b
  cases h
  cases h'
  rfl

/-- Comes before, or is the same. -/
instance : LE Instant := ⟨fun a b => a.second < b.second ∨ a.second = b.second ∧ a.nano ≤ b.nano⟩

/-- Comes before. -/
instance : LT Instant := ⟨fun a b => a.second < b.second ∨ a.second = b.second ∧ a.nano < b.nano⟩

instance (a b : Instant) : Decidable (a ≤ b) :=
  inferInstanceAs (Decidable (a.second < b.second ∨ a.second = b.second ∧ a.nano ≤ b.nano))

instance (a b : Instant) : Decidable (a < b) :=
  inferInstanceAs (Decidable (a.second < b.second ∨ a.second = b.second ∧ a.nano < b.nano))

theorem le_def {a b : Instant} :
    a ≤ b ↔ a.second < b.second ∨ a.second = b.second ∧ a.nano ≤ b.nano := Iff.rfl

theorem lt_def {a b : Instant} :
    a < b ↔ a.second < b.second ∨ a.second = b.second ∧ a.nano < b.nano := Iff.rfl

theorem le_refl (a : Instant) : a ≤ a := le_def.mpr (Or.inr ⟨rfl, Nat.le_refl _⟩)

theorem le_trans {a b c : Instant} (h : a ≤ b) (h' : b ≤ c) : a ≤ c := by
  rw [le_def] at *
  omega

theorem le_total (a b : Instant) : a ≤ b ∨ b ≤ a := by
  rw [le_def, le_def]
  omega

theorem le_antisymm {a b : Instant} (h : a ≤ b) (h' : b ≤ a) : a = b := by
  rw [le_def] at *
  exact ext (by omega) (by omega)

theorem not_le {a b : Instant} : ¬ a ≤ b ↔ b < a := by
  rw [le_def, lt_def]
  omega

/-- The later of two instants. -/
def latest (a b : Instant) : Instant := if a ≤ b then b else a

/-- The earlier of two instants. -/
def earlier (a b : Instant) : Instant := if a ≤ b then a else b

/-- The earliest of several instants. -/
def earliest? (ts : List Instant) : Option Instant :=
  ts.foldl (fun found t => match found with | none => some t | some u => earlier u t) none

/-- The latest of several instants. -/
def latest? (ts : List Instant) : Option Instant :=
  ts.foldl (fun found t => match found with | none => some t | some u => latest u t) none

/-- The instant with the given second and nanoseconds, if the calendar has it. -/
def of? (second nano : Int) : Option Instant :=
  if h : (firstDayNumber * 86400 ≤ second ∧ second < (lastDayNumber + 1) * 86400) ∧
      0 ≤ nano ∧ nano < 2000000000 then
    some ⟨second, nano.toNat, by omega, h.1.1, h.1.2⟩
  else
    none

theorem of?_eq_some_iff {second nano : Int} {t : Instant} :
    of? second nano = some t ↔ t.second = second ∧ (t.nano : Int) = nano := by
  unfold of?
  split
  · rename_i h
    rw [Option.some.injEq]
    constructor
    · rintro rfl
      exact ⟨rfl, Int.toNat_of_nonneg h.2.1⟩
    · rintro ⟨hs, hn⟩
      exact ext hs.symm (by simp only; omega)
  · rename_i h
    constructor
    · intro he
      cases he
    · rintro ⟨hs, hn⟩
      have := t.nano_lt
      have := t.first_le
      have := t.lt_end
      exact absurd ⟨⟨by omega, by omega⟩, by omega, by omega⟩ h

/-- Lies in a leap second. -/
def isLeap (t : Instant) : Bool := 1000000000 ≤ t.nano

/-- Whole milliseconds since the start of 1970, rounded down. -/
def millis (t : Instant) : Int := t.second * 1000 + (t.nano : Int) / 1000000

/-- Nanoseconds since the start of 1970. -/
def nanos (t : Instant) : Int := t.second * 1000000000 + t.nano

/-- The day on which an instant falls. -/
def day (t : Instant) : Day where
  number := t.second / 86400
  first_le := by have := t.first_le; simp only [firstDayNumber] at *; omega
  le_last := by have := t.lt_end; simp only [lastDayNumber] at *; omega

theorem day_mono {a b : Instant} (h : a ≤ b) : a.day ≤ b.day := by
  rw [le_def] at h
  show a.second / 86400 ≤ b.second / 86400
  omega

/-- Seconds since the start of the instant's day. -/
def secondOfDay (t : Instant) : Int := t.second % 86400

/-- Moves an instant by whole seconds, as a change of offset does: a leap second stays one. -/
def shift? (t : Instant) (seconds : Int) : Option Instant := of? (t.second + seconds) t.nano

/-- Moves an instant outside leap seconds by nanoseconds. -/
def normal? (second nano : Int) : Option Instant :=
  of? (second + nano / 1000000000) (nano % 1000000000)

/-- Adds signed milliseconds. From within a leap second, a whole second forward leaves it for the
second after it, a whole second back for the second that it extends, and less than a second stays in
it as long as its nanoseconds last. -/
def addMillis? (t : Instant) (ms : Int) : Option Instant :=
  let seconds := ms.tdiv 1000
  let nanos := ms.tmod 1000 * 1000000
  if t.isLeap then
    if seconds > 0 ∨ (nanos > 0 ∧ (t.nano : Int) + nanos ≥ 2000000000) then
      normal? (t.second + seconds) (t.nano - 1000000000 + nanos)
    else if seconds < 0 then
      normal? (t.second + 1 + seconds) (t.nano - 1000000000 + nanos)
    else
      of? t.second (t.nano + nanos)
  else
    normal? (t.second + seconds) (t.nano + nanos)

theorem nanos_addMillis? {t u : Instant} {ms : Int} (h : t.isLeap = false)
    (hu : t.addMillis? ms = some u) : u.nanos = t.nanos + ms * 1000000 ∧ u.isLeap = false := by
  simp only [addMillis?, h, Bool.false_eq_true, if_false, normal?, of?_eq_some_iff] at hu
  have hms := Int.tmod_add_mul_tdiv ms 1000
  have hpos : 0 ≤ ((t.nano : Int) + ms.tmod 1000 * 1000000) % 1000000000 :=
    Int.emod_nonneg _ (by omega)
  have hlt : ((t.nano : Int) + ms.tmod 1000 * 1000000) % 1000000000 < 1000000000 :=
    Int.emod_lt_of_pos _ (by omega)
  refine ⟨?_, ?_⟩
  · simp only [nanos]
    omega
  · simp only [isLeap, decide_eq_false_iff_not]
    omega

/-- Milliseconds are whole seconds and a rest on the same side of zero. -/
theorem seconds_and_rest (ms : Int) :
    ms.tmod 1000 + 1000 * ms.tdiv 1000 = ms ∧
      (0 ≤ ms.tmod 1000 ∧ 0 ≤ ms ∨ ms.tmod 1000 ≤ 0 ∧ ms ≤ 0) ∧
      -1000 < ms.tmod 1000 ∧ ms.tmod 1000 < 1000 := by
  refine ⟨Int.tmod_add_mul_tdiv ms 1000, ?_, Int.lt_tmod_of_pos ms (by omega),
    Int.tmod_lt_of_pos ms (by omega)⟩
  rcases Int.le_total 0 ms with h | h
  · exact Or.inl ⟨Int.tmod_nonneg 1000 h, h⟩
  · have hneg := Int.tmod_nonneg 1000 (show 0 ≤ -ms by omega)
    rw [Int.neg_tmod] at hneg
    exact Or.inr ⟨by omega, h⟩

/-- From within a leap second, time is counted on through that second, and past its end the second
is left out. -/
theorem nanos_addMillis?_of_isLeap {t u : Instant} {ms : Int} (h : t.isLeap = true)
    (hu : t.addMillis? ms = some u) :
    u.nanos = t.nanos + ms * 1000000 ∧
        (u.second = t.second ∨ u.second < t.second ∧ u.isLeap = false) ∨
      u.nanos + 1000000000 = t.nanos + ms * 1000000 ∧ t.second < u.second ∧ u.isLeap = false := by
  have hnano := t.nano_lt
  obtain ⟨hparts, hside, hlo, hhi⟩ := seconds_and_rest ms
  simp only [isLeap, decide_eq_true_eq, decide_eq_false_iff_not] at *
  simp only [addMillis?, isLeap, decide_eq_true_eq, if_pos h, normal?] at hu
  simp only [nanos]
  split at hu
  · rw [of?_eq_some_iff] at hu
    omega
  · split at hu
    · rw [of?_eq_some_iff] at hu
      omega
    · rw [of?_eq_some_iff] at hu
      omega

theorem addMillis?_zero (t : Instant) : t.addMillis? 0 = some t := by
  have hnano := t.nano_lt
  unfold addMillis? normal?
  split
  · rw [if_neg (by simp), if_neg (by simp), of?_eq_some_iff]
    exact ⟨rfl, by simp⟩
  · rename_i hleap
    simp only [isLeap, decide_eq_true_eq] at hleap
    simp only [of?_eq_some_iff, Int.zero_tdiv, Int.zero_tmod]
    omega

/-- Adding more never leads to an earlier instant. -/
theorem addMillis?_mono {t u v : Instant} {ms later : Int} (hu : t.addMillis? ms = some u)
    (hv : t.addMillis? later = some v) (h : ms ≤ later) : u ≤ v := by
  rw [le_def]
  cases hleap : t.isLeap with
  | false =>
    have hu := nanos_addMillis? hleap hu
    have hv := nanos_addMillis? hleap hv
    simp only [nanos, isLeap, decide_eq_false_iff_not] at hu hv
    omega
  | true =>
    have hu := nanos_addMillis?_of_isLeap hleap hu
    have hv := nanos_addMillis?_of_isLeap hleap hv
    have hnano := v.nano_lt
    simp only [nanos, isLeap, decide_eq_false_iff_not] at hu hv
    omega

/-- Signed nanoseconds from `b` to `a`. A leap second counts when it lies between the two times of
day. -/
def nanosSince (a b : Instant) : Int :=
  let leap : Int :=
    if a.secondOfDay > b.secondOfDay ∧ b.isLeap then 1
    else if a.secondOfDay < b.secondOfDay ∧ a.isLeap then -1
    else 0
  (a.second - b.second + leap) * 1000000000 + ((a.nano : Int) - b.nano)

/-- Signed whole milliseconds from `b` to `a`, rounded toward zero. -/
def millisSince (a b : Instant) : Int := (nanosSince a b).tdiv 1000000

end Instant

end Headway
