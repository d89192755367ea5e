import Headway.Admission
import Headway.Scalar
import Mathlib

/-!
# Admitted durations

Whatever bounds an agency sets, the time between two events of the calendar fits into 64 bits. So
an admitted time lies between the bounds and within 64 bits at once.
-/

namespace Headway

theorem Instant.millis_sub_mem_Icc (a b : Instant) :
    b.millis - a.millis ∈ Set.Icc leastMillis greatestMillis := by
  have ha := a.first_le
  have ha' := a.lt_end
  have hb := b.first_le
  have hb' := b.lt_end
  have hna := a.nano_lt
  have hnb := b.nano_lt
  simp only [firstDayNumber, lastDayNumber] at ha ha' hb hb'
  simp only [Instant.millis, leastMillis, greatestMillis, Set.mem_Icc]
  omega

namespace FilterSettings

variable (f : FilterSettings)

/-- The lower bound on admitted durations, within 64 bits. -/
def least (leg : Leg) : Int := max (f.bounds leg).1 leastMillis

/-- The upper bound on admitted durations, within 64 bits. -/
def greatest (leg : Leg) : Int := min (f.bounds leg).2 greatestMillis

theorem leastMillis_le_least (leg : Leg) : leastMillis ≤ f.least leg := by
  unfold least
  omega

theorem greatest_le_greatestMillis (leg : Leg) : f.greatest leg ≤ greatestMillis := by
  unfold greatest
  omega

theorem bounds_of_mem_Icc {leg : Leg} {ms : Int}
    (h : ms ∈ Set.Icc (f.least leg) (f.greatest leg)) :
    (f.bounds leg).1 ≤ ms ∧ ms ≤ (f.bounds leg).2 := by
  obtain ⟨hlo, hhi⟩ := h
  unfold least at hlo
  unfold greatest at hhi
  omega

theorem admitted_mem_Icc {leg : Leg} {earlier later : Event}
    (h : f.rejection? leg earlier later = none) :
    later.millis - earlier.millis ∈ Set.Icc (f.least leg) (f.greatest leg) := by
  obtain ⟨-, -, hlo, hhi⟩ := f.rejection?_eq_none_iff.mp h
  obtain ⟨hleast, hgreatest⟩ := Instant.millis_sub_mem_Icc earlier.time later.time
  exact ⟨max_le (le_of_lt hlo) hleast, le_min (le_of_lt hhi) hgreatest⟩

end FilterSettings

end Headway
