import Headway.Observation.Event
import Headway.Observation.Key
import Headway.Settings.Basic

/-!
# Admission of samples

The time between two events is a sample of a travel time or of a dwell time. It is admitted when
both events are close enough to the schedule and the time lies strictly between two bounds. A
rejection names what was wrong; of several faults the first in the order of `Rejection` is named.

`rejection?_eq_none_iff` says when a pair is admitted.
-/

namespace Headway

/-- Why a sample was not admitted. -/
inductive Rejection where
  /-- One of the two events is missing. -/
  | missing
  /-- The later event deviates too much from the schedule. -/
  | adherence (event : Event) (seconds : Int)
  /-- The earlier event deviates too much from the schedule. -/
  | earlierAdherence (event : Event) (seconds : Int)
  /-- The time between the events is too short or too long. -/
  | duration (later : Event) (millis least greatest : Int)

namespace FilterSettings

variable (f : FilterSettings)

/-- The bounds on a duration, both excluded. -/
def bounds : Leg → Int × Int
  | .travel => (f.minTravel, f.maxTravel)
  | .dwell => (f.minDwell, f.maxDwell)

/-- The deviation of an event when it is out of bounds. -/
def excess? (e : Event) : Option Int :=
  match e.adherence with
  | some a => if adherenceWithin f.minAdherence f.maxAdherence a then none else some a
  | none => none

/-- Why the time between two events is not admitted, if it is not. -/
def rejection? (leg : Leg) (earlier later : Event) : Option Rejection :=
  match f.excess? later with
  | some a => some (.adherence later a)
  | none =>
    match f.excess? earlier with
    | some a => some (.earlierAdherence earlier a)
    | none =>
      let ms := later.millis - earlier.millis
      let (least, greatest) := f.bounds leg
      if ms ≤ least ∨ greatest ≤ ms then some (.duration later ms least greatest) else none

/-- The same for events that may be missing. -/
def rejectionOf? (leg : Leg) (earlier later : Option Event) : Option Rejection :=
  match earlier, later with
  | some e, some l => f.rejection? leg e l
  | _, _ => some .missing

/-- A headway lies strictly between its bounds. -/
def headwayWithin (ms : Int) : Bool := f.minHeadway < ms && ms < f.maxHeadway

theorem rejection?_eq_none_iff {leg : Leg} {earlier later : Event} :
    f.rejection? leg earlier later = none ↔
      f.excess? later = none ∧ f.excess? earlier = none ∧
        (f.bounds leg).1 < later.millis - earlier.millis ∧
        later.millis - earlier.millis < (f.bounds leg).2 := by
  unfold rejection?
  cases hl : f.excess? later with
  | some a => simp
  | none =>
    cases he : f.excess? earlier with
    | some a => simp
    | none =>
      simp only [true_and]
      split
      · rename_i h
        constructor
        · intro hn
          cases hn
        · rintro ⟨h₁, h₂⟩
          omega
      · rename_i h
        simp only [true_iff]
        omega

end FilterSettings

end Headway
