import Headway.Observation.Event

/-!
# Pairing events

A departure is paired with the vehicle's latest arrival at the same stop, and an arrival with its
latest departure from the stop path before, within one run of the trip and not after the event
itself. The lists searched are newest first, so the first match is the latest one.
-/

namespace Headway

/-- A candidate is an arrival that a departure can be paired with. -/
def Event.departsAfter (current candidate : Event) : Bool :=
  current.isDeparture && candidate.isArrival && candidate.stopId = current.stopId &&
    candidate.vehicleId = current.vehicleId &&
    candidate.frequencyStart = current.frequencyStart && candidate.time ≤ current.time

/-- A candidate is a departure from the stop path before that an arrival can be paired with. -/
def Event.arrivesAfter (current candidate : Event) : Bool :=
  current.isArrival && candidate.isDeparture &&
    candidate.stopPathIndex + 1 = current.stopPathIndex &&
    candidate.vehicleId = current.vehicleId &&
    candidate.frequencyStart = current.frequencyStart && candidate.time ≤ current.time

/-- An event is an arrival at the end of a stop path. -/
def Event.arrivesAt (index : Nat) (candidate : Event) : Bool :=
  candidate.isArrival && candidate.stopPathIndex = index

/-- The latest arrival at the same stop before a departure. -/
def previousArrival? (events : List Event) (current : Event) : Option Event :=
  events.find? current.departsAfter

/-- The latest departure from the stop path before an arrival. -/
def previousDeparture? (events : List Event) (current : Event) : Option Event :=
  events.find? current.arrivesAfter

/-- The latest arrival at the end of a stop path. -/
def arrivalAt? (events : List Event) (index : Nat) : Option Event :=
  events.find? (Event.arrivesAt index)

end Headway
