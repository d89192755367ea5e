import Headway.Calendar.Instant

/-!
# Events

An event is one arrival or departure of one vehicle at one stop of a trip, as it was observed. A
deviation from the schedule counts seconds and is positive when the vehicle is late.
-/

namespace Headway

/-- The vehicle came, or it left. -/
inductive EventKind where
  | arrival
  | departure
  deriving DecidableEq

/-- The word for a kind of event. -/
def EventKind.name : EventKind → String
  | .arrival => "arrival"
  | .departure => "departure"

/-- One arrival or departure of one vehicle. The stop path that ends at the stop has the index
`stopPathIndex`; `frequencyStart` is the start of the run of a trip that has no fixed schedule. -/
structure Event where
  vehicleId : String
  tripId : String
  routeId : String
  stopId : String
  stopPathIndex : Nat
  time : Instant
  kind : EventKind
  adherence : Option Int
  frequencyStart : Option Instant
  deriving DecidableEq

namespace Event

/-- An arrival. -/
def isArrival (e : Event) : Bool := e.kind = .arrival

/-- A departure. -/
def isDeparture (e : Event) : Bool := e.kind = .departure

/-- The time in whole milliseconds since 1970. -/
def millis (e : Event) : Int := e.time.millis

end Event

/-- A deviation from the schedule lies between two bounds, both included. -/
def adherenceWithin (low high adherence : Int) : Bool := low ≤ adherence && adherence ≤ high

end Headway
