import Headway.Table

/-!
# Schedules

A trip lists, for each of its stop paths, the stop at its end and the scheduled travel and dwell
times; the lists may differ in length. A trip without a fixed schedule runs by frequency, and its
runs are told apart by their start.

A schedule holds one trip for each id.
-/

namespace Headway

/-- One scheduled trip. Times are in milliseconds, the start is in seconds of the service day. -/
structure Trip where
  tripId : String
  routeId : String
  byFrequency : Bool
  start : Option Int
  stopIds : List String
  travelTimes : List Int
  dwellTimes : List Int
  deriving DecidableEq

namespace Trip

/-- The stop at the end of a stop path. -/
def stopId? (t : Trip) (index : Nat) : Option String := t.stopIds[index]?

/-- The scheduled travel time of a stop path. -/
def travelTime? (t : Trip) (index : Nat) : Option Int := t.travelTimes[index]?

/-- The scheduled dwell time at the end of a stop path. -/
def dwellTime? (t : Trip) (index : Nat) : Option Int := t.dwellTimes[index]?

/-- The number of stop paths of which anything is known. -/
def stopPathCount (t : Trip) : Nat :=
  max (max t.stopIds.length t.travelTimes.length) t.dwellTimes.length

end Trip

/-- The trips of an agency by their ids. -/
abbrev Schedule := Table String Trip

/-- The schedule with the given trips, of which the last counts where two have one id. -/
def Schedule.ofTrips (trips : List Trip) : Schedule :=
  Table.ofList (trips.map fun t => (t.tripId, t))

end Headway
