import Headway.Mean.Segment
import Headway.Schedule

/-!
# Estimates and requests

What is asked for, and what is answered: the report of a vehicle's position, what is known about the
vehicle, the stop path in question, and the estimate with what produced it.
-/

namespace Headway

/-- A vehicle reported its position at a time. -/
structure Report where
  vehicleId : String
  time : Instant
  deriving DecidableEq

/-- What is known about a vehicle: its trip, the start of its run if the trip runs by frequency, and
the gap to the vehicle ahead in milliseconds. -/
structure VehicleState where
  vehicleId : String
  tripId : String
  runStart : Option Instant
  headway : Option Int
  deriving DecidableEq

/-- An estimate in milliseconds. A Kalman estimate carries the error that the next one starts
from. -/
structure Estimate (R : Type) where
  millis : Int
  algorithm : Algorithm
  filterError : Option R

/-- The stop path for which an estimate is made. -/
structure Context (R : Type) where
  trip : Trip
  stopPathIndex : Nat
  report : Report
  vehicle : VehicleState
  /-- The filter error of the last Kalman estimate on the same walk. -/
  carriedError : Option R

namespace Context

variable {R : Type} (ctx : Context R)

/-- The stop path. -/
def path : PathKey := ⟨ctx.trip.tripId, ctx.stopPathIndex⟩

/-- The scheduled travel time, or none at all. -/
def scheduledTravel : Estimate R :=
  ⟨(ctx.trip.travelTime? ctx.stopPathIndex).getD 0, .schedule, none⟩

/-- The scheduled dwell time, or none at all. -/
def scheduledDwell : Estimate R :=
  ⟨(ctx.trip.dwellTime? ctx.stopPathIndex).getD 0, .schedule, none⟩

end Context

/-- An estimate as it is kept for later study. -/
structure PredictionRecord where
  vehicleId : String
  generatedAt : Instant
  millis : Int
  tripId : String
  stopPathIndex : Nat
  algorithm : Algorithm
  leg : Leg
  bucket : Option Int
  deriving DecidableEq

end Headway
