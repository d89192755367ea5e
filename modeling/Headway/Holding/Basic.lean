import Headway.Holding.Rule
import Headway.Observation.StopHistory
import Headway.Settings.Basic

/-!
# Vehicles on hold

A vehicle that arrives at a control stop is given the time at which it may leave. The reference is
the departure ahead of it: the earliest release of another vehicle that still waits at the stop, or
else the latest departure of another vehicle on record. The hold is kept until the vehicle leaves.
-/

namespace Headway

/-- The predicted arrival of a vehicle at the control stop. -/
structure ArrivalPrediction where
  vehicleId : String
  time : Instant
  deriving DecidableEq

/-- A vehicle on hold. It may leave at `release`. -/
structure Hold where
  vehicleId : String
  stopId : String
  tripId : String
  routeId : String
  arrival : Instant
  release : Instant
  /-- A departure ahead was known. -/
  hasReference : Bool
  /-- How many predicted arrivals were considered; none by the planned headway. -/
  predictionsUsed : Nat
  deriving DecidableEq

namespace Hold

/-- The stop and the vehicle. -/
def key (h : Hold) : HoldKey := ⟨h.stopId, h.vehicleId⟩

/-- How long the vehicle is held, in milliseconds. -/
def millis (h : Hold) : Int := h.release.millisSince h.arrival

/-- When the vehicle leaves, seen from a given time: not before it. -/
def leavesAt (h : Hold) (now : Instant) : Instant := h.release.latest now

end Hold

/-- The vehicles on hold. -/
abbrev Holds := Table HoldKey Hold

/-- Puts a vehicle on hold. -/
def Holds.add (holds : Holds) (h : Hold) : Holds := Table.put holds h.key h

/-- The vehicles on hold at a stop. -/
def Holds.atStop (holds : Holds) (stopId : String) : List Hold :=
  (Table.values holds).filter fun h => h.stopId = stopId

namespace HoldingSettings

variable (s : HoldingSettings)

/-- Vehicles may be held at a stop. -/
def isControlStop (stopId : String) : Bool := s.controlStops.contains stopId

/-- An event is an arrival at a control stop. -/
def holdsAt (e : Event) : Bool := e.isArrival && s.isControlStop e.stopId

/-- The times of the predicted arrivals behind a vehicle, earliest first. The first prediction is
left out when it is for the vehicle itself. -/
def arrivalsBehind (e : Event) (predictions : List ArrivalPrediction) : List Int :=
  let sorted := predictions.mergeSort fun p q => p.time ≤ q.time
  let behind :=
    match sorted with
    | first :: rest => if first.vehicleId = e.vehicleId then rest else sorted
    | [] => []
  behind.map fun p => p.time.millis

/-- The next release of another vehicle at the stop, not before the arrival. -/
def nextRelease? (e : Event) (holds : Holds) : Option Instant :=
  let others := (holds.atStop e.stopId).filter fun h => h.vehicleId ≠ e.vehicleId
  (Instant.earliest? (others.map Hold.release)).map fun t => t.latest e.time

/-- The latest departure of another vehicle in a list of events, not after the arrival. -/
def lastDeparture? (e : Event) (events : List Event) : Option Instant :=
  Instant.latest? ((events.filter fun d =>
    d.isDeparture && d.vehicleId ≠ e.vehicleId && d.time ≤ e.time).map Event.time)

/-- The departure ahead of an arriving vehicle. -/
def reference? (clock : ServiceClock) (e : Event) (stops : StopHistory) (holds : Holds) :
    Except NoLocalTime (Option Instant) :=
  match nextRelease? e holds with
  | some t => .ok (some t)
  | none =>
    (clock.serviceDay e.time).map fun day =>
      (EventLog.get? stops ⟨e.stopId, day⟩).bind (lastDeparture? e)

/-- How long to hold in milliseconds, and the number of predictions considered. -/
def amount (arrival : Int) (reference : Option Int) (behind : List Int) : Int × Nat :=
  match reference with
  | none => (0, 0)
  | some departure =>
    if 1 < behind.length then
      (Holding.byPredictions arrival departure behind s.maxPredictions,
        min behind.length s.maxPredictions)
    else
      (Holding.byPlan arrival departure s.plannedHeadway, 0)

/-- The hold of an arriving vehicle, given the departure ahead of it. -/
def holdFrom (e : Event) (predictions : List ArrivalPrediction) (reference : Option Instant) :
    Hold :=
  let (ms, used) := s.amount e.millis (reference.map Instant.millis) (arrivalsBehind e predictions)
  { vehicleId := e.vehicleId
    stopId := e.stopId
    tripId := e.tripId
    routeId := e.routeId
    arrival := e.time
    release := (e.time.addMillis? (min ms s.maxHolding)).getD e.time
    hasReference := reference.isSome
    predictionsUsed := used }

/-- The hold of a vehicle that arrives at a control stop. -/
def hold? (clock : ServiceClock) (e : Event) (predictions : List ArrivalPrediction)
    (stops : StopHistory) (holds : Holds) : Except NoLocalTime (Option Hold) :=
  if s.holdsAt e then
    (reference? clock e stops holds).map fun reference => some (s.holdFrom e predictions reference)
  else
    .ok none

/-- The vehicles on hold after an event: one that leaves a control stop is no longer held. -/
def afterEvent (e : Event) (holds : Holds) : Holds :=
  if e.isDeparture && s.isControlStop e.stopId then Table.erase holds ⟨e.stopId, e.vehicleId⟩
  else holds

end HoldingSettings

end Headway
