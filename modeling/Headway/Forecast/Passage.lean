import Headway.Forecast.Attempt
import Headway.Forecast.Estimate
import Headway.Kalman.Step
import Headway.Service.Memory

/-!
# Passages on record

A passage is one vehicle's way along a stop path: its departure from the stop before and its arrival
at the stop. An estimator looks for the passage of the last vehicle today, and for those of the same
run on previous days.
-/

namespace Headway

/-- A departure from one stop with the arrival at the next. -/
structure Passage where
  departure : Event
  arrival : Event

namespace Passage

/-- The travel time in milliseconds. -/
def millis (p : Passage) : Int := p.arrival.millis - p.departure.millis

/-- The passage by the times at its ends. -/
def traversal (p : Passage) : Traversal := ⟨some p.departure.millis, some p.arrival.millis⟩

end Passage

namespace Context

variable {R : Type} (ctx : Context R)

/-- A candidate is an arrival of another vehicle on the trip's route, not after the report. -/
def isLastArrival (candidate : Event) : Bool :=
  candidate.isArrival && candidate.vehicleId ≠ ctx.vehicle.vehicleId &&
    candidate.routeId = ctx.trip.routeId && candidate.time ≤ ctx.report.time

end Context

/-- A candidate is a departure with which the passage of an arrived vehicle began. -/
def isDepartureOf (arrival candidate : Event) : Bool :=
  candidate.isDeparture && candidate.vehicleId = arrival.vehicleId &&
    candidate.tripId = arrival.tripId && candidate.time ≤ arrival.time

/-- The passage that a run's history, newest first, has along a stop path. -/
def passageIn? (history : List Event) (index : Nat) : Option Passage := do
  let arrival ← arrivalAt? history index
  let departure ← previousDeparture? history arrival
  return ⟨departure, arrival⟩

namespace Service

variable {R : Type} (svc : Service R)

/-- Goes on only if the time of a passage is admitted. -/
def requireAdmissible (p : Passage) : Attempt R Unit :=
  match svc.settings.filters.rejection? .travel p.departure p.arrival with
  | some reason => do
    Attempt.notify [.rejected .travel reason]
    Attempt.noData
  | none => Attempt.value ()

/-- The passage along the stop path that another vehicle on the route completed last today, when its
time is admitted and positive. -/
def lastPassage (m : Memory R) (ctx : Context R) : Attempt R Passage := do
  Attempt.guard (ctx.stopPathIndex ≠ 0)
  let stop ← Attempt.ofOption (ctx.trip.stopId? ctx.stopPathIndex)
  let stopBefore ← Attempt.ofOption (ctx.trip.stopId? (ctx.stopPathIndex - 1))
  let day ← Attempt.ofLocal (svc.clock.serviceDay ctx.report.time)
  let arrivals ← Attempt.ofOption (EventLog.get? m.stops ⟨stop, day⟩)
  let arrival ← Attempt.ofOption (arrivals.find? ctx.isLastArrival)
  let departures ← Attempt.ofOption (EventLog.get? m.stops ⟨stopBefore, day⟩)
  let departure ← Attempt.ofOption (departures.find? (isDepartureOf arrival))
  let passage : Passage := ⟨departure, arrival⟩
  svc.requireAdmissible passage
  Attempt.guard (0 < passage.millis)
  return passage

/-- The passages found while looking at a number of days before a day, with those found so far. The
search ends when there are enough, and the passages stand in the order of their days. -/
def searchDays (m : Memory R) (tripId : String) (start : Option Int) (index : Nat) :
    Nat → Day → List Passage → List (Notice R) × List Passage
  | 0, _, found => ([], found)
  | n + 1, day, found =>
    if svc.settings.kalman.maxDays ≤ found.length then ([], found)
    else
      match day.addDays? (-1) with
      | none => ([], found)
      | some earlier =>
        match (m.trips.log.get? ⟨tripId, earlier, start⟩).bind (passageIn? · index) with
        | none => searchDays m tripId start index n earlier found
        | some p =>
          match svc.settings.filters.rejection? .travel p.departure p.arrival with
          | some reason =>
            let (notices, found) := searchDays m tripId start index n earlier found
            (.rejected .travel reason :: notices, found)
          | none => searchDays m tripId start index n earlier (p :: found)

/-- The passages of the same run on the days before the report's service day, oldest first. -/
def previousPassages (m : Memory R) (ctx : Context R) (start : Option Int) :
    Attempt R (List Passage) := do
  let today ← Attempt.ofLocal (svc.clock.serviceDay ctx.report.time)
  let (notices, passages) := svc.searchDays m ctx.trip.tripId start ctx.stopPathIndex
    svc.settings.kalman.maxDaysToSearch today []
  Attempt.notify notices
  return passages

end Service

end Headway
