import Headway.Forecast.Passage

/-!
# Estimators

One attempt per strategy. The mean of a segment counts from a number of samples on; the last vehicle
gives its own travel time; the Kalman filter weighs it against previous days; a dwell model predicts
from the headway; and the schedule always has an answer.
-/

namespace Headway

namespace Service

variable {R : Type} [Scalar R] (svc : Service R)

/-- The mean of the segment, once it rests on enough samples. A trip that runs by frequency needs
the start of the run to be known. -/
def fromMean (m : Memory R) (ctx : Context R) (leg : Leg) : Attempt R (Estimate R) := do
  Attempt.guard (!ctx.trip.byFrequency || ctx.vehicle.runStart.isSome)
  let means := m.means ctx.trip.byFrequency
  let key ← Attempt.ofLocal
    (means.space.key svc.clock ctx.trip.tripId ctx.stopPathIndex leg ctx.report.time)
  let mean ← Attempt.ofOption (means.store.get? key)
  Attempt.guard (svc.settings.averages.minDays ≤ mean.count)
  return ⟨Scalar.truncate mean.value, .historicalAverage, none⟩

/-- The travel time of the last vehicle. -/
def fromLastVehicle (m : Memory R) (ctx : Context R) : Attempt R (Estimate R) := do
  let passage ← svc.lastPassage m ctx
  return ⟨passage.millis, .lastVehicle, none⟩

/-- The error from which the filter starts: that of the last Kalman estimate on the walk, else the
one on record for the last vehicle's trip, else the initial one. -/
def startingError (m : Memory R) (ctx : Context R) (last : Passage) : R :=
  match ctx.carriedError with
  | some e => e
  | none =>
    match Table.get? m.filterErrors ⟨last.arrival.tripId, ctx.stopPathIndex⟩ with
    | some e => e.error
    | none => svc.settings.kalman.initialError

/-- The Kalman estimate, once there are enough previous days. -/
def fromKalman (m : Memory R) (ctx : Context R) : Attempt R (Estimate R) := do
  let last ← svc.lastPassage m ctx
  let known ← Attempt.ofLocal
    (TripHistory.runStart svc.clock ctx.trip ctx.vehicle.runStart)
  let start ← Attempt.ofOption known
  let days ← svc.previousPassages m ctx start
  Attempt.guard (svc.settings.kalman.minDays ≤ days.length)
  let estimate ← (⟨[], Kalman.step svc.settings.kalman.useAverage last.traversal
    (days.map Passage.traversal) (svc.startingError m ctx last)⟩ : Attempt R (KalmanEstimate R))
  return ⟨Scalar.truncate estimate.result, .kalman, some estimate.filterError⟩

/-- The prediction of the dwell model, which needs the headway and is never negative. -/
def fromDwellModel (m : Memory R) (ctx : Context R) : Attempt R (Estimate R) := do
  let headway ← Attempt.ofOption ctx.vehicle.headway
  let ms ← Attempt.ofOption
    (m.dwellModels.predict? (.plain ctx.trip.tripId ctx.stopPathIndex .dwell) headway)
  return ⟨max ms 0, .dwellModel, none⟩

/-- One attempt at a travel time. -/
def attemptTravel (m : Memory R) (ctx : Context R) : TravelStrategy → Attempt R (Estimate R)
  | .historicalAverage => svc.fromMean m ctx .travel
  | .lastVehicle => svc.fromLastVehicle m ctx
  | .kalman => svc.fromKalman m ctx
  | .scheduleDefault => Attempt.value ctx.scheduledTravel

/-- One attempt at a dwell time. -/
def attemptDwell (m : Memory R) (ctx : Context R) : DwellStrategy → Attempt R (Estimate R)
  | .dwellModel => fromDwellModel m ctx
  | .historicalAverage => svc.fromMean m ctx .dwell
  | .scheduleDefault => Attempt.value ctx.scheduledDwell

end Service

end Headway
