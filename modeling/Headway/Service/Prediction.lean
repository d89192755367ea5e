import Headway.Forecast.Chain
import Headway.Service.Step

/-!
# Predictions

The estimate for one stop path, and the walk along the rest of a trip. On a walk, travel and dwell
times add up to horizons, which are corrected for bias and added to the time of the report. The
filter error of a Kalman estimate is carried along.

Estimates that are to be recorded give a prediction record, whether or not the walk succeeds.
-/

namespace Headway

/-- The prediction for one stop of a walk, with horizons in milliseconds. -/
structure StopPrediction (R : Type) where
  stopPathIndex : Nat
  stopId : Option String
  travel : Estimate R
  dwell : Estimate R
  arrivalHorizon : Int
  departureHorizon : Int
  arrival : Instant
  departure : Instant

/-- The prediction for the rest of a trip. -/
structure TripPrediction (R : Type) where
  tripId : String
  vehicleId : String
  generatedAt : Instant
  stops : List (StopPrediction R)

/-- Asks for the stops from a stop path on, at most a given number of them. -/
structure TripRequest where
  report : Report
  vehicle : VehicleState
  stopPathIndex : Nat
  maxStopPaths : Option Nat

namespace TripRequest

/-- The number of stop paths to walk on a trip. -/
def length (request : TripRequest) (trip : Trip) : Nat :=
  let remaining := trip.stopPathCount - request.stopPathIndex
  match request.maxStopPaths with
  | some limit => min remaining limit
  | none => remaining

end TripRequest

/-- The time that lies a horizon after another one. -/
def horizonTime {R : Type} (start : Instant) (horizon : Int) : Except (Failure R) Instant :=
  match start.addMillis? horizon with
  | some t => .ok t
  | none => .error (.horizonOutOfRange horizon)

namespace Service

variable {R : Type} (svc : Service R)

/-- The prediction record of an estimate, if one is to be made. -/
def recordOf (ctx : Context R) (leg : Leg) (e : Estimate R) :
    Except NoLocalTime (List PredictionRecord) :=
  if svc.recordsLeg leg then do
    let bucket ←
      if ctx.trip.byFrequency then (svc.clock.bucket ctx.report.time).map some else .ok none
    let record : PredictionRecord :=
      { vehicleId := ctx.vehicle.vehicleId
        generatedAt := ctx.report.time
        millis := e.millis
        tripId := ctx.trip.tripId
        stopPathIndex := ctx.stopPathIndex
        algorithm := e.algorithm
        leg
        bucket }
    return if svc.recorder = .kept then [record] else []
  else
    .ok []

variable [Scalar R]

/-- The memory after an estimate: the error of a Kalman estimate is kept for its stop path. -/
def remember (m : Memory R) (ctx : Context R) (e : Estimate R) : Memory R :=
  match e.filterError with
  | some error => { m with filterErrors := m.filterErrors.write ctx.path error }
  | none => m

/-- Estimates a leg of a stop path. -/
def estimate (leg : Leg) (ctx : Context R) (m : Memory R) : Step R (Estimate R) :=
  let found := svc.find m ctx leg
  (Step.notify (remember m ctx found.estimate) found.notices).andThen fun _ m =>
    (Step.ofLocal m (svc.recordOf ctx leg found.estimate)).andThen fun records m =>
      ⟨m, [], records, .ok found.estimate⟩

/-- The estimate for one stop path. An unknown trip takes no time. -/
def predict (tripId : String) (index : Nat) (leg : Leg) (report : Report) (vehicle : VehicleState)
    (m : Memory R) : Step R (Estimate R) :=
  match svc.trip? tripId with
  | some trip => svc.estimate leg ⟨trip, index, report, vehicle, none⟩ m
  | none =>
    (Step.notify m [.unknownTripRequest tripId vehicle.vehicleId]).map fun _ =>
      ⟨0, .schedule, none⟩

/-- The prediction for a stop, from its estimates and the sums of times up to its arrival and up to
its departure. -/
def stopPrediction (ctx : Context R) (travel dwell : Estimate R)
    (untilArrival untilDeparture : Int) : Except (Failure R) (StopPrediction R) := do
  let arrivalHorizon := svc.bias.adjust untilArrival
  let departureHorizon := svc.bias.adjust untilDeparture
  let arrival ← horizonTime ctx.report.time arrivalHorizon
  let departure ← horizonTime ctx.report.time departureHorizon
  return { stopPathIndex := ctx.stopPathIndex
           stopId := ctx.trip.stopId? ctx.stopPathIndex
           travel, dwell, arrivalHorizon, departureHorizon, arrival, departure }

/-- Walks a number of stop paths from one on, with the time passed so far. Sums of times stay within
64 bits. -/
def walk (trip : Trip) (report : Report) (vehicle : VehicleState) :
    Nat → Nat → Option R → Int → Memory R → Step R (List (StopPrediction R))
  | 0, _, _, _, m => Step.done m []
  | n + 1, index, carried, elapsed, m =>
    (svc.estimate .travel ⟨trip, index, report, vehicle, carried⟩ m).andThen fun travel m =>
      let carried := travel.filterError.or carried
      let ctx : Context R := ⟨trip, index, report, vehicle, carried⟩
      let untilArrival := saturate (elapsed + travel.millis)
      (svc.estimate .dwell ctx m).andThen fun dwell m =>
        let untilDeparture := saturate (untilArrival + dwell.millis)
        match svc.stopPrediction ctx travel dwell untilArrival untilDeparture with
        | .ok stop =>
          (walk trip report vehicle n (index + 1) carried untilDeparture m).map (stop :: ·)
        | .error f => Step.fail m f

/-- Predicts the rest of a vehicle's trip. -/
def predictTrip (request : TripRequest) (m : Memory R) : Step R (TripPrediction R) :=
  match svc.trip? request.vehicle.tripId with
  | none => Step.fail m (.unknownTrip request.vehicle.tripId)
  | some trip =>
    (svc.walk trip request.report request.vehicle (request.length trip) request.stopPathIndex
      none 0 m).map fun stops =>
        { tripId := trip.tripId
          vehicleId := request.vehicle.vehicleId
          generatedAt := request.report.time
          stops }

end Service

end Headway
