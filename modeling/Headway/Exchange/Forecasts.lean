import Headway.Exchange.Observations
import Headway.Holding.Basic
import Headway.Service.Prediction
import Headway.Service.Recording

/-!
# Forecasts and holds in exchange

The form in which requests come in, and in which their answers go out. An estimate goes out with a
filter error only if it has one.
-/

namespace Headway

/-! ## Coming in -/

/-- A report of a vehicle's position. -/
def Report.shape : Shape Report :=
  Report.mk <$> .required "vehicle_id" Decoder.text <*> .required "time" Decoder.instant

/-- What is known about a vehicle. -/
def VehicleState.shape : Shape VehicleState :=
  VehicleState.mk <$> .required "vehicle_id" Decoder.text
    <*> .required "trip_id" Decoder.text
    <*> .optional "trip_start_time" Decoder.instant
    <*> .optional "headway_ms" Decoder.int64

/-- Asks for one leg of one stop path. -/
structure LegRequest where
  tripId : String
  stopPathIndex : Nat
  leg : Leg
  report : Report
  vehicle : VehicleState

/-- A leg, as whether it is the travel. -/
def Leg.decoder : Decoder Leg := fun doc => (Decoder.truth doc).map Leg.ofBool

/-- A request for one leg of one stop path. -/
def LegRequest.shape : Shape LegRequest :=
  LegRequest.mk <$> .required "trip_id" Decoder.text
    <*> .required "stop_path_index" Decoder.nat32
    <*> .required "travel_time" Leg.decoder
    <*> .required "avl" Report.shape.decode
    <*> .required "vehicle" VehicleState.shape.decode

/-- A request for the rest of a trip. -/
def TripRequest.shape : Shape TripRequest :=
  TripRequest.mk <$> .required "avl" Report.shape.decode
    <*> .required "vehicle" VehicleState.shape.decode
    <*> .required "stop_path_index" Decoder.nat32
    <*> .optional "max_stop_paths" Decoder.nat64

/-- The predicted arrival of a vehicle. -/
def ArrivalPrediction.shape : Shape ArrivalPrediction :=
  ArrivalPrediction.mk <$> .required "vehicle_id" Decoder.text
    <*> .required "time" Decoder.instant

/-- Asks how long to hold an arriving vehicle. -/
structure HoldRequest where
  arrival : Event
  predictions : List ArrivalPrediction

/-- A request for a hold. -/
def HoldRequest.shape : Shape HoldRequest :=
  HoldRequest.mk <$> .required "arrival" Event.shape.decode
    <*> .withDefault "predictions" ArrivalPrediction.shape.decode.listOf []

/-! ## Going out -/

/-- What became of a recorded event. -/
def Recorded.toJson (r : Recorded Float) : Json :=
  .record
    [("stop_key", r.stopKey.toJson), ("trip_key", .ofOption TripKey.toJson r.tripKey),
      ("average_key", .ofOption (fun u => u.key.toJson) r.updated),
      ("average", .ofOption (fun u => u.mean.toJson) r.updated)]

/-- An estimate. -/
def Estimate.toJson (e : Estimate Float) : Json :=
  .record <|
    [("value_ms", .whole e.millis), ("algorithm", .text e.algorithm.name)] ++
      (e.filterError.map fun x => ("filter_error", Json.fraction x)).toList

/-- The prediction for one stop. -/
def StopPrediction.toJson (s : StopPrediction Float) : Json :=
  .record
    [("stop_path_index", .ofNat s.stopPathIndex), ("stop_id", .ofOption .text s.stopId),
      ("travel_time", s.travel.toJson), ("dwell_time", s.dwell.toJson),
      ("arrival_horizon_ms", .whole s.arrivalHorizon),
      ("departure_horizon_ms", .whole s.departureHorizon), ("arrival_time", s.arrival.toJson),
      ("departure_time", s.departure.toJson)]

/-- The prediction for the rest of a trip. -/
def TripPrediction.toJson (p : TripPrediction Float) : Json :=
  .record
    [("trip_id", .text p.tripId), ("vehicle_id", .text p.vehicleId),
      ("generated_at", p.generatedAt.toJson), ("stops", .ofList StopPrediction.toJson p.stops)]

/-- A vehicle on hold. -/
def Hold.toJson (h : Hold) : Json :=
  .record
    [("vehicle_id", .text h.vehicleId), ("stop_id", .text h.stopId), ("trip_id", .text h.tripId),
      ("route_id", .text h.routeId), ("arrival_time", h.arrival.toJson),
      ("holding_time", h.release.toJson), ("has_reference_departure", .bool h.hasReference),
      ("predictions_used", .ofNat h.predictionsUsed)]

end Headway
