import Headway.Document.Shape
import Headway.Json.Value
import Headway.Kalman.FilterErrors
import Headway.Mean.Basic
import Headway.Observation.Event
import Headway.Observation.Key
import Headway.Schedule

/-!
# Observations in exchange

The form in which events and trips come in, and in which events, keys, means and filter errors go
out. Times are texts (`Instant.text`), and what is missing goes out as null.
-/

namespace Headway

/-! ## Coming in -/

/-- The kind of an event. -/
def EventKind.decoder : Decoder EventKind :=
  Decoder.choice ([.arrival, .departure].map fun k => (EventKind.name k, k))

/-- An event. -/
def Event.shape : Shape Event :=
  Event.mk <$> .required "vehicle_id" Decoder.text
    <*> .required "trip_id" Decoder.text
    <*> .required "route_id" Decoder.text
    <*> .required "stop_id" Decoder.text
    <*> .required "stop_path_index" Decoder.nat32
    <*> .required "time" Decoder.instant
    <*> .required "event_type" EventKind.decoder
    <*> .optional "schedule_adherence" Decoder.int32
    <*> .optional "freq_start_time" Decoder.instant

/-- A trip. -/
def Trip.shape : Shape Trip :=
  Trip.mk <$> .required "trip_id" Decoder.text
    <*> .required "route_id" Decoder.text
    <*> .withDefault "no_schedule" Decoder.truth false
    <*> .optional "start_time" Decoder.int32
    <*> .withDefault "stop_ids" Decoder.text.listOf []
    <*> .withDefault "travel_times_ms" Decoder.int64.listOf []
    <*> .withDefault "dwell_times_ms" Decoder.int64.listOf []

/-- A schedule, as the list of its trips. -/
def Schedule.decoder : Decoder Schedule := fun doc =>
  (Trip.shape.decode.listOf doc).map Schedule.ofTrips

/-! ## Going out -/

/-- An instant. -/
def Instant.toJson (t : Instant) : Json := .text t.text

/-- A day. -/
def Day.toJson (d : Day) : Json := .text d.text

/-- An event. -/
def Event.toJson (e : Event) : Json :=
  .record
    [("vehicle_id", .text e.vehicleId), ("trip_id", .text e.tripId), ("route_id", .text e.routeId),
      ("stop_id", .text e.stopId), ("stop_path_index", .ofNat e.stopPathIndex),
      ("time", e.time.toJson), ("event_type", .text e.kind.name),
      ("schedule_adherence", .ofOption .whole e.adherence),
      ("freq_start_time", .ofOption Instant.toJson e.frequencyStart)]

/-- The key of a segment. -/
def SegmentKey.toJson (k : SegmentKey) : Json :=
  .record
    [("trip_id", .text k.tripId), ("stop_path_index", .ofNat k.stopPathIndex),
      ("travel_time", .bool k.leg.isTravel), ("time_bucket", .ofOption .whole k.bucket)]

/-- The key of a run. -/
def TripKey.toJson (k : TripKey) : Json :=
  .record
    [("trip_id", .text k.tripId), ("service_day", k.serviceDay.toJson),
      ("start_time", .ofOption .whole k.start)]

/-- The key of a stop on a service day. -/
def StopKey.toJson (k : StopKey) : Json :=
  .record [("stop_id", .text k.stopId), ("service_day", k.serviceDay.toJson)]

/-- The key of a stop path. -/
def PathKey.toJson (k : PathKey) : Json :=
  .record [("trip_id", .text k.tripId), ("stop_path_index", .ofNat k.stopPathIndex)]

/-- The key of a vehicle on hold. -/
def HoldKey.toJson (k : HoldKey) : Json :=
  .record [("stop_id", .text k.stopId), ("vehicle_id", .text k.vehicleId)]

/-- A mean. -/
def Mean.toJson (m : Mean Float) : Json :=
  .record [("count", .ofNat m.count), ("average", .fraction m.value)]

/-- A filter error. -/
def FilterError.toJson (e : FilterError Float) : Json :=
  .record [("error", .fraction e.error), ("updates", .ofNat e.updates)]

end Headway
