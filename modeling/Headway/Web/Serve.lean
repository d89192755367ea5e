import Headway.Exchange.Forecasts
import Headway.Web.Route

/-!
# Serving requests

Every request is a step of the service: it may change the memory, and it has an answer. Only an
instant without local time leaves a request without one.
-/

namespace Headway

namespace Web

/-! ## Queries -/

/-- Asks for the mean of a segment. -/
def meanQuery : Shape SegmentKey :=
  (fun trip index travel bucket => SegmentKey.mk trip index (Leg.ofBool travel) bucket) <$>
    .required "trip_id" Decoder.text
    <*> .required "stop_path_index" Query.nat32
    <*> .withDefault "travel_time" Query.truth true
    <*> optionalField "time_bucket" Query.int32

/-- Asks for the keys of one space. -/
def keysQuery : Shape Bool := .withDefault "frequency" Query.truth false

/-- Asks for a stop path. -/
def pathQuery : Shape PathKey :=
  PathKey.mk <$> .required "trip_id" Decoder.text <*> .required "stop_path_index" Query.nat32

/-- Asks for a run. -/
def runQuery : Shape TripKey :=
  TripKey.mk <$> .required "trip_id" Decoder.text
    <*> .required "service_day" Decoder.day
    <*> optionalField "start_time" Query.int32

/-! ## Answers of the service -/

/-- The status with which a failure is answered. -/
def statusOf {R : Type} : Failure R → Nat
  | .futureEvent .. => 400
  | .horizonOutOfRange _ => 400
  | .unknownTrip _ => 404
  | _ => 500

/-- The answer for the result of a step. -/
def answerOf {α : Type} (answer : α → Answer) :
    Except (Failure Float) α → Except NoLocalTime Answer
  | .ok a => .ok (answer a)
  | .error (.noLocalTime cause) => .error cause
  | .error f => .ok (.failed (statusOf f) f.message)

/-- A memory and an answer. -/
abbrev Served := Memory Float × Except NoLocalTime Answer

/-- The answer for a step. -/
def served {α : Type} (s : Step Float α) (answer : α → Answer) : Served :=
  (s.memory, answerOf answer s.result)

/-- The answer for a step whose result is what was asked for. -/
def servedAs {α : Type} (s : Step Float α) (toJson : α → Json) : Served :=
  served s fun a => .ok (toJson a)

/-- Keys in the order of listings. -/
def keysAnswer {κ : Type} [Listed κ] (toJson : κ → Json) (keys : List κ) : Answer :=
  .ok (.record [("keys", .ofList toJson (listed keys))])

/-- Something on record, or the message that there is none. -/
def recordAnswer {α : Type} (found : Option α) (toJson : α → List (String × Json))
    (message : String) : Answer :=
  match found with
  | some a => .ok (.record (toJson a))
  | none => .failed 404 message

/-- The mean of a segment. -/
def meanAnswer (m : Memory Float) (k : SegmentKey) : Answer :=
  recordAnswer (m.meanOf? k) (fun mean => [("key", k.toJson), ("average", mean.toJson)])
    ("No historical average for " ++ k.text)

/-- The filter error of a stop path. -/
def filterErrorAnswer (m : Memory Float) (k : PathKey) : Answer :=
  recordAnswer (m.filterErrors.get? k) (fun e => [("key", k.toJson), ("error", e.toJson)])
    ("No Kalman error for trip " ++ k.tripId ++ " stop path " ++ toString k.stopPathIndex)

/-- The events of a run, newest first. -/
def runAnswer (m : Memory Float) (k : TripKey) : Answer :=
  recordAnswer (m.trips.log.get? k)
    (fun events => [("key", k.toJson), ("events", .ofList Event.toJson events)])
    ("No trip history for " ++ k.text)

/-- How much is on record. -/
def healthAnswer (m : Memory Float) : Answer :=
  .ok <| .record
    [("healthy", .bool true), ("trip_history_entries", .ofNat m.trips.log.size),
      ("stop_history_entries", .ofNat m.stops.size),
      ("schedule_average_entries", .ofNat m.scheduleMeans.store.size),
      ("frequency_average_entries", .ofNat m.frequencyMeans.store.size),
      ("kalman_error_entries", .ofNat m.filterErrors.size),
      ("dwell_model_entries", .ofNat m.dwellModels.size),
      ("holding_time_entries", .ofNat m.holds.size)]

/-- The hold of an arriving vehicle, or the message that it cannot be held. -/
def holdAnswer (request : HoldRequest) : Option Hold → Answer
  | some h => .ok h.toJson
  | none =>
    .failed 400 ("Stop " ++ request.arrival.stopId ++
      " is not a control stop or the event is not an arrival")

/-! ## Requests -/

/-- Answers a request at a route. -/
def serveAt (svc : Service Float) (now : Instant) (request : Request) (m : Memory Float) :
    Route → Except Refusal Served
  | .events => do
    let e ← request.decodeBody Event.shape
    return servedAs (svc.record now e m) Recorded.toJson
  | .predictLeg => do
    let r ← request.decodeBody LegRequest.shape
    return servedAs (svc.predict r.tripId r.stopPathIndex r.leg r.report r.vehicle m)
      Estimate.toJson
  | .predictTrip => do
    let r ← request.decodeBody TripRequest.shape
    return servedAs (svc.predictTrip r m) TripPrediction.toJson
  | .hold => do
    let r ← request.decodeBody HoldRequest.shape
    return served (svc.hold r.arrival r.predictions m) (holdAnswer r)
  | .mean => do
    let k ← request.decodeQuery meanQuery
    return (m, .ok (meanAnswer m k))
  | .meanKeys => do
    let byFrequency ← request.decodeQuery keysQuery
    return (m, .ok (keysAnswer SegmentKey.toJson (m.means byFrequency).store.keys))
  | .filterError => do
    let k ← request.decodeQuery pathQuery
    return (m, .ok (filterErrorAnswer m k))
  | .filterErrorKeys => return (m, .ok (keysAnswer PathKey.toJson m.filterErrors.keys))
  | .runHistory => do
    let k ← request.decodeQuery runQuery
    return (m, .ok (runAnswer m k))
  | .holdKeys => return (m, .ok (keysAnswer HoldKey.toJson m.holds.keys))
  | .health => return (m, .ok (healthAnswer m))

/-- Answers a request. A `HEAD` request gets the answer without its body. -/
def serve (svc : Service Float) (now : Instant) (request : Request) (m : Memory Float) : Served :=
  let served :=
    match Route.ofRequest request >>= serveAt svc now request m with
    | .ok served => served
    | .error refusal => (m, .ok refusal.answer)
  if request.method == "HEAD" then (served.1, served.2.map Answer.headOnly) else served

end Web

end Headway
