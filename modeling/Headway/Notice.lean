import Headway.Admission
import Headway.Calendar.Text
import Headway.Decimal.Shortest
import Headway.Failure

/-!
# Notices and messages

What the library reports beside its answers. A notice is a cause with its data; its level, its
message and its fields are derived from it. The text of a failure is derived in the same way.

Some failures are contained: an estimator that meets an instant without local time counts as one
without data, and its notice only says that it stopped.
-/

namespace Headway

/-- What happened beside an answer. -/
inductive Notice (R : Type) where
  /-- An event was refused because it is dated too far ahead. -/
  | futureEvent (vehicleId tripId : String) (time : Instant)
  /-- An event belongs to a trip that the schedule does not have. -/
  | unknownTripEvent (tripId vehicleId : String)
  /-- A prediction was requested for a trip that the schedule does not have. -/
  | unknownTripRequest (tripId vehicleId : String)
  /-- The run of a trip without a fixed schedule cannot be told. -/
  | unknownRun (tripId vehicleId : String)
  /-- A sample was not admitted. -/
  | rejected (leg : Leg) (reason : Rejection)
  /-- The vehicle ahead deviates too much from the schedule for its headway to count. -/
  | leaderAdherence (stopId : String) (seconds : Int)
  /-- The headway is too short or too long. -/
  | headway (stopId : String) (millis : Int)
  /-- An estimator failed, and the next strategy is tried. -/
  | estimatorFailed (leg : Leg) (failure : Failure R) (tripId : String) (stopPathIndex : Nat)
      (vehicleId strategy : String)
  /-- The Kalman estimate is far from what the next strategy would have given. -/
  | variation (tripId : String) (stopPathIndex : Nat) (vehicleId : String)
      (kalmanMillis otherMillis : Int) (other : Algorithm) (percentage : R)

/-- How serious a notice is. -/
inductive Level where
  | warning
  | error
  deriving DecidableEq

/-- The value of a field of a notice. -/
inductive FieldValue where
  | text (value : String)
  | whole (value : Int)
  | fraction (value : Float)

/-- The text of a failure. -/
def Failure.message : Failure Float → String
  | .segmentWithout missing => "Trip segment is missing its " ++ missing.name ++ " event"
  | .notFinite result filterError =>
    "Estimator produced a non-finite value: prediction " ++ shortestText result ++
      " filter error " ++ shortestText filterError
  | .unknownTrip tripId => "Unknown trip: " ++ tripId
  | .futureEvent vehicleId time =>
    "Event from vehicle " ++ vehicleId ++ " is dated " ++ time.spokenText ++
      ", too far in the future"
  | .horizonOutOfRange ms => "Prediction horizon of " ++ toString ms ++ " ms is out of range"
  | .noLocalTime _ => "Estimator panicked"

namespace Notice

/-- The level of a notice. -/
def level {R : Type} : Notice R → Level
  | .unknownRun .. => .error
  | .estimatorFailed .. => .error
  | _ => .warning

/-- The message of a notice. -/
def message {R : Type} : Notice R → String
  | .futureEvent .. => "Rejected event dated in the future"
  | .unknownTripEvent .. => "Event for unknown trip, only stop history updated"
  | .unknownTripRequest .. => "Prediction requested for unknown trip"
  | .unknownRun .. =>
    "Cannot add event to trip history: frequency-based trip without freq_start_time"
  | .rejected _ .missing => "Sample rejected: missing arrival or departure"
  | .rejected _ (.adherence ..) => "Sample rejected: schedule adherence out of bounds"
  | .rejected _ (.earlierAdherence ..) =>
    "Sample rejected: schedule adherence of earlier event out of bounds"
  | .rejected _ (.duration ..) => "Sample rejected: duration out of bounds"
  | .leaderAdherence .. => "Schedule adherence outside allowable range"
  | .headway .. => "Headway outside allowable range"
  | .estimatorFailed .travel .. => "Travel time estimator failed, falling back"
  | .estimatorFailed .dwell .. => "Dwell time estimator failed, falling back"
  | .variation .. => "Prediction variation"

/-- The fields that name the event of a rejected sample. -/
def eventFields (e : Event) : List (String × FieldValue) :=
  [("trip_id", .text e.tripId), ("stop_path_index", .whole e.stopPathIndex),
    ("vehicle_id", .text e.vehicleId)]

/-- The fields of a rejection. -/
def rejectionFields : Rejection → List (String × FieldValue)
  | .missing => []
  | .adherence e seconds => eventFields e ++ [("adherence_secs", .whole seconds)]
  | .earlierAdherence e seconds => eventFields e ++ [("adherence_secs", .whole seconds)]
  | .duration e ms least greatest =>
    eventFields e ++
      [("duration_ms", .whole ms), ("min_ms", .whole least), ("max_ms", .whole greatest)]

/-- The fields of a notice. -/
def fields : Notice Float → List (String × FieldValue)
  | .futureEvent vehicleId tripId time =>
    [("vehicle_id", .text vehicleId), ("trip_id", .text tripId), ("time", .text time.spokenText)]
  | .unknownTripEvent tripId vehicleId =>
    [("trip_id", .text tripId), ("vehicle_id", .text vehicleId)]
  | .unknownTripRequest tripId vehicleId =>
    [("trip_id", .text tripId), ("vehicle_id", .text vehicleId)]
  | .unknownRun tripId vehicleId =>
    [("trip_id", .text tripId), ("vehicle_id", .text vehicleId)]
  | .rejected leg reason => ("kind", .text leg.name) :: rejectionFields reason
  | .leaderAdherence stopId seconds =>
    [("stop_id", .text stopId), ("adherence_secs", .whole seconds)]
  | .headway stopId ms => [("stop_id", .text stopId), ("headway_ms", .whole ms)]
  | .estimatorFailed _ failure tripId index vehicleId strategy =>
    [("error", .text failure.message), ("trip_id", .text tripId),
      ("stop_path_index", .whole index), ("vehicle_id", .text vehicleId),
      ("strategy", .text strategy)]
  | .variation tripId index vehicleId kalmanMillis otherMillis other percentage =>
    [("trip_id", .text tripId), ("stop_path_index", .whole index), ("vehicle_id", .text vehicleId),
      ("kalman_ms", .whole kalmanMillis), ("alternative_ms", .whole otherMillis),
      ("alternative", .text other.name), ("percentage", .fraction percentage)]

end Notice

end Headway
