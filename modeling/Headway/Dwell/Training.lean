import Headway.Dwell.Model
import Headway.Notice
import Headway.Observation.StopHistory

/-!
# Training of dwell models

A departure trains the model of its stop path. The dwell time runs from the vehicle's arrival at the
stop, and the headway from the arrival before that by another vehicle on another trip. The sample
counts when the dwell time is admitted, the vehicle ahead was close enough to its schedule, and the
headway lies between its bounds.
-/

namespace Headway

/-- Dwell models by segment. -/
abbrev DwellModels (R : Type) := Table SegmentKey (DwellModel R)

namespace DwellModels

variable {R : Type} [Scalar R]

/-- Takes in a sample of a segment, whose model is new when there was none. -/
def add (models : DwellModels R) (s : DwellSettings R) (k : SegmentKey)
    (dwellMs headwayMs : Int) : DwellModels R :=
  Table.alter models k fun m => (m.getD (DwellModel.new s)).add dwellMs headwayMs

/-- The dwell time that the model of a segment predicts. -/
def predict? (models : DwellModels R) (k : SegmentKey) (headwayMs : Int) : Option Int :=
  (Table.get? models k).bind fun m => m.predict? headwayMs

end DwellModels

namespace DwellTraining

/-- A candidate is an arrival of the departing vehicle at the stop, on the same trip. -/
def isOwnArrival (departure candidate : Event) : Bool :=
  candidate.isArrival && candidate.stopId = departure.stopId &&
    candidate.vehicleId = departure.vehicleId && candidate.tripId = departure.tripId

/-- A candidate is an earlier arrival of another vehicle on another trip at the same stop, on the
same service day or within the longest headway. -/
def isLeader (clock : ServiceClock) (f : FilterSettings) (arrival candidate : Event) : Bool :=
  candidate.isArrival && candidate.vehicleId ≠ arrival.vehicleId &&
    candidate.tripId ≠ arrival.tripId && candidate.stopId = arrival.stopId &&
    candidate.time < arrival.time &&
    (clock.sameDay candidate.time arrival.time ||
      arrival.millis - candidate.millis < f.maxHeadway)

/-- What a departure teaches. -/
inductive Lesson where
  /-- Its arrival or the vehicle ahead is not on record. -/
  | nothing
  /-- The dwell time is not admitted. -/
  | dwellRejected (reason : Rejection)
  /-- The vehicle ahead was too far from its schedule. -/
  | leaderAdherence (leader : Event) (seconds : Int)
  /-- The headway is out of bounds. -/
  | headwayRejected (millis : Int)
  /-- A dwell time after a headway, in milliseconds. -/
  | sample (dwellMs headwayMs : Int)

/-- The notice that goes with a lesson. -/
def Lesson.notices {R : Type} (departure : Event) : Lesson → List (Notice R)
  | .dwellRejected reason => [.rejected .dwell reason]
  | .leaderAdherence leader seconds => [.leaderAdherence leader.stopId seconds]
  | .headwayRejected ms => [.headway departure.stopId ms]
  | _ => []

/-- Judges the dwell time and the headway of a departure, once its arrival and the vehicle ahead are
found. -/
def judge (f : FilterSettings) (departure arrival leader : Event) : Lesson :=
  let headway := arrival.millis - leader.millis
  match f.rejection? .dwell arrival departure with
  | some reason => .dwellRejected reason
  | none =>
    match f.excess? leader with
    | some a => .leaderAdherence leader a
    | none =>
      if f.headwayWithin headway then .sample (departure.millis - arrival.millis) headway
      else .headwayRejected headway

/-- What a departure teaches, given the events at its stop, newest first. -/
def lesson (clock : ServiceClock) (f : FilterSettings) (departure : Event) (events : List Event) :
    Lesson :=
  if events.length < 2 then .nothing
  else
    match events.find? (isOwnArrival departure) with
    | none => .nothing
    | some arrival =>
      match events.find? (isLeader clock f arrival) with
      | none => .nothing
      | some leader => judge f departure arrival leader

/-- What an event teaches, given the stop history. Only a departure teaches anything. -/
def lessonOf (clock : ServiceClock) (f : FilterSettings) (e : Event) (stops : StopHistory) :
    Except NoLocalTime Lesson :=
  if e.isDeparture then
    (clock.serviceDay e.time).map fun day =>
      match EventLog.get? stops ⟨e.stopId, day⟩ with
      | some events => lesson clock f e events
      | none => .nothing
  else
    .ok .nothing

end DwellTraining

/-- Takes in the sample that a departure teaches, for the model of its stop path. -/
def DwellModels.learn {R : Type} [Scalar R] (models : DwellModels R) (s : DwellSettings R)
    (e : Event) : DwellTraining.Lesson → DwellModels R
  | .sample dwellMs headwayMs =>
    models.add s (.plain e.tripId e.stopPathIndex .dwell) dwellMs headwayMs
  | _ => models

end Headway
