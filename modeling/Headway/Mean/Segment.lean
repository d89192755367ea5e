import Headway.Mean.Store
import Headway.Notice
import Headway.Observation.Pairing

/-!
# Means fed by events

An arrival completes the travel along its stop path, and a departure completes the dwell at its
stop. The time since the event it is paired with is a sample of that segment, unless it is rejected.

There are two spaces of keys. Trips with a fixed schedule have one mean per segment; trips that run
by frequency have one per segment and time bucket.
-/

namespace Headway

/-- Whether segments are told apart by time bucket. -/
inductive KeySpace where
  | schedule
  | frequency
  deriving DecidableEq

/-- The word for a key space. -/
def KeySpace.name : KeySpace → String
  | .schedule => "schedule"
  | .frequency => "frequency"

/-- The key of a segment at an instant. -/
def KeySpace.key (space : KeySpace) (clock : ServiceClock) (tripId : String) (index : Nat)
    (leg : Leg) (t : Instant) : Except NoLocalTime SegmentKey :=
  let k := SegmentKey.plain tripId index leg
  match space with
  | .schedule => .ok k
  | .frequency => (clock.bucket t).map k.inBucket

/-- The leg that an event completes. -/
def Event.completes (e : Event) : Leg := if e.isArrival then .travel else .dwell

/-- The event with which the completed leg began, from a history newest first. -/
def Event.partner? (e : Event) (history : List Event) : Option Event :=
  match e.completes with
  | .travel => previousDeparture? history e
  | .dwell => previousArrival? history e

/-- What an event completes. -/
inductive Completion where
  /-- The leg has no beginning on record. -/
  | nothing
  /-- The leg was completed, but its time is no sample. -/
  | rejected (reason : Rejection)
  /-- The leg was completed in this many milliseconds. -/
  | sample (millis : Int)

/-- The sample that an event completes. -/
def FilterSettings.completion (f : FilterSettings) (e : Event) (history : List Event) :
    Completion :=
  match e.partner? history with
  | none => .nothing
  | some begun =>
    match f.rejection? e.completes begun e with
    | some reason => .rejected reason
    | none => .sample (e.millis - begun.millis)

/-- The notice that goes with a completion. -/
def Completion.notices {R : Type} (leg : Leg) : Completion → List (Notice R)
  | .rejected reason => [.rejected leg reason]
  | _ => []

/-- Means of one key space. -/
structure SegmentMeans (R : Type) where
  space : KeySpace
  store : MeanStore R

namespace SegmentMeans

variable {R : Type}

/-- No means. -/
def new (space : KeySpace) (days : Nat) : SegmentMeans R := ⟨space, MeanStore.new days⟩

/-- A mean and the key of its segment. -/
structure Updated (R : Type) where
  key : SegmentKey
  mean : Mean R

/-- Takes in the sample that an event completes. -/
def addSample [Scalar R] (means : SegmentMeans R) (clock : ServiceClock) (today : Day) (e : Event)
    (millis : Int) : Except NoLocalTime (SegmentMeans R × Updated R) := do
  let key ← means.space.key clock e.tripId e.stopPathIndex e.completes e.time
  let day ← clock.serviceDay e.time
  let (store, mean) := means.store.update today key (Scalar.ofInt millis) day
  return ({ means with store }, ⟨key, mean⟩)

/-- Takes in the sample that an event completes, if it completes one. -/
def record [Scalar R] (means : SegmentMeans R) (clock : ServiceClock) (today : Day) (e : Event) :
    Completion → Except NoLocalTime (SegmentMeans R × Option (Updated R))
  | .sample millis =>
    (means.addSample clock today e millis).map fun (means, updated) => (means, some updated)
  | _ => .ok (means, none)

/-- Drops the means that are no longer kept. -/
def evict (means : SegmentMeans R) : SegmentMeans R := { means with store := means.store.evict }

end SegmentMeans

end Headway
