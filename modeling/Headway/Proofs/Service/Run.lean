import Headway.Service.Prediction
import Headway.Service.Recording
import Headway.Settings.Check

/-!
# Runs of a service

An operation of a service is one call: it changes the memory and is answered. A run is any list of
operations, each carried out on the memory that the one before left behind.

What a fresh memory has and every operation keeps is true after every run
(`Service.memoryAfter_of_steps`).
-/

namespace Headway

/-- One call of a service. A recorded event comes with the time that the clock shows. -/
inductive Operation where
  | record (now : Instant) (e : Event)
  | predict (tripId : String) (index : Nat) (leg : Leg) (report : Report) (vehicle : VehicleState)
  | predictTrip (request : TripRequest)
  | hold (e : Event) (predictions : List ArrivalPrediction)
  | evict
  | mean (k : SegmentKey)
  | meanKeys (byFrequency : Bool)
  | tripHistory (k : TripKey)
  | filterError (k : PathKey)
  | filterErrorKeys

/-- Drops what is no longer kept. -/
def Operation.isEvict : Operation → Bool
  | evict => true
  | _ => false

/-- What a call is answered with, unless it fails. -/
inductive Reply (R : Type) where
  | recorded (r : Recorded R)
  | estimate (e : Estimate R)
  | trip (p : TripPrediction R)
  | hold (h : Option Hold)
  | evicted (e : Evicted)
  | mean (mean : Option (Mean R))
  | meanKeys (keys : List SegmentKey)
  | tripHistory (events : Option (List Event))
  | filterError (e : Option (FilterError R))
  | filterErrorKeys (keys : List PathKey)

namespace Service

variable {R : Type} [Scalar R] (svc : Service R)

/-- A service can be set up so with the zones of a lookup: its settings pass the check, and its
clock is the one of the settings. -/
def Checked (zones : String → Option Zone) : Prop :=
  svc.settings.check zones = .ok () ∧ Service.ofSettings svc.settings svc.recorder zones = .ok svc

variable {svc} in
theorem clock_of_checked {zones : String → Option Zone} (h : svc.Checked zones) :
    ∃ zone, zones svc.settings.timezone = some zone ∧
      svc.clock = .of zone svc.settings.averages.dayStartHour
        svc.settings.averages.bucketWidth := by
  obtain ⟨-, hset⟩ := h
  unfold ofSettings Settings.zone at hset
  cases hzone : zones svc.settings.timezone with
  | none =>
    rw [hzone] at hset
    cases hset
  | some zone =>
    rw [hzone] at hset
    rw [← Except.ok.inj hset]
    exact ⟨zone, rfl, rfl⟩

/-- Carries out an operation. -/
def perform (m : Memory R) : Operation → Step R (Reply R)
  | .record now e => (svc.record now e m).map .recorded
  | .predict tripId index leg report vehicle =>
    (svc.predict tripId index leg report vehicle m).map .estimate
  | .predictTrip request => (svc.predictTrip request m).map .trip
  | .hold e predictions => (svc.hold e predictions m).map .hold
  | .evict => Step.done m.evict (.evicted m.expired)
  | .mean k => Step.done m (.mean (m.meanOf? k))
  | .meanKeys byFrequency => Step.done m (.meanKeys (m.means byFrequency).store.keys)
  | .tripHistory k => Step.done m (.tripHistory (m.trips.log.get? k))
  | .filterError k => Step.done m (.filterError (Table.get? m.filterErrors k))
  | .filterErrorKeys => Step.done m (.filterErrorKeys (Table.keys m.filterErrors))

/-- The memory after a run that starts with nothing learned. -/
def memoryAfter (ops : List Operation) : Memory R :=
  ops.foldl (fun m op => (svc.perform m op).memory) (Memory.new svc.settings)

theorem memoryAfter_of_steps {P : Memory R → Prop} (hnew : P (Memory.new svc.settings))
    (hstep : ∀ m op, P m → P (svc.perform m op).memory) (ops : List Operation) :
    P (svc.memoryAfter ops) := by
  unfold memoryAfter
  generalize Memory.new svc.settings = m at hnew
  induction ops generalizing m with
  | nil => exact hnew
  | cons op rest ih => exact ih _ (hstep m op hnew)

end Service

end Headway
