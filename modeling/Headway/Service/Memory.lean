import Headway.Bias
import Headway.Dwell.Training
import Headway.Holding.Basic
import Headway.Kalman.FilterErrors
import Headway.Mean.Segment
import Headway.Observation.TripHistory

/-!
# A service and its memory

A service is given by its settings, its clock and whether prediction records are taken. All that it
has learned from events is in its memory, which every operation takes and gives back.
-/

namespace Headway

/-- What happens to prediction records: none are made, those that are made are lost, or those that
are made are kept. -/
inductive Recorder where
  | disabled
  | closed
  | kept
  deriving DecidableEq

/-- The fixed part of a service. -/
structure Service (R : Type) where
  settings : Settings R
  clock : ServiceClock
  recorder : Recorder

/-- What a service has learned. -/
structure Memory (R : Type) where
  trips : TripHistory
  stops : StopHistory
  scheduleMeans : SegmentMeans R
  frequencyMeans : SegmentMeans R
  filterErrors : FilterErrors R
  dwellModels : DwellModels R
  holds : Holds

namespace Memory

variable {R : Type}

/-- Nothing learned yet. -/
def new (s : Settings R) : Memory R where
  trips := TripHistory.new s.history.retentionDays s.history.daysToPopulate
  stops := EventLog.new s.history.retentionDays
  scheduleMeans := SegmentMeans.new .schedule s.averages.retentionDays
  frequencyMeans := SegmentMeans.new .frequency s.averages.retentionDays
  filterErrors := Table.empty
  dwellModels := Table.empty
  holds := Table.empty

/-- The means for trips that run by frequency, or for those with a fixed schedule. -/
def means (m : Memory R) (byFrequency : Bool) : SegmentMeans R :=
  if byFrequency then m.frequencyMeans else m.scheduleMeans

/-- Replaces the means for trips of one sort. -/
def withMeans (m : Memory R) (byFrequency : Bool) (means : SegmentMeans R) : Memory R :=
  if byFrequency then { m with frequencyMeans := means } else { m with scheduleMeans := means }

/-- The mean of a segment; a time bucket asks for a trip that runs by frequency. -/
def meanOf? (m : Memory R) (k : SegmentKey) : Option (Mean R) :=
  (m.means k.isBucketed).store.get? k

/-- Drops what is no longer kept. Filter errors, dwell models and holds stay. -/
def evict (m : Memory R) : Memory R :=
  { m with
    trips := m.trips.evict
    stops := m.stops.evict
    scheduleMeans := m.scheduleMeans.evict
    frequencyMeans := m.frequencyMeans.evict }

end Memory

/-- How much an eviction dropped. -/
structure Evicted where
  trips : Nat
  stops : Nat
  means : Nat

/-- All that an eviction dropped. -/
def Evicted.total (e : Evicted) : Nat := e.trips + e.stops + e.means

/-- How much an eviction drops. -/
def Memory.expired {R : Type} (m : Memory R) : Evicted where
  trips := m.trips.log.expired
  stops := m.stops.expired
  means := m.scheduleMeans.store.expired + m.frequencyMeans.store.expired

namespace Service

variable {R : Type} (svc : Service R)

/-- The trip with an id. -/
def trip? (tripId : String) : Option Trip := Table.get? svc.settings.schedule tripId

/-- The correction of predictions. -/
def bias : Bias R := Bias.ofSettings svc.settings.bias

/-- The travel strategies in the order in which they are tried. -/
def travelChain : List TravelStrategy := chain svc.settings.strategy.travel TravelStrategy.order

/-- The dwell strategies in the order in which they are tried. -/
def dwellChain : List DwellStrategy := chain svc.settings.strategy.dwell DwellStrategy.order

/-- Estimates of a leg are to be recorded. -/
def recordsLeg (leg : Leg) : Bool :=
  svc.recorder ≠ .disabled &&
    match leg with
    | .travel => svc.settings.strategy.recordTravel
    | .dwell => svc.settings.strategy.recordDwell

end Service

end Headway
