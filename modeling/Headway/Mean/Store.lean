import Headway.Mean.Basic
import Headway.Observation.Key
import Headway.Retention
import Headway.Table

/-!
# Means by segment

A store keeps one running mean per segment and the latest day of its samples. A mean whose latest
day is no longer kept cannot be read, and starts afresh with the next sample.

The view of a store is `MeanStore.get?`; `get?_evict` says that an eviction does not show in it.
-/

namespace Headway

/-- A mean and the latest day of its samples. -/
structure MeanEntry (R : Type) where
  mean : Mean R
  lastDay : Day

/-- Means by segment, with the days for which they are kept. -/
structure MeanStore (R : Type) where
  entries : Table SegmentKey (MeanEntry R)
  retention : Retention

namespace MeanStore

variable {R : Type}

/-- The store without means that keeps them for a number of days. -/
def new (days : Nat) : MeanStore R := ⟨Table.empty, Retention.new days⟩

/-- The mean of a segment, while it is kept. -/
def get? (s : MeanStore R) (k : SegmentKey) : Option (Mean R) :=
  ((s.entries.get? k).filter fun e => s.retention.isLive e.lastDay).map MeanEntry.mean

/-- The mean to which a new sample of a segment is added: none so far when the one there is no
longer kept. -/
def base [Scalar R] (entry : Option (MeanEntry R)) (retention : Retention) : Mean R :=
  match entry with
  | some e => if retention.isLive e.lastDay then e.mean else Mean.none
  | none => Mean.none

/-- The latest day of the samples of a segment after one more. -/
def lastDay (entry : Option (MeanEntry R)) (day : Day) : Day :=
  match entry with
  | some e => Day.latest e.lastDay day
  | none => day

/-- The entry of a segment after a sample of a day, once the day has been observed. -/
def updatedEntry [Scalar R] (entry : Option (MeanEntry R)) (retention : Retention) (sample : R)
    (day : Day) : MeanEntry R :=
  ⟨(base entry retention).add sample, lastDay entry day⟩

/-- Takes in a sample of a day, and answers the new mean. -/
def update [Scalar R] (s : MeanStore R) (today : Day) (k : SegmentKey) (sample : R) (day : Day) :
    MeanStore R × Mean R :=
  let retention := s.retention.observe today day
  let entry := updatedEntry (s.entries.get? k) retention sample day
  (⟨s.entries.put k entry, retention⟩, entry.mean)

/-- The segments whose mean can be read. -/
def keys (s : MeanStore R) : List SegmentKey :=
  (s.entries.entries.filter fun e => s.retention.isLive e.2.lastDay).map Prod.fst

/-- The number of means held, readable or not. -/
def size (s : MeanStore R) : Nat := s.entries.size

/-- Drops the means that are no longer kept. -/
def evict (s : MeanStore R) : MeanStore R :=
  { s with entries := s.entries.retain fun _ e => s.retention.isLive e.lastDay }

/-- The number of means that an eviction drops. -/
def expired (s : MeanStore R) : Nat := s.size - s.evict.size

theorem get?_evict (s : MeanStore R) (k : SegmentKey) : s.evict.get? k = s.get? k := by
  simp only [get?, evict, Table.get?_retain]
  cases s.entries.get? k with
  | none => rfl
  | some e => by_cases h : s.retention.isLive e.lastDay = true <;> simp [Option.filter, h]

end MeanStore

end Headway
