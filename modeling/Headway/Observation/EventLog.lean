import Headway.Observation.Event
import Headway.Observation.Key
import Headway.Retention
import Headway.Table

/-!
# Event logs

An event log keeps one list of events for each key, newest first, where events of one time stand in
the order in which they came. Every key belongs to a service day. Lists of days that are no longer
kept can still be written but not read, until an eviction drops them.

The view of a log is `EventLog.get?`.
-/

namespace Headway

/-- Keys that belong to one service day. -/
class OnDay (κ : Type) where
  day : κ → Day

instance : OnDay TripKey := ⟨TripKey.serviceDay⟩

instance : OnDay StopKey := ⟨StopKey.serviceDay⟩

/-- Puts an event behind all that are not older, so that a list newest first stays one. -/
def insertNewestFirst (e : Event) : List Event → List Event
  | [] => [e]
  | f :: rest => if e.time ≤ f.time then f :: insertNewestFirst e rest else e :: f :: rest

theorem mem_insertNewestFirst {e x : Event} {events : List Event} :
    x ∈ insertNewestFirst e events ↔ x = e ∨ x ∈ events := by
  induction events with
  | nil => simp [insertNewestFirst]
  | cons f rest ih =>
    unfold insertNewestFirst
    split
    · rw [List.mem_cons, ih, List.mem_cons]
      constructor
      · rintro (h | h | h)
        · exact Or.inr (Or.inl h)
        · exact Or.inl h
        · exact Or.inr (Or.inr h)
      · rintro (h | h | h)
        · exact Or.inr (Or.inl h)
        · exact Or.inl h
        · exact Or.inr (Or.inr h)
    · simp [List.mem_cons]

theorem pairwise_insertNewestFirst {e : Event} {events : List Event}
    (h : events.Pairwise fun a b => b.time ≤ a.time) :
    (insertNewestFirst e events).Pairwise fun a b => b.time ≤ a.time := by
  induction events with
  | nil => simp [insertNewestFirst]
  | cons f rest ih =>
    obtain ⟨hf, hrest⟩ := List.pairwise_cons.mp h
    unfold insertNewestFirst
    split
    · rename_i hle
      refine List.pairwise_cons.mpr ⟨fun x hx => ?_, ih hrest⟩
      rcases mem_insertNewestFirst.mp hx with rfl | hx
      · exact hle
      · exact hf x hx
    · rename_i hnle
      have hlt := Instant.not_le.mp hnle
      have hfe : f.time ≤ e.time := by
        rw [Instant.lt_def] at hlt
        rw [Instant.le_def]
        omega
      refine List.pairwise_cons.mpr ⟨fun x hx => ?_, h⟩
      rcases List.mem_cons.mp hx with rfl | hx
      · exact hfe
      · exact Instant.le_trans (hf x hx) hfe

/-- Lists of events by key, with the days for which they are kept. -/
structure EventLog (κ : Type) where
  lists : Table κ (List Event)
  retention : Retention

namespace EventLog

variable {κ : Type} [DecidableEq κ] [OnDay κ]

/-- The log without events that keeps lists for a number of days. -/
def new (days : Nat) : EventLog κ := ⟨Table.empty, Retention.new days⟩

/-- Files an event under a key. -/
def push (log : EventLog κ) (today : Day) (k : κ) (e : Event) : EventLog κ where
  lists := log.lists.alter k fun events => insertNewestFirst e (events.getD [])
  retention := log.retention.observe today (OnDay.day k)

/-- The events under a key, newest first, while its day is kept. -/
def get? (log : EventLog κ) (k : κ) : Option (List Event) :=
  if log.retention.isLive (OnDay.day k) then log.lists.get? k else none

/-- The keys whose events can be read. -/
def keys (log : EventLog κ) : List κ :=
  log.lists.keys.filter fun k => log.retention.isLive (OnDay.day k)

/-- The number of lists held, readable or not. -/
def size (log : EventLog κ) : Nat := log.lists.size

/-- Drops the lists whose days are no longer kept. -/
def evict (log : EventLog κ) : EventLog κ :=
  { log with lists := log.lists.retain fun k _ => log.retention.isLive (OnDay.day k) }

/-- The number of lists that an eviction drops. -/
def expired (log : EventLog κ) : Nat := log.size - log.evict.size

theorem mem_keys_iff (log : EventLog κ) {k : κ} :
    k ∈ log.keys ↔ ∃ events, log.get? k = some events := by
  rw [keys, List.mem_filter, Table.mem_keys_iff, get?]
  constructor
  · rintro ⟨⟨events, h⟩, hl⟩
    exact ⟨events, by rw [if_pos hl, h]⟩
  · rintro ⟨events, h⟩
    split at h
    · rename_i hl
      exact ⟨⟨events, h⟩, hl⟩
    · cases h

theorem get?_evict (log : EventLog κ) (k : κ) : log.evict.get? k = log.get? k := by
  simp only [get?, evict, Table.get?_retain]
  split
  · rename_i h
    cases log.lists.get? k with
    | none => rfl
    | some events => rw [Option.filter_some, if_pos h]
  · rfl

end EventLog

end Headway
