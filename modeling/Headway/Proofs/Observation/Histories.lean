import Headway.Observation.StopHistory
import Headway.Observation.TripHistory
import Headway.Proofs.Observation.EventLog
import Headway.Proofs.Runs

/-!
# Histories are the sorted log of what was written

An event log, a stop history and a trip history are each run through any calls: writes by a clock
that may show any day, reads, and evictions at any moment. What can be read in the end depends on
the writes alone (`histories_read_as_written`): the list of a key is there when something was
written under it and its day is kept, and it is then the newest-first form of all that was ever
written under it.

A write is turned into filings, one for each key under which its event goes. An event goes under its
stop and its service day, and under its run on its service day and a number of days before it.
-/

namespace Headway

/-! ## Filings -/

/-- An event is filed under a key while the clock shows a day. -/
structure Filing (κ : Type) where
  today : Day
  key : κ
  event : Event

namespace Filing

variable {κ : Type}

/-- The retention after the days of the filings have been observed. -/
def observed [OnDay κ] (r : Retention) (filings : List (Filing κ)) : Retention :=
  filings.foldl (fun r f => r.observe f.today (OnDay.day f.key)) r

variable [DecidableEq κ]

/-- The events filed under a key, in the order of filing. -/
def under (filings : List (Filing κ)) (k : κ) : List Event :=
  (filings.filter fun f => f.key = k).map event

@[simp] theorem under_nil (k : κ) : under [] k = [] := rfl

theorem under_append (fs gs : List (Filing κ)) (k : κ) :
    under (fs ++ gs) k = under fs k ++ under gs k := by
  rw [under, List.filter_append, List.map_append, under, under]

theorem under_cons (f : Filing κ) (fs : List (Filing κ)) (k : κ) :
    under (f :: fs) k = (if f.key = k then [f.event] else []) ++ under fs k := by
  by_cases h : f.key = k <;> simp [under, h]

/-- When each write files its event under a key or not at all, what is filed under the key are the
events of the writes that do. -/
theorem under_flatMap {ω : Type} {filings : ω → List (Filing κ)} {k : κ} {goes : ω → Bool}
    {event : ω → Event}
    (h : ∀ w, under (filings w) k = if goes w then [event w] else []) (ws : List ω) :
    under (ws.flatMap filings) k = (ws.filter goes).map event := by
  induction ws with
  | nil => rfl
  | cons w rest ih =>
    rw [List.flatMap_cons, under_append, ih, h, List.filter_cons]
    split
    · rfl
    · rfl

end Filing

namespace EventLog

variable {κ : Type} [DecidableEq κ] [OnDay κ]

/-- Files one event. -/
def file (log : EventLog κ) (f : Filing κ) : EventLog κ := log.push f.today f.key f.event

/-- Files several events. -/
def fileAll (log : EventLog κ) (filings : List (Filing κ)) : EventLog κ := filings.foldl file log

/-- A log shows exactly the newest-first form of what was filed under each key whose day is kept by
a retention. -/
structure Shows (log : EventLog κ) (r : Retention) (written : κ → List Event) : Prop where
  retention_eq : log.retention = r
  isSome_get? : ∀ k, (log.get? k).isSome = true ↔
    r.isLive (OnDay.day k) = true ∧ written k ≠ []
  get?_eq_some : ∀ k events, log.get? k = some events ↔
    r.isLive (OnDay.day k) = true ∧ written k ≠ [] ∧ IsNewestFirst events (written k)
  mem_keys : ∀ k, k ∈ log.keys ↔ (log.get? k).isSome = true
  nodup_keys : log.keys.Nodup

/-- The invariant of a run: the list of a key whose day is kept has all that was filed under it. -/
structure Tracks (days : Nat) (log : EventLog κ) (filings : List (Filing κ)) : Prop where
  retention_eq : log.retention = Filing.observed (Retention.new days) filings
  isSome : ∀ k, log.retention.isLive (OnDay.day k) = true →
    ((log.get? k).isSome = true ↔ Filing.under filings k ≠ [])
  newestFirst : ∀ k, log.retention.isLive (OnDay.day k) = true →
    IsNewestFirst ((log.get? k).getD []) (Filing.under filings k)

namespace Tracks

variable {days : Nat} {log : EventLog κ} {filings : List (Filing κ)}

theorem new (days : Nat) : Tracks days (new days : EventLog κ) [] where
  retention_eq := rfl
  isSome k _ := by
    rw [get?_new]
    simp [Filing.under]
  newestFirst k _ := by
    rw [get?_new]
    exact IsNewestFirst.nil

theorem evict (h : Tracks days log filings) : Tracks days log.evict filings where
  retention_eq := h.retention_eq
  isSome k hk := by rw [get?_evict, h.isSome k hk]
  newestFirst k hk := by
    rw [get?_evict]
    exact h.newestFirst k hk

/-- A list that is kept after a filing was kept before it, so nothing has dropped out of it. -/
theorem file (h : Tracks days log filings) (f : Filing κ) :
    Tracks days (log.file f) (filings ++ [f]) where
  retention_eq := by
    rw [EventLog.file, retention_push, h.retention_eq, Filing.observed, Filing.observed,
      List.foldl_append]
    rfl
  isSome k hk := by
    rw [EventLog.file, retention_push] at hk
    have hbefore := Retention.isLive_of_isLive_observe hk
    rw [Filing.under_append, EventLog.file, get?_push, if_pos hk, Filing.under_cons]
    by_cases hf : f.key = k
    · simp [hf]
    · simp [hf, Filing.under_nil, h.isSome k hbefore]
  newestFirst k hk := by
    rw [EventLog.file, retention_push] at hk
    have hbefore := Retention.isLive_of_isLive_observe hk
    rw [Filing.under_append, EventLog.file, get?_push, if_pos hk, Filing.under_cons]
    by_cases hf : f.key = k
    · simpa [hf, Filing.under_nil] using (h.newestFirst k hbefore).insert f.event
    · simpa [hf, Filing.under_nil] using h.newestFirst k hbefore

theorem fileAll (h : Tracks days log filings) (more : List (Filing κ)) :
    Tracks days (log.fileAll more) (filings ++ more) := by
  induction more generalizing log filings with
  | nil => simpa [EventLog.fileAll] using h
  | cons f rest ih =>
    have hrest := ih (h.file f)
    rwa [List.append_assoc] at hrest

theorem shows (h : Tracks days log filings) :
    log.Shows (Filing.observed (Retention.new days) filings) (Filing.under filings) where
  retention_eq := h.retention_eq
  isSome_get? k := by
    rw [← h.retention_eq]
    cases hk : log.retention.isLive (OnDay.day k) with
    | true => simpa using h.isSome k hk
    | false => simp [get?_eq_none_of_not_live hk]
  get?_eq_some k events := by
    rw [← h.retention_eq]
    constructor
    · intro hget
      have hk := isLive_of_get? hget
      have hsorted := h.newestFirst k hk
      rw [hget] at hsorted
      exact ⟨hk, (h.isSome k hk).mp (by rw [hget]; rfl), hsorted⟩
    · rintro ⟨hk, hne, hevents⟩
      obtain ⟨found, hfound⟩ := Option.isSome_iff_exists.mp ((h.isSome k hk).mpr hne)
      have hsorted := h.newestFirst k hk
      rw [hfound] at hsorted
      exact hfound.trans (congrArg some (hsorted.unique hevents))
  mem_keys k := by rw [mem_keys_iff, Option.isSome_iff_exists]
  nodup_keys := log.nodup_keys

end Tracks

end EventLog

/-! ## Stop histories -/

/-- An instant falls on a service day. -/
def ServiceClock.isOn (clock : ServiceClock) (t : Instant) (day : Day) : Bool :=
  match clock.serviceDay t with
  | .ok d => d = day
  | .error _ => false

namespace StopHistory

/-- An event is written while the clock shows a day. -/
structure Write where
  today : Day
  event : Event

/-- Writes an event; one without local time is not written. -/
def put (clock : ServiceClock) (history : StopHistory) (w : Write) : StopHistory :=
  match history.record clock w.today w.event with
  | .ok recorded => recorded.1
  | .error _ => history

/-- The event of a write goes under a stop on a service day. -/
def Write.goesUnder (clock : ServiceClock) (k : StopKey) (w : Write) : Bool :=
  w.event.stopId = k.stopId && clock.isOn w.event.time k.serviceDay

/-- What a write files. -/
def Write.filings (clock : ServiceClock) (w : Write) : List (Filing StopKey) :=
  match clock.serviceDay w.event.time with
  | .ok day => [⟨w.today, ⟨w.event.stopId, day⟩, w.event⟩]
  | .error _ => []

theorem put_eq_fileAll (clock : ServiceClock) (history : StopHistory) (w : Write) :
    put clock history w = EventLog.fileAll history (w.filings clock) := by
  unfold put record Write.filings
  cases clock.serviceDay w.event.time with
  | ok day =>
    rfl
  | error _ => rfl

theorem under_filings (clock : ServiceClock) (w : Write) (k : StopKey) :
    Filing.under (w.filings clock) k = if w.goesUnder clock k then [w.event] else [] := by
  unfold Write.filings Write.goesUnder ServiceClock.isOn
  cases clock.serviceDay w.event.time with
  | ok day =>
    obtain ⟨stopId, serviceDay⟩ := k
    simp only [Filing.under_cons, StopKey.mk.injEq, Bool.and_eq_true, decide_eq_true_eq]
    exact List.append_nil _
  | error _ => simp [Filing.under]

end StopHistory

/-! ## Trip histories -/

namespace TripHistory

/-- An event of a trip is written while the clock shows a day. -/
structure Write where
  today : Day
  trip : Trip
  event : Event

/-- Writes an event; one whose run or service day cannot be told is not written. -/
def put (clock : ServiceClock) (history : TripHistory) (w : Write) : TripHistory :=
  match history.record clock w.today w.trip w.event with
  | .ok recorded => recorded.1
  | .error _ => history

/-- A run is known to start at a time of the service day, or known to have no such time. -/
def startsAt (clock : ServiceClock) (trip : Trip) (frequencyStart : Option Instant)
    (start : Option Int) : Bool :=
  match runStart clock trip frequencyStart with
  | .ok (some s) => s = start
  | _ => false

/-- A service day is that of an instant or one of the days before it, as many as are given in
all. -/
def populates (clock : ServiceClock) (days : Nat) (t : Instant) (day : Day) : Bool :=
  match clock.serviceDay t with
  | .ok d => 0 ≤ d.number - day.number && d.number - day.number < days
  | .error _ => false

/-- The event of a write goes under a run on a day. -/
def Write.goesUnder (clock : ServiceClock) (days : Nat) (k : TripKey) (w : Write) : Bool :=
  w.event.tripId = k.tripId && startsAt clock w.trip w.event.frequencyStart k.start &&
    populates clock days w.event.time k.serviceDay

/-- What is filed under a day and the days before it. -/
def filingsBack (today : Day) (e : Event) (start : Option Int) : Nat → Day → List (Filing TripKey)
  | 0, _ => []
  | n + 1, day =>
    ⟨today, ⟨e.tripId, day, start⟩, e⟩ ::
      match day.addDays? (-1) with
      | some earlier => filingsBack today e start n earlier
      | none => []

/-- What a write files. -/
def Write.filings (clock : ServiceClock) (days : Nat) (w : Write) : List (Filing TripKey) :=
  match runStart clock w.trip w.event.frequencyStart, clock.serviceDay w.event.time with
  | .ok (some start), .ok day => filingsBack w.today w.event start days day
  | _, _ => []

theorem fileBack_eq_fileAll (today : Day) (e : Event) (start : Option Int) (n : Nat) (day : Day)
    (log : EventLog TripKey) :
    fileBack today e start n day log = log.fileAll (filingsBack today e start n day) := by
  induction n generalizing day log with
  | zero => rfl
  | succ n ih =>
    unfold fileBack filingsBack
    cases day.addDays? (-1) with
    | none => rfl
    | some earlier => exact ih earlier _

theorem put_eq (clock : ServiceClock) (history : TripHistory) (w : Write) :
    put clock history w =
      { history with
        log := history.log.fileAll (w.filings clock history.daysToPopulate) } := by
  unfold put record Write.filings
  cases runStart clock w.trip w.event.frequencyStart with
  | error _ => rfl
  | ok known =>
    cases known with
    | none => rfl
    | some start =>
      cases clock.serviceDay w.event.time with
      | error _ => rfl
      | ok day =>
        simp only [file, fileBack_eq_fileAll]
        rfl

/-- Of a day and the days before it, each is met once. -/
theorem under_filingsBack (today : Day) (e : Event) (start : Option Int) (n : Nat) (day : Day)
    (k : TripKey) :
    Filing.under (filingsBack today e start n day) k =
      if (e.tripId = k.tripId ∧ start = k.start) ∧
          0 ≤ day.number - k.serviceDay.number ∧ day.number - k.serviceDay.number < n then [e]
      else [] := by
  induction n generalizing day with
  | zero =>
    rw [if_neg (by omega)]
    rfl
  | succ n ih =>
    have hkey : (⟨e.tripId, day, start⟩ : TripKey) = k ↔
        (e.tripId = k.tripId ∧ start = k.start) ∧ day.number = k.serviceDay.number := by
      constructor
      · rintro rfl
        exact ⟨⟨rfl, rfl⟩, rfl⟩
      · rintro ⟨⟨htrip, hstart⟩, hday⟩
        rw [htrip, hstart, Day.ext hday]
    have hrest : Filing.under
        (match day.addDays? (-1) with
          | some earlier => filingsBack today e start n earlier
          | none => []) k =
        if (e.tripId = k.tripId ∧ start = k.start) ∧
            0 ≤ day.number - 1 - k.serviceDay.number ∧
            day.number - 1 - k.serviceDay.number < n then [e]
        else [] := by
      cases hearlier : day.addDays? (-1) with
      | none =>
        -- the calendar has no day before this one
        have hfirst := Day.addDays?_eq_none_iff.mp hearlier
        have := k.serviceDay.first_le
        have := day.le_last
        rw [if_neg (by omega)]
        rfl
      | some earlier =>
        have hnumber := Day.number_addDays?.mp hearlier
        rw [ih earlier, hnumber]
        rfl
    rw [filingsBack, Filing.under_cons, hrest]
    simp only [hkey]
    by_cases hrun : e.tripId = k.tripId ∧ start = k.start
    · simp only [hrun, true_and, and_true]
      by_cases hday : day.number = k.serviceDay.number
      · rw [if_pos hday, if_neg (by omega), if_pos (by omega), List.append_nil]
      · rw [if_neg hday, List.nil_append]
        congr 1
        exact propext (by omega)
    · simp only [hrun, false_and, ↓reduceIte, List.append_nil]

theorem under_filings (clock : ServiceClock) (days : Nat) (w : Write) (k : TripKey) :
    Filing.under (w.filings clock days) k =
      if w.goesUnder clock days k then [w.event] else [] := by
  unfold Write.filings Write.goesUnder startsAt populates
  cases runStart clock w.trip w.event.frequencyStart with
  | error _ => simp [Filing.under]
  | ok known =>
    cases known with
    | none => simp [Filing.under]
    | some start =>
      cases clock.serviceDay w.event.time with
      | error _ => simp [Filing.under]
      | ok day =>
        simp only [under_filingsBack, Bool.and_eq_true, decide_eq_true_eq]

end TripHistory

/-! ## What is read after a run -/

/-- The log after a list of calls. -/
def EventLog.run {κ : Type} [DecidableEq κ] [OnDay κ] (days : Nat)
    (calls : List (StoreCall (Filing κ) κ)) : EventLog κ :=
  StoreCall.run file evict (new days) calls

/-- The stop history after a list of calls. -/
def StopHistory.run (clock : ServiceClock) (days : Nat)
    (calls : List (StoreCall Write StopKey)) : StopHistory :=
  StoreCall.run (put clock) EventLog.evict (EventLog.new days) calls

/-- The trip history after a list of calls. -/
def TripHistory.run (clock : ServiceClock) (days populated : Nat)
    (calls : List (StoreCall Write TripKey)) : TripHistory :=
  StoreCall.run (put clock) evict (new days populated) calls

theorem EventLog.tracks_run {κ : Type} [DecidableEq κ] [OnDay κ] (days : Nat)
    (calls : List (StoreCall (Filing κ) κ)) :
    Tracks days (run days calls) (StoreCall.writes calls) :=
  StoreCall.run_of_steps (Tracks days) (Tracks.new days) (fun _ _ f h => h.file f)
    (fun _ _ h => h.evict) calls

theorem StopHistory.tracks_run (clock : ServiceClock) (days : Nat)
    (calls : List (StoreCall Write StopKey)) :
    EventLog.Tracks days (run clock days calls)
      ((StoreCall.writes calls).flatMap (Write.filings clock)) := by
  refine StoreCall.run_of_steps
    (fun (history : StopHistory) ws =>
      EventLog.Tracks days history (ws.flatMap (Write.filings clock)))
    (EventLog.Tracks.new days) ?_ (fun _ _ h => h.evict) calls
  intro history ws w h
  rw [put_eq_fileAll, List.flatMap_append, List.flatMap_singleton]
  exact h.fileAll (w.filings clock)

theorem TripHistory.tracks_run (clock : ServiceClock) (days populated : Nat)
    (calls : List (StoreCall Write TripKey)) :
    EventLog.Tracks days (run clock days populated calls).log
      ((StoreCall.writes calls).flatMap (Write.filings clock (max populated 1))) := by
  -- how far back an event is filed never changes, and the writes are filed that far
  suffices hrun : (run clock days populated calls).daysToPopulate = max populated 1 ∧
      EventLog.Tracks days (run clock days populated calls).log
        ((StoreCall.writes calls).flatMap (Write.filings clock (max populated 1))) from hrun.2
  refine StoreCall.run_of_steps
    (fun (history : TripHistory) ws => history.daysToPopulate = max populated 1 ∧
      EventLog.Tracks days history.log (ws.flatMap (Write.filings clock (max populated 1))))
    ⟨rfl, EventLog.Tracks.new days⟩ ?_ ?_ calls
  · rintro history ws w ⟨hdays, h⟩
    rw [put_eq, List.flatMap_append, List.flatMap_singleton, hdays]
    exact ⟨rfl, h.fileAll (w.filings clock (max populated 1))⟩
  · rintro history ws ⟨hdays, h⟩
    exact ⟨hdays, h.evict⟩

/-- After any run, each kind of history shows exactly what was written: under every key whose day is
kept and under which something was written, all the events that were ever written under it, newest
first and those of one time in the order of writing; and nothing under any other key. -/
theorem histories_read_as_written (clock : ServiceClock) (days populated : Nat) :
    (∀ {κ : Type} [DecidableEq κ] [OnDay κ] (calls : List (StoreCall (Filing κ) κ)),
      (EventLog.run days calls).Shows
        (Filing.observed (Retention.new days) (StoreCall.writes calls))
        (Filing.under (StoreCall.writes calls))) ∧
    (∀ calls : List (StoreCall StopHistory.Write StopKey),
      (StopHistory.run clock days calls).Shows
        (Filing.observed (Retention.new days)
          ((StoreCall.writes calls).flatMap fun w => w.filings clock))
        fun k => ((StoreCall.writes calls).filter fun w => w.goesUnder clock k).map
          StopHistory.Write.event) ∧
    (∀ calls : List (StoreCall TripHistory.Write TripKey),
      (TripHistory.run clock days populated calls).log.Shows
        (Filing.observed (Retention.new days)
          ((StoreCall.writes calls).flatMap fun w => w.filings clock (max populated 1)))
        fun k => ((StoreCall.writes calls).filter
          fun w => w.goesUnder clock (max populated 1) k).map TripHistory.Write.event) := by
  refine ⟨fun calls => (EventLog.tracks_run days calls).shows, fun calls => ?_, fun calls => ?_⟩
  · have hshows := (StopHistory.tracks_run clock days calls).shows
    have hunder : Filing.under ((StoreCall.writes calls).flatMap fun w => w.filings clock) =
        fun k => ((StoreCall.writes calls).filter fun w => w.goesUnder clock k).map
          StopHistory.Write.event :=
      funext fun k => Filing.under_flatMap (fun w => StopHistory.under_filings clock w k) _
    rwa [hunder] at hshows
  · have hshows := (TripHistory.tracks_run clock days populated calls).shows
    have hunder : Filing.under
          ((StoreCall.writes calls).flatMap fun w => w.filings clock (max populated 1)) =
        fun k => ((StoreCall.writes calls).filter
          fun w => w.goesUnder clock (max populated 1) k).map TripHistory.Write.event :=
      funext fun k =>
        Filing.under_flatMap (fun w => TripHistory.under_filings clock (max populated 1) w k) _
    rwa [hunder] at hshows

end Headway
