import Headway.Proofs.Observation.Filings
import Headway.Proofs.Service.Intake
import Headway.Proofs.Service.Prediction
import Headway.Proofs.Service.Run

/-!
# What is remembered after a run

Only records that are not refused and evictions touch the histories and the means
(`Service.memory_perform_cases`). So the trip history of a service is that of a store to which its
records of known trips are written one by one (`Service.trips_memoryAfter`). A list that can be read
in it is the newest-first form of the events that went under its run
(`Service.newestFirst_of_get?`).
-/

namespace Headway

/-- The key space of the trips that run by frequency, or of the others. -/
def KeySpace.of (byFrequency : Bool) : KeySpace := if byFrequency then .frequency else .schedule

/-- Drops what is no longer kept, or takes in an event. -/
def Operation.learns : Operation → Bool
  | .record _ _ => true
  | .evict => true
  | _ => false

/-- Asks for an estimate, or for the estimates of a walk. -/
def Operation.predicts : Operation → Bool
  | .predict _ _ _ _ _ => true
  | .predictTrip _ => true
  | _ => false

theorem Memory.means_evict {R : Type} (m : Memory R) (byFrequency : Bool) :
    m.evict.means byFrequency = (m.means byFrequency).evict := by
  cases byFrequency with
  | false => rfl
  | true => rfl

namespace TripHistory

variable {clock : ServiceClock} {w : Write}

theorem put_of_noLocalTime {cause : NoLocalTime} (h : clock.toLocal w.event.time = .error cause)
    (history : TripHistory) : put clock history w = history := by
  have hday : clock.serviceDay w.event.time = .error cause := by
    rw [ServiceClock.serviceDay, h]
    rfl
  unfold put record
  cases runStart clock w.trip w.event.frequencyStart with
  | error _ => rfl
  | ok known =>
    cases known with
    | none => rfl
    | some start =>
      rw [hday]
      rfl

theorem put_of_lostRunStart {cause : NoLocalTime}
    (h : runStart clock w.trip w.event.frequencyStart = .error cause) (history : TripHistory) :
    put clock history w = history := by
  rw [put, record, h]
  rfl

theorem put_of_runStart {l : Instant} {start : Option (Option Int)}
    (hlocal : clock.toLocal w.event.time = .ok l)
    (hstart : runStart clock w.trip w.event.frequencyStart = .ok start) (history : TripHistory) :
    put clock history w = history.fileRun w.today w.event l.day start := by
  unfold put record
  rw [hstart, ServiceClock.serviceDay_of_toLocal hlocal]
  cases start with
  | none => rfl
  | some start => rfl

theorem log_fileRun (history : TripHistory) (today : Day) (e : Event) (day : Day)
    (start : Option (Option Int)) :
    (history.fileRun today e day start).log =
      history.log.fileAll (filingsOf today e history.daysToPopulate day start) := by
  cases start with
  | none => rfl
  | some start => exact fileBack_eq_fileAll today e start history.daysToPopulate day history.log

theorem daysToPopulate_fileRun (history : TripHistory) (today : Day) (e : Event) (day : Day)
    (start : Option (Option Int)) :
    (history.fileRun today e day start).daysToPopulate = history.daysToPopulate := by
  cases start with
  | none => rfl
  | some start => rfl

end TripHistory

namespace Service

variable {R : Type} [Scalar R] (svc : Service R)

omit [Scalar R] in
/-- A hold changes nothing but the record of holds. -/
theorem memory_hold (e : Event) (predictions : List ArrivalPrediction) (m : Memory R) :
    ∃ holds, (svc.hold e predictions m).memory = { m with holds := holds } := by
  unfold hold
  cases svc.settings.holding.hold? svc.clock e predictions m.stops m.holds with
  | error cause => exact ⟨m.holds, rfl⟩
  | ok held =>
    cases held with
    | none => exact ⟨m.holds, rfl⟩
    | some held => exact ⟨m.holds.add held, rfl⟩

/-- An operation that learns nothing changes nothing but filter errors and holds. -/
theorem memory_perform (m : Memory R) {op : Operation} (h : op.learns = false) :
    ∃ errors holds, (svc.perform m op).memory =
      { m with filterErrors := errors, holds := holds } := by
  cases op with
  | record now e => cases h
  | predict tripId index leg report vehicle =>
    obtain ⟨errors, hmemory⟩ := svc.memory_predict tripId index leg report vehicle m
    exact ⟨errors, m.holds, hmemory⟩
  | predictTrip request =>
    obtain ⟨errors, hmemory⟩ := svc.memory_predictTrip request m
    exact ⟨errors, m.holds, hmemory⟩
  | hold e predictions =>
    obtain ⟨holds, hmemory⟩ := svc.memory_hold e predictions m
    exact ⟨m.filterErrors, holds, hmemory⟩
  | evict => cases h
  | mean k => exact ⟨m.filterErrors, m.holds, rfl⟩
  | meanKeys byFrequency => exact ⟨m.filterErrors, m.holds, rfl⟩
  | tripHistory k => exact ⟨m.filterErrors, m.holds, rfl⟩
  | filterError k => exact ⟨m.filterErrors, m.holds, rfl⟩
  | filterErrorKeys => exact ⟨m.filterErrors, m.holds, rfl⟩

/-- A record leaves the memory alone or writes the event and its intake. -/
theorem memory_record_or (now : Instant) (e : Event) (m : Memory R) :
    ((svc.isTooFarAhead now e = true ∨ ∃ cause, svc.clock.toLocal e.time = .error cause) ∧
      (svc.record now e m).memory = m) ∨
    ∃ l, svc.isTooFarAhead now e = false ∧ svc.clock.toLocal e.time = .ok l ∧
      (svc.record now e m).memory = svc.takeIn now e l (svc.intake now e l m) m := by
  cases hfar : svc.isTooFarAhead now e with
  | true => exact Or.inl ⟨Or.inl rfl, (svc.record_of_isTooFarAhead hfar).1⟩
  | false =>
    cases hlocal : svc.clock.toLocal e.time with
    | error cause =>
      have hday : svc.clock.serviceDay e.time = .error cause := by
        rw [ServiceClock.serviceDay, hlocal]
        rfl
      exact Or.inl ⟨Or.inr ⟨cause, rfl⟩, (svc.record_of_noLocalTime hfar hday).1⟩
    | ok l => exact Or.inr ⟨l, rfl, rfl, memory_record hfar hlocal m⟩

/-- Only predictions touch the filter errors. -/
theorem filterErrors_perform (m : Memory R) {op : Operation} (h : op.predicts = false) :
    (svc.perform m op).memory.filterErrors = m.filterErrors := by
  cases op with
  | record now e =>
    show (svc.record now e m).memory.filterErrors = _
    rcases svc.memory_record_or now e m with ⟨-, hmemory⟩ | ⟨l, -, -, hmemory⟩
    · rw [hmemory]
    · rw [hmemory]
      rfl
  | predict tripId index leg report vehicle => cases h
  | predictTrip request => cases h
  | hold e predictions =>
    obtain ⟨holds, hmemory⟩ := svc.memory_hold e predictions m
    show (svc.hold e predictions m).memory.filterErrors = _
    rw [hmemory]
  | _ => rfl

/-- A record that is not refused: the time that the clock shows, the event and its local time. -/
structure Accepted where
  now : Instant
  event : Event
  localTime : Instant

omit [Scalar R] in
/-- The record that an operation asks for, unless it is refused. -/
def accepted? : Operation → Option Accepted
  | .record now e =>
    if svc.isTooFarAhead now e then none
    else
      match svc.clock.toLocal e.time with
      | .ok l => some ⟨now, e, l⟩
      | .error _ => none
  | _ => none

/-- An operation leaves the histories and the means as they are, drops what has expired, or takes in
an event. -/
theorem memory_perform_cases (m : Memory R) (op : Operation) :
    svc.accepted? op = none ∧
        ((∃ errors holds, (svc.perform m op).memory =
            { m with filterErrors := errors, holds := holds }) ∨
          (svc.perform m op).memory = m.evict) ∨
      ∃ a, svc.accepted? op = some a ∧ (svc.perform m op).memory =
        svc.takeIn a.now a.event a.localTime (svc.intake a.now a.event a.localTime m) m := by
  cases hop : op.learns with
  | false =>
    have hnone : svc.accepted? op = none := by
      cases op with
      | record now e => cases hop
      | _ => rfl
    exact Or.inl ⟨hnone, Or.inl (svc.memory_perform m hop)⟩
  | true =>
    cases op with
    | record now e =>
      rw [accepted?]
      rcases svc.memory_record_or now e m with ⟨hrefused, hmemory⟩ | ⟨l, hfar, hlocal, hmemory⟩
      · refine Or.inl ⟨?_, Or.inl ⟨m.filterErrors, m.holds, hmemory⟩⟩
        rcases hrefused with hfar | ⟨cause, hlocal⟩
        · rw [if_pos hfar]
        · rw [hlocal]
          split
          · rfl
          · rfl
      · refine Or.inr ⟨⟨now, e, l⟩, ?_, hmemory⟩
        rw [hfar, hlocal]
        rfl
    | evict => exact Or.inl ⟨rfl, Or.inr rfl⟩
    | _ => cases hop

/-! ## Key spaces -/

theorem space_memoryAfter (ops : List Operation) (byFrequency : Bool) :
    ((svc.memoryAfter ops).means byFrequency).space = .of byFrequency := by
  revert byFrequency
  apply svc.memoryAfter_of_steps
    (P := fun m => ∀ byFrequency, (m.means byFrequency).space = .of byFrequency)
  · intro byFrequency
    cases byFrequency with
    | false => rfl
    | true => rfl
  · intro m op h byFrequency
    have hspace := h byFrequency
    rcases svc.memory_perform_cases m op with
      ⟨-, ⟨errors, holds, hmemory⟩ | hmemory⟩ | ⟨a, -, hmemory⟩
    · rw [hmemory]
      exact hspace
    · rw [hmemory, Memory.means_evict]
      exact hspace
    · rw [hmemory, means_takeIn, SegmentMeans.space_take]
      exact hspace

/-! ## Trip histories -/

/-- What an operation does to the trip history. -/
def tripCalls : Operation → List (StoreCall TripHistory.Write TripKey)
  | .record now e =>
    match svc.trip? e.tripId with
    | some trip => if svc.isTooFarAhead now e then [] else [.write ⟨now.day, trip, e⟩]
    | none => []
  | .evict => [.evict]
  | _ => []

/-- The trip history after some more calls. -/
abbrev runTrips (history : TripHistory) (calls : List (StoreCall TripHistory.Write TripKey)) :
    TripHistory :=
  StoreCall.run (TripHistory.put svc.clock) TripHistory.evict history calls

theorem trips_record (now : Instant) (e : Event) (m : Memory R) :
    (svc.record now e m).memory.trips = svc.runTrips m.trips (svc.tripCalls (.record now e)) := by
  rcases svc.memory_record_or now e m with ⟨hrefused, hmemory⟩ | ⟨l, hfar, hlocal, hmemory⟩
  -- what is refused for want of a local time is still a write, but one without effect
  · rw [hmemory, tripCalls]
    cases svc.trip? e.tripId with
    | none => rfl
    | some trip =>
      rcases hrefused with hfar | ⟨cause, hlocal⟩
      · simp only [hfar]
        rfl
      · simp only
        split
        · rfl
        · exact (TripHistory.put_of_noLocalTime (w := ⟨now.day, trip, e⟩) hlocal m.trips).symm
  · rw [hmemory, takeIn, intake, course?, tripCalls]
    cases svc.trip? e.tripId with
    | none => rfl
    | some trip =>
      simp only [hfar]
      cases hstart : TripHistory.runStart svc.clock trip e.frequencyStart with
      | error cause =>
        have hput := TripHistory.put_of_lostRunStart (w := ⟨now.day, trip, e⟩) hstart m.trips
        simpa [runTrips, StoreCall.run, StoreCall.after, hstart, Intake.none,
          TripHistory.fileRun] using hput.symm
      | ok start =>
        have hput := TripHistory.put_of_runStart (w := ⟨now.day, trip, e⟩) hlocal hstart m.trips
        simpa [runTrips, StoreCall.run, StoreCall.after, hstart] using hput.symm

theorem trips_perform (m : Memory R) (op : Operation) :
    (svc.perform m op).memory.trips = svc.runTrips m.trips (svc.tripCalls op) := by
  cases hop : op.learns with
  | false =>
    obtain ⟨errors, holds, hmemory⟩ := svc.memory_perform m hop
    have hcalls : svc.tripCalls op = [] := by
      cases op with
      | record now e => cases hop
      | evict => cases hop
      | _ => rfl
    rw [hmemory, hcalls]
    rfl
  | true =>
    cases op with
    | record now e => exact svc.trips_record now e m
    | evict => rfl
    | _ => cases hop

theorem trips_memoryAfter (ops : List Operation) :
    (svc.memoryAfter ops).trips =
      TripHistory.run svc.clock svc.settings.history.retentionDays
        svc.settings.history.daysToPopulate (ops.flatMap svc.tripCalls) := by
  have hnew : (Memory.new svc.settings : Memory R).trips =
      TripHistory.new svc.settings.history.retentionDays
        svc.settings.history.daysToPopulate := rfl
  unfold memoryAfter TripHistory.run
  rw [← hnew]
  -- by induction on the operations, from any memory
  generalize (Memory.new svc.settings : Memory R) = m
  induction ops generalizing m with
  | nil => rfl
  | cons op rest ih =>
    rw [List.foldl_cons, ih, trips_perform, List.flatMap_cons]
    exact List.foldl_append.symm

/-- The events of a run of the service that were filed under a run of a trip, in the order in which
they were recorded. -/
def tripEvents (ops : List Operation) (k : TripKey) : List Event :=
  ((StoreCall.writes (ops.flatMap svc.tripCalls)).filter fun w =>
    w.goesUnder svc.clock (max svc.settings.history.daysToPopulate 1) k).map
      TripHistory.Write.event

theorem newestFirst_of_get? {ops : List Operation} {k : TripKey} {history : List Event}
    (h : (svc.memoryAfter ops).trips.log.get? k = some history) :
    IsNewestFirst history (svc.tripEvents ops k) := by
  rw [trips_memoryAfter] at h
  have hshows := (TripHistory.tracks_run svc.clock svc.settings.history.retentionDays
    svc.settings.history.daysToPopulate (ops.flatMap svc.tripCalls)).shows
  obtain ⟨-, -, hsorted⟩ := (hshows.get?_eq_some k history).mp h
  rwa [Filing.under_flatMap fun w => TripHistory.under_filings svc.clock _ w k] at hsorted

end Service

end Headway
