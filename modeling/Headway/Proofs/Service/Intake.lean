import Headway.Proofs.Service.Recording

/-!
# What a record takes in

A record that is not refused reads before it writes. What it reads off the memory is an `Intake`:
the run under which the event goes, the sample that it completes among the trips of its sort, what
it teaches, and whether it can end a hold. What it writes is settled by the intake alone, part by
part (`Service.takeIn`).

`Service.memory_record` and `Service.result_record` say so for all records but those that are
refused. An event of an unknown trip, and one whose run has no local time, take in nothing and are
only filed under their stop.
-/

namespace Headway

variable {R : Type}

/-! ## Local times -/

namespace ServiceClock

variable {clock : ServiceClock} {t l : Instant}

theorem serviceDay_of_toLocal (h : clock.toLocal t = .ok l) : clock.serviceDay t = .ok l.day := by
  rw [serviceDay, h]
  rfl

theorem exists_toLocal {day : Day} (h : clock.serviceDay t = .ok day) :
    ∃ l, clock.toLocal t = .ok l ∧ l.day = day := by
  cases hlocal : clock.toLocal t with
  | error cause =>
    rw [serviceDay, hlocal] at h
    cases h
  | ok l =>
    rw [serviceDay_of_toLocal hlocal] at h
    exact ⟨l, rfl, Except.ok.inj h⟩

end ServiceClock

/-- The segment that an event completes at a local time. -/
def KeySpace.keyAt (space : KeySpace) (clock : ServiceClock) (e : Event) (l : Instant) :
    SegmentKey :=
  let k := SegmentKey.plain e.tripId e.stopPathIndex e.completes
  match space with
  | .schedule => k
  | .frequency => k.inBucket (clock.bucketOfLocal l)

theorem KeySpace.key_of_toLocal {clock : ServiceClock} {e : Event} {l : Instant}
    (h : clock.toLocal e.time = .ok l) (space : KeySpace) :
    space.key clock e.tripId e.stopPathIndex e.completes e.time = .ok (space.keyAt clock e l) := by
  cases space with
  | schedule => rfl
  | frequency =>
    rw [KeySpace.key, ServiceClock.bucket, h]
    rfl

theorem KeySpace.tripId_keyAt (space : KeySpace) (clock : ServiceClock) (e : Event) (l : Instant) :
    (space.keyAt clock e l).tripId = e.tripId := by
  cases space with
  | schedule => rfl
  | frequency => rfl

/-! ## Parts of a memory -/

/-- These vehicles are on hold in a memory. -/
def Memory.OnHold {R : Type} (holds : Holds) (m : Memory R) : Prop := m.holds = holds

/-- Files an event under its run on a service day, if the run is known. -/
def TripHistory.fileRun (history : TripHistory) (today : Day) (e : Event) (day : Day) :
    Option (Option Int) → TripHistory
  | some start => history.file today e start day
  | none => history

/-- Takes in what an event completes at a local time, and answers the mean that changed. -/
def SegmentMeans.take [Scalar R] (means : SegmentMeans R) (clock : ServiceClock) (today : Day)
    (e : Event) (l : Instant) : Completion → SegmentMeans R × Option (Updated R)
  | .sample millis =>
    let key := means.space.keyAt clock e l
    let taken := means.store.update today key (Scalar.ofInt millis) l.day
    ({ means with store := taken.1 }, some ⟨key, taken.2⟩)
  | _ => (means, none)

theorem SegmentMeans.space_take [Scalar R] (means : SegmentMeans R) (clock : ServiceClock)
    (today : Day) (e : Event) (l : Instant) (c : Completion) :
    (means.take clock today e l c).1.space = means.space := by
  cases c with
  | nothing => rfl
  | rejected reason => rfl
  | sample millis => rfl

/-- What an event teaches when its stop has a list of events. -/
def DwellTraining.lessonOn (clock : ServiceClock) (f : FilterSettings) (e : Event)
    (events : Option (List Event)) : Lesson :=
  if e.isDeparture then
    match events with
    | some events => lesson clock f e events
    | none => .nothing
  else
    .nothing

theorem DwellTraining.lessonOf_of_serviceDay {clock : ServiceClock} {e : Event} {day : Day}
    (h : clock.serviceDay e.time = .ok day) (f : FilterSettings) (stops : StopHistory) :
    lessonOf clock f e stops =
      .ok (lessonOn clock f e (EventLog.get? stops ⟨e.stopId, day⟩)) := by
  unfold lessonOf lessonOn
  rw [h]
  split
  · rfl
  · rfl

/-- What recording an event takes in, besides its filing under a stop. -/
structure Intake where
  /-- The start of the run under which the event is filed, if it is. -/
  start : Option (Option Int)
  /-- What the event completes, among trips that run by frequency or among the others. -/
  completion : Bool → Completion
  /-- What the event teaches. -/
  lesson : DwellTraining.Lesson
  /-- The event can end a hold. -/
  endsHold : Bool

/-- Takes in nothing. -/
def Intake.none : Intake := ⟨.none, fun _ => .nothing, .nothing, false⟩

namespace Service

variable [Scalar R] (svc : Service R)

/-- Writes an event and its intake. -/
def takeIn (now : Instant) (e : Event) (l : Instant) (i : Intake) (m : Memory R) : Memory R where
  trips := m.trips.fileRun now.day e l.day i.start
  stops := m.stops.file now.day e l.day
  scheduleMeans := (m.scheduleMeans.take svc.clock now.day e l (i.completion false)).1
  frequencyMeans := (m.frequencyMeans.take svc.clock now.day e l (i.completion true)).1
  filterErrors := m.filterErrors
  dwellModels := m.dwellModels.learn svc.settings.dwell e i.lesson
  holds := if i.endsHold then svc.settings.holding.afterEvent e m.holds else m.holds

theorem means_takeIn (now : Instant) (e : Event) (l : Instant) (i : Intake) (m : Memory R)
    (byFrequency : Bool) :
    (svc.takeIn now e l i m).means byFrequency =
      ((m.means byFrequency).take svc.clock now.day e l (i.completion byFrequency)).1 := by
  cases byFrequency with
  | false => rfl
  | true => rfl

/-- What an event completes once it has been filed under its run. -/
def completed (now : Instant) (e : Event) (l : Instant) (start : Option (Option Int))
    (m : Memory R) : Completion :=
  svc.completionOf { m with trips := m.trips.fileRun now.day e l.day start } e
    (start.map fun start => ⟨e.tripId, l.day, start⟩)

/-- The trip of an event and the start of its run. There is none when the trip is unknown, or when
the start has no local time. -/
def course? (e : Event) : Option (Trip × Option (Option Int)) :=
  (svc.trip? e.tripId).bind fun trip =>
    match TripHistory.runStart svc.clock trip e.frequencyStart with
    | .ok start => some (trip, start)
    | .error _ => none

/-- The intake of an event. -/
def intake (now : Instant) (e : Event) (l : Instant) (m : Memory R) : Intake :=
  match svc.course? e with
  | some (trip, start) =>
    let completion := svc.completed now e l start m
    { start
      completion := fun byFrequency =>
        if byFrequency = trip.byFrequency then completion else .nothing
      lesson := DwellTraining.lessonOn svc.clock svc.settings.filters e
        (EventLog.get? (m.stops.file now.day e l.day) ⟨e.stopId, l.day⟩)
      endsHold := true }
  | none => .none

/-- What is answered to an event that goes through. -/
def recorded (now : Instant) (e : Event) (l : Instant) (trip : Trip) (start : Option (Option Int))
    (m : Memory R) : Recorded R where
  stopKey := ⟨e.stopId, l.day⟩
  tripKey := start.map fun start => ⟨e.tripId, l.day, start⟩
  updated := ((m.means trip.byFrequency).take svc.clock now.day e l
    (svc.completed now e l start m)).2

/-! ## Steps -/

variable {svc} {now : Instant} {e : Event} {l : Instant} {trip : Trip}

omit [Scalar R] in
theorem fileAtStop_yields (hlocal : svc.clock.toLocal e.time = .ok l) (m : Memory R) :
    (svc.fileAtStop now e m).Yields { m with stops := m.stops.file now.day e l.day }
      ⟨e.stopId, l.day⟩ := by
  rw [fileAtStop_eq]
  apply (Step.Yields.ofLocal m (ServiceClock.serviceDay_of_toLocal hlocal)).andThen
  exact .done _ _

omit [Scalar R] in
theorem fileInTrip_yields {start : Option (Option Int)}
    (hlocal : svc.clock.toLocal e.time = .ok l)
    (hstart : TripHistory.runStart svc.clock trip e.frequencyStart = .ok start) (m : Memory R) :
    (svc.fileInTrip now trip e m).Yields
      { m with trips := m.trips.fileRun now.day e l.day start }
      (start.map fun start => ⟨e.tripId, l.day, start⟩) := by
  rw [fileInTrip_eq]
  apply (Step.Yields.ofLocal m hstart).andThen
  cases start with
  | none => exact ⟨rfl, rfl⟩
  | some start =>
    apply (Step.Yields.ofLocal m (ServiceClock.serviceDay_of_toLocal hlocal)).andThen
    exact .done _ _

theorem takeMean_yields (hlocal : svc.clock.toLocal e.time = .ok l) (run : Option TripKey)
    (m : Memory R) :
    let taken := (m.means trip.byFrequency).take svc.clock now.day e l (svc.completionOf m e run)
    (svc.takeMean now trip e run m).Yields (m.withMeans trip.byFrequency taken.1) taken.2 := by
  have hkeep : m.withMeans trip.byFrequency (m.means trip.byFrequency) = m := by
    cases trip.byFrequency with
    | false => rfl
    | true => rfl
  rw [takeMean_eq]
  apply (Step.Yields.notify m _).andThen
  cases svc.completionOf m e run with
  | nothing => exact ⟨hkeep.symm, rfl⟩
  | rejected reason => exact ⟨hkeep.symm, rfl⟩
  | sample millis =>
    apply (Step.Yields.ofLocal m (KeySpace.key_of_toLocal hlocal _)).andThen
    apply (Step.Yields.ofLocal m (ServiceClock.serviceDay_of_toLocal hlocal)).andThen
    exact .done _ _

theorem takeDwell_yields (hlocal : svc.clock.toLocal e.time = .ok l) (m : Memory R) :
    (svc.takeDwell e m).Yields
      { m with
        dwellModels := m.dwellModels.learn svc.settings.dwell e
          (DwellTraining.lessonOn svc.clock svc.settings.filters e
            (EventLog.get? m.stops ⟨e.stopId, l.day⟩)) } () := by
  have hlesson := DwellTraining.lessonOf_of_serviceDay
    (ServiceClock.serviceDay_of_toLocal hlocal) svc.settings.filters m.stops
  unfold takeDwell
  apply (Step.Yields.ofLocal m hlesson).andThen
  exact .notify _ _

/-! ## Records -/

theorem record_yields {start : Option (Option Int)} (hfar : svc.isTooFarAhead now e = false)
    (hlocal : svc.clock.toLocal e.time = .ok l) (htrip : svc.trip? e.tripId = some trip)
    (hstart : TripHistory.runStart svc.clock trip e.frequencyStart = .ok start) (m : Memory R) :
    (svc.record now e m).Yields (svc.takeIn now e l (svc.intake now e l m) m)
      (svc.recorded now e l trip start m) := by
  obtain ⟨tripId, routeId, byFrequency, planned, stopIds, travelTimes, dwellTimes⟩ := trip
  have hcourse : svc.course? e = some (⟨tripId, routeId, byFrequency, planned, stopIds, travelTimes,
      dwellTimes⟩, start) := by simp [course?, htrip, hstart]
  rw [intake, hcourse, record, if_neg (by simp [hfar]), htrip]
  apply (fileAtStop_yields hlocal m).andThen
  apply (fileInTrip_yields hlocal hstart _).andThen
  apply (takeMean_yields hlocal _ _).andThen
  apply (takeDwell_yields hlocal _).andThen
  -- the means of the trip's sort are written, and the others take in nothing
  cases byFrequency with
  | false => exact .done _ _
  | true => exact .done _ _

/-- When all local times exist, an event of a known trip is recorded, and it ends the hold that it
is to end. -/
theorem record_of_runStart (svc : Service R) {m : Memory R} {day : Day}
    {known : Option (Option Int)} (hfar : svc.isTooFarAhead now e = false)
    (hday : svc.clock.serviceDay e.time = .ok day) (htrip : svc.trip? e.tripId = some trip)
    (hstart : TripHistory.runStart svc.clock trip e.frequencyStart = .ok known) :
    (svc.record now e m).Completes
      (Memory.OnHold (svc.settings.holding.afterEvent e m.holds)) := by
  obtain ⟨l, hlocal, -⟩ := ServiceClock.exists_toLocal hday
  apply (record_yields hfar hlocal htrip hstart m).completes
  rw [intake, show svc.course? e = some (trip, known) by simp [course?, htrip, hstart]]
  rfl

/-- A record that is not refused writes the event and its intake. -/
theorem memory_record (hfar : svc.isTooFarAhead now e = false)
    (hlocal : svc.clock.toLocal e.time = .ok l) (m : Memory R) :
    (svc.record now e m).memory = svc.takeIn now e l (svc.intake now e l m) m := by
  have hday := ServiceClock.serviceDay_of_toLocal hlocal
  -- without a course nothing is taken in, and only the stop history is written
  have hnone (hcourse : svc.course? e = none) :
      svc.takeIn now e l (svc.intake now e l m) m =
        { m with stops := m.stops.file now.day e l.day } := by
    rw [intake, hcourse]
    rfl
  cases htrip : svc.trip? e.tripId with
  | none =>
    rw [hnone (by simp [course?, htrip]), (svc.record_of_unknownTrip hfar hday htrip).1]
  | some trip =>
    cases hstart : TripHistory.runStart svc.clock trip e.frequencyStart with
    | error cause =>
      rw [hnone (by simp [course?, htrip, hstart]),
        (svc.record_of_lostRunStart hfar hday htrip hstart).1]
    | ok start => exact (record_yields hfar hlocal htrip hstart m).memory

theorem result_record (hfar : svc.isTooFarAhead now e = false)
    (hlocal : svc.clock.toLocal e.time = .ok l) (m : Memory R) :
    (svc.record now e m).result =
      match svc.trip? e.tripId with
      | none => .ok ⟨⟨e.stopId, l.day⟩, none, none⟩
      | some trip =>
        (orNoLocalTime (TripHistory.runStart svc.clock trip e.frequencyStart)).map fun start =>
          svc.recorded now e l trip start m := by
  have hday := ServiceClock.serviceDay_of_toLocal hlocal
  cases htrip : svc.trip? e.tripId with
  | none => exact (svc.record_of_unknownTrip hfar hday htrip).2
  | some trip =>
    cases hstart : TripHistory.runStart svc.clock trip e.frequencyStart with
    | error cause =>
      rw [(svc.record_of_lostRunStart hfar hday htrip hstart).2]
      simp only [hstart]
      rfl
    | ok start =>
      rw [(record_yields hfar hlocal htrip hstart m).result]
      simp only [hstart]
      rfl

/-- A record that is answered was not refused. -/
theorem exists_toLocal_of_record {m : Memory R} {r : Recorded R}
    (h : (svc.record now e m).result = .ok r) :
    svc.isTooFarAhead now e = false ∧ ∃ l, svc.clock.toLocal e.time = .ok l := by
  cases hfar : svc.isTooFarAhead now e with
  | true =>
    rw [(svc.record_of_isTooFarAhead hfar).2] at h
    cases h
  | false =>
    refine ⟨rfl, ?_⟩
    cases hday : svc.clock.serviceDay e.time with
    | error cause =>
      rw [(svc.record_of_noLocalTime hfar hday).2] at h
      cases h
    | ok day =>
      obtain ⟨l, hlocal, -⟩ := ServiceClock.exists_toLocal hday
      exact ⟨l, hlocal⟩

/-- A record that is answered was filed under its stop only, or it went through. -/
theorem recorded_of_record {m : Memory R} {r : Recorded R}
    (h : (svc.record now e m).result = .ok r) :
    ∃ l, svc.isTooFarAhead now e = false ∧ svc.clock.toLocal e.time = .ok l ∧
      (svc.trip? e.tripId = none ∧ r = ⟨⟨e.stopId, l.day⟩, none, none⟩ ∨
        ∃ trip start, svc.trip? e.tripId = some trip ∧
          TripHistory.runStart svc.clock trip e.frequencyStart = .ok start ∧
          r = svc.recorded now e l trip start m) := by
  obtain ⟨hfar, l, hlocal⟩ := exists_toLocal_of_record h
  rw [result_record hfar hlocal] at h
  refine ⟨l, hfar, hlocal, ?_⟩
  cases htrip : svc.trip? e.tripId with
  | none =>
    rw [htrip] at h
    exact Or.inl ⟨rfl, (Except.ok.inj h).symm⟩
  | some trip =>
    rw [htrip] at h
    cases hstart : TripHistory.runStart svc.clock trip e.frequencyStart with
    | error cause =>
      simp only [hstart] at h
      cases h
    | ok start =>
      simp only [hstart] at h
      exact Or.inr ⟨trip, start, rfl, hstart, (Except.ok.inj h).symm⟩

/-- A record that is filed under a run went through. -/
theorem result_eq_recorded {m : Memory R} {r : Recorded R} {k : TripKey}
    (h : (svc.record now e m).result = .ok r) (hk : r.tripKey = some k) :
    ∃ l trip start, svc.isTooFarAhead now e = false ∧ svc.clock.toLocal e.time = .ok l ∧
      svc.trip? e.tripId = some trip ∧
      TripHistory.runStart svc.clock trip e.frequencyStart = .ok (some start) ∧
      k = ⟨e.tripId, l.day, start⟩ ∧ r = svc.recorded now e l trip (some start) m := by
  obtain ⟨l, hfar, hlocal, ⟨-, rfl⟩ | ⟨trip, start, htrip, hstart, rfl⟩⟩ := recorded_of_record h
  · cases hk
  · cases start with
    | none => cases hk
    | some start =>
      exact ⟨l, trip, start, hfar, hlocal, htrip, hstart, (Option.some.inj hk).symm, rfl⟩

end Service

end Headway
