import Headway.Proofs.Mean.Store
import Headway.Proofs.Observation.Filings
import Headway.Proofs.Service.AfterRun
import Headway.Proofs.Service.Holding
import Headway.Proofs.Service.Intake

/-!
# Independent records

Two events of different trips at different stops on one service day may be recorded in either order:
the memory is the same afterwards, and each is answered as if the other were not there
(`Service.records_commute`).

A record reads before it writes. The two events write under different keys of every table, so the
writes may be swapped (`Service.takeIn_comm`). They share the days for which entries are kept. But
both observe the same days, so that neither makes a difference to what the other reads
(`Service.intake_takeIn`).
-/

namespace Headway

variable {R : Type}

/-! ## Tables -/

theorem Table.get?_alter_comm {κ α : Type} [DecidableEq κ] (t : Table κ α) {k k' : κ} (h : k ≠ k')
    (f g : Option α → α) (j : κ) :
    ((t.alter k f).alter k' g).get? j = ((t.alter k' g).alter k f).get? j := by
  simp only [alter, get?_put, if_neg h, if_neg h.symm]
  by_cases hk : k = j
  · rw [if_neg fun hk' => h (hk.trans hk'.symm), if_pos hk, if_pos hk]
  · rw [if_neg hk, if_neg hk]

/-! ## Means -/

namespace SegmentMeans

/-- Two means of one key space have the same entries and will age alike. -/
structure Same (a b : SegmentMeans R) : Prop where
  space : a.space = b.space
  store : a.store.Same b.store

variable [Scalar R] (means : SegmentMeans R) (clock : ServiceClock) (today : Day) {e e' : Event}
  {l l' : Instant}

omit [Scalar R] in
theorem keyAt_ne (h : e.tripId ≠ e'.tripId) :
    means.space.keyAt clock e l ≠ means.space.keyAt clock e' l' := by
  intro hkey
  have htrip := congrArg SegmentKey.tripId hkey
  rw [KeySpace.tripId_keyAt, KeySpace.tripId_keyAt] at htrip
  exact h htrip

theorem take_comm (h : e.tripId ≠ e'.tripId) (hday : l'.day = l.day) (c c' : Completion) :
    Same ((means.take clock today e l c).1.take clock today e' l' c').1
      ((means.take clock today e' l' c').1.take clock today e l c).1 := by
  cases c with
  | sample millis =>
    cases c' with
    | sample millis' =>
      refine ⟨rfl, ?_⟩
      simp only [take, hday]
      exact means.store.update_comm today _ _ l.day (means.keyAt_ne clock h)
    | _ => exact ⟨rfl, .refl _⟩
  | _ => exact ⟨rfl, .refl _⟩

theorem take_take_snd (h : e'.tripId ≠ e.tripId) (hday : l'.day = l.day) (c c' : Completion) :
    ((means.take clock today e' l' c').1.take clock today e l c).2 =
      (means.take clock today e l c).2 := by
  cases c with
  | sample millis =>
    cases c' with
    | sample millis' =>
      simp only [take, hday]
      rw [means.store.update_update_snd today _ _ l.day (means.keyAt_ne clock h)]
    | _ => rfl
  | _ => rfl

end SegmentMeans

/-! ## Models and holds -/

theorem DwellModels.learn_comm [Scalar R] (models : DwellModels R) (s : DwellSettings R)
    {e e' : Event} (h : e.tripId ≠ e'.tripId) (lesson lesson' : DwellTraining.Lesson)
    (k : SegmentKey) :
    Table.get? ((models.learn s e lesson).learn s e' lesson') k =
      Table.get? ((models.learn s e' lesson').learn s e lesson) k := by
  have hkey : SegmentKey.plain e.tripId e.stopPathIndex .dwell ≠
      .plain e'.tripId e'.stopPathIndex .dwell := fun hk => h (congrArg SegmentKey.tripId hk)
  cases lesson with
  | sample dwell headway =>
    cases lesson' with
    | sample dwell' headway' =>
      simp only [learn, add]
      exact Table.get?_alter_comm models hkey _ _ k
    | _ => rfl
  | _ => rfl

theorem HoldingSettings.get?_afterEvent_comm (s : HoldingSettings) (e e' : Event) (holds : Holds)
    (k : HoldKey) :
    Table.get? (s.afterEvent e' (s.afterEvent e holds)) k =
      Table.get? (s.afterEvent e (s.afterEvent e' holds)) k := by
  simp only [get?_afterEvent]
  split
  · split
    · rfl
    · rfl
  · rfl

/-! ## Memories -/

/-- Two memories have the same entries in every table and will age alike. -/
structure Memory.Same (a b : Memory R) : Prop where
  trips : a.trips.log.Same b.trips.log
  daysToPopulate : a.trips.daysToPopulate = b.trips.daysToPopulate
  stops : EventLog.Same a.stops b.stops
  means : ∀ byFrequency, (a.means byFrequency).Same (b.means byFrequency)
  filterErrors : a.filterErrors = b.filterErrors
  dwellModels : ∀ k, Table.get? a.dwellModels k = Table.get? b.dwellModels k
  holds : ∀ k, Table.get? a.holds k = Table.get? b.holds k

namespace Service

variable [Scalar R] (svc : Service R) {now : Instant} {e e' : Event} {l l' : Instant}

/-- What two events of different trips at different stops write may be written in either order. -/
theorem takeIn_comm (htrip : e.tripId ≠ e'.tripId) (hstop : e.stopId ≠ e'.stopId)
    (hday : l'.day = l.day) (i i' : Intake) (m : Memory R) :
    Memory.Same (svc.takeIn now e' l' i' (svc.takeIn now e l i m))
      (svc.takeIn now e l i (svc.takeIn now e' l' i' m)) where
  -- the runs of two trips, and the lists of two stops, never share a key
  trips := by
    simp only [takeIn, TripHistory.log_fileRun, TripHistory.daysToPopulate_fileRun]
    apply EventLog.fileAll_comm
    intro k
    by_cases hk : e.tripId = k.tripId
    · exact Or.inr (TripHistory.under_filingsOf _ _ _ _ _ fun hk' => htrip (hk.trans hk'.symm))
    · exact Or.inl (TripHistory.under_filingsOf _ _ _ _ _ hk)
  daysToPopulate := by simp only [takeIn, TripHistory.daysToPopulate_fileRun]
  stops := by
    simp only [takeIn, StopHistory.file_eq_fileAll]
    apply EventLog.fileAll_comm
    intro k
    by_cases hk : e.stopId = k.stopId
    · exact Or.inr (StopHistory.under_filingsOf _ _ _ fun hk' => hstop (hk.trans hk'.symm))
    · exact Or.inl (StopHistory.under_filingsOf _ _ _ hk)
  means byFrequency := by
    simp only [means_takeIn]
    exact (m.means byFrequency).take_comm svc.clock now.day htrip hday _ _
  filterErrors := rfl
  dwellModels k := m.dwellModels.learn_comm svc.settings.dwell htrip i.lesson i'.lesson k
  holds k := by
    simp only [takeIn]
    split
    · split
      · exact svc.settings.holding.get?_afterEvent_comm e e' m.holds k
      · rfl
    · rfl

/-- An event of another trip, recorded before on the same day, does not show in what an event
completes. -/
theorem completed_takeIn (htrip : e'.tripId ≠ e.tripId) (hday : l'.day = l.day) (i' : Intake)
    (start : Option (Option Int)) (m : Memory R) :
    svc.completed now e l start (svc.takeIn now e' l' i' m) = svc.completed now e l start m := by
  cases start with
  | none => rfl
  | some start =>
    simp only [completed, completionOf, takeIn, Option.map_some, Option.bind_some,
      TripHistory.log_fileRun, TripHistory.daysToPopulate_fileRun, hday]
    rw [EventLog.get?_fileAll_fileAll _ (TripHistory.under_filingsOf _ _ _ _ _ htrip)
      (TripHistory.days_filingsOf_subset _ _ _ _ _ _ _)]

theorem intake_takeIn (htrip : e'.tripId ≠ e.tripId) (hstop : e'.stopId ≠ e.stopId)
    (hday : l'.day = l.day) (i' : Intake) (m : Memory R) :
    svc.intake now e l (svc.takeIn now e' l' i' m) = svc.intake now e l m := by
  have hevents : EventLog.get? ((svc.takeIn now e' l' i' m).stops.file now.day e l.day)
      ⟨e.stopId, l.day⟩ = EventLog.get? (m.stops.file now.day e l.day) ⟨e.stopId, l.day⟩ := by
    simp only [takeIn, StopHistory.file_eq_fileAll]
    apply EventLog.get?_fileAll_fileAll
    · exact StopHistory.under_filingsOf _ _ _ hstop
    · rw [hday]
      exact List.Subset.refl _
  unfold intake
  rw [hevents]
  cases svc.course? e with
  | none => rfl
  | some course => simp only [svc.completed_takeIn htrip hday]

theorem recorded_takeIn (htrip : e'.tripId ≠ e.tripId) (hday : l'.day = l.day) (i' : Intake)
    (trip : Trip) (start : Option (Option Int)) (m : Memory R) :
    svc.recorded now e l trip start (svc.takeIn now e' l' i' m) =
      svc.recorded now e l trip start m := by
  simp only [recorded, svc.completed_takeIn htrip hday, means_takeIn]
  rw [SegmentMeans.take_take_snd _ _ _ htrip hday]

/-- A record is answered the same whether or not an independent one came before. -/
theorem result_record_takeIn (hfar : svc.isTooFarAhead now e = false)
    (hlocal : svc.clock.toLocal e.time = .ok l) (htrip : e'.tripId ≠ e.tripId)
    (hday : l'.day = l.day) (i' : Intake) (m : Memory R) :
    (svc.record now e (svc.takeIn now e' l' i' m)).result = (svc.record now e m).result := by
  simp only [result_record hfar hlocal, svc.recorded_takeIn htrip hday]

/-- Two records of different trips at different stops on one service day leave the same in either
order, and each is answered as it is without the other. -/
theorem records_commute (m : Memory R) {now : Instant} {e₁ e₂ : Event} {day : Day}
    (htrip : e₁.tripId ≠ e₂.tripId) (hstop : e₁.stopId ≠ e₂.stopId)
    (hfar₁ : svc.isTooFarAhead now e₁ = false) (hfar₂ : svc.isTooFarAhead now e₂ = false)
    (hday₁ : svc.clock.serviceDay e₁.time = .ok day)
    (hday₂ : svc.clock.serviceDay e₂.time = .ok day) :
    let first := svc.record now e₁ m
    let second := svc.record now e₂ m
    Memory.Same (svc.record now e₂ first.memory).memory (svc.record now e₁ second.memory).memory ∧
      (svc.record now e₁ second.memory).result = first.result ∧
      (svc.record now e₂ first.memory).result = second.result := by
  obtain ⟨l₁, hlocal₁, hl₁⟩ := ServiceClock.exists_toLocal hday₁
  obtain ⟨l₂, hlocal₂, hl₂⟩ := ServiceClock.exists_toLocal hday₂
  have hdays : l₂.day = l₁.day := hl₂.trans hl₁.symm
  intro first second
  have hfirst : first.memory = svc.takeIn now e₁ l₁ (svc.intake now e₁ l₁ m) m :=
    memory_record hfar₁ hlocal₁ m
  have hsecond : second.memory = svc.takeIn now e₂ l₂ (svc.intake now e₂ l₂ m) m :=
    memory_record hfar₂ hlocal₂ m
  refine ⟨?_, ?_, ?_⟩
  -- each takes in what it would without the other, so that only the writes are swapped
  · rw [hfirst, hsecond, memory_record hfar₂ hlocal₂, memory_record hfar₁ hlocal₁,
      svc.intake_takeIn htrip hstop hdays.symm, svc.intake_takeIn htrip.symm hstop.symm hdays]
    exact svc.takeIn_comm htrip hstop hdays _ _ m
  · rw [hsecond]
    exact svc.result_record_takeIn hfar₁ hlocal₁ htrip.symm hdays _ m
  · rw [hfirst]
    exact svc.result_record_takeIn hfar₂ hlocal₂ htrip hdays.symm _ m

/-! ### A departure and a stranger -/

/-- A vehicle of an unknown trip is at a third stop. -/
def strangerArrives : Event := ⟨"9", "U", "S", "C", 0, shuttleArrives, .arrival, none, none⟩

theorem records_commute_shuttle :
    let m := shuttle.memoryAfter (shuttleRun.take 1)
    let arrival : Event := ⟨"1", "T", "S", "B", 1, shuttleArrives, .arrival, none, none⟩
    let first := shuttle.record shuttleArrives arrival m
    let second := shuttle.record shuttleArrives strangerArrives m
    shuttle.clock.serviceDay shuttleArrives = .ok shuttleArrives.day ∧
      Memory.Same (shuttle.record shuttleArrives strangerArrives first.memory).memory
        (shuttle.record shuttleArrives arrival second.memory).memory ∧
      (shuttle.record shuttleArrives arrival second.memory).result = first.result ∧
      (shuttle.record shuttleArrives strangerArrives first.memory).result = second.result := by
  intro m arrival first second
  have htrip : arrival.tripId ≠ strangerArrives.tripId := by decide
  have hstop : arrival.stopId ≠ strangerArrives.stopId := by decide
  have hday : shuttle.clock.serviceDay shuttleArrives = .ok shuttleArrives.day := rfl
  have hfar : shuttle.isTooFarAhead shuttleArrives arrival = false := rfl
  exact ⟨hday, records_commute shuttle m htrip hstop hfar hfar hday hday⟩

end Service

end Headway
