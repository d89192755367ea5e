import Headway.Proofs.Service.Buckets
import Headway.Proofs.Service.Completion

/-!
# Reading back a mean

The mean that a record answers can be read right after it, and its segment is listed, when means are
kept for at least as many days as trip histories (`Service.means_read_back`).

A mean and the run that completed it are kept by different retentions, each with a latest day of its
own. But the trip history observes every day of which a sample is taken, and more. So the means
trail behind it in every run, whatever days are replayed (`Memory.MeansTrail`), and a sample from a
run that can be read goes into a mean that can be read.
-/

namespace Headway

/-! ## Days -/

theorem Retention.Trails.observed {κ : Type} [OnDay κ] {a b : Retention} (h : a.Trails b)
    (fs : List (Filing κ)) : a.Trails (Filing.observed b fs) := by
  induction fs generalizing b with
  | nil => exact h
  | cons f rest ih => exact ih (h.observe_right f.today (OnDay.day f.key))

/-- An event that is filed under its run observes its own service day. -/
theorem TripHistory.mem_days_filingsOf (today : Day) (e : Event) {populated : Nat}
    (h : 0 < populated) (day : Day) (start : Option Int) :
    (today, day) ∈ (filingsOf today e populated day (some start)).map Filing.days := by
  cases populated with
  | zero => omega
  | succ n => exact List.mem_cons_self

/-! ## Keys -/

theorem KeySpace.isBucketed_keyAt (byFrequency : Bool) (clock : ServiceClock) (e : Event)
    (l : Instant) : ((KeySpace.of byFrequency).keyAt clock e l).isBucketed = byFrequency := by
  cases byFrequency with
  | false => rfl
  | true => rfl

variable {R : Type}

theorem MeanStore.mem_keys_of_get? {s : MeanStore R} {k : SegmentKey} {mean : Mean R}
    (h : s.get? k = some mean) : k ∈ s.keys := by
  rw [get?_eq, Option.map_eq_some_iff] at h
  obtain ⟨entry, hentry, -⟩ := h
  rw [mem_keys_iff, hentry]
  rfl

/-! ## Means behind a trip history -/

/-- The means of both sorts keep all that the trip history keeps, which observes every service day
of its events. -/
structure Memory.MeansTrail (m : Memory R) : Prop where
  populates : 0 < m.trips.daysToPopulate
  trails : ∀ byFrequency, (m.means byFrequency).store.retention.Trails m.trips.log.retention

variable [Scalar R]

/-- The mean after a sample of a day that is kept can be read. -/
theorem MeanStore.get?_update_self (s : MeanStore R) (today : Day) (k : SegmentKey) (x : R)
    {day : Day} (h : (s.retention.observe today day).isLive day = true) :
    (s.update today k x day).1.get? k = some (s.update today k x day).2 := by
  have hlast : (s.retention.observe today day).isLive (lastDay (s.entries.get? k) day) = true := by
    cases s.entries.get? k with
    | none => exact h
    | some e => rw [lastDay, Retention.isLive_latest, h, Bool.or_true]
  rw [get?, entries_update, if_pos rfl, Option.filter_some]
  exact congrArg (Option.map MeanEntry.mean) (if_pos hlast)

namespace Service

variable {svc : Service R} {now : Instant} {e : Event} {l : Instant} {m : Memory R}
  {start : Option (Option Int)} {millis : Int}

omit [Scalar R] in
/-- A sample comes from a run that can be read. -/
theorem run_of_completed (h : svc.completed now e l start m = .sample millis) :
    (∃ known, start = some known) ∧
      (m.trips.fileRun now.day e l.day start).log.retention.isLive l.day = true := by
  cases start with
  | none => cases h
  | some known =>
    refine ⟨⟨known, rfl⟩, ?_⟩
    rw [completed, completionOf, Option.map_some, Option.bind_some] at h
    cases hget : (m.trips.fileRun now.day e l.day (some known)).log.get?
        ⟨e.tripId, l.day, known⟩ with
    | none =>
      rw [hget] at h
      cases h
    | some history => exact EventLog.isLive_of_get? hget

omit [Scalar R] in
theorem start_of_completion {byFrequency : Bool}
    (h : (svc.intake now e l m).completion byFrequency = .sample millis) :
    ∃ known, (svc.intake now e l m).start = some known := by
  unfold intake at *
  cases hcourse : svc.course? e with
  | none =>
    rw [hcourse] at h
    cases h
  | some course =>
    obtain ⟨trip, start⟩ := course
    simp only [hcourse] at h
    split at h
    · exact (run_of_completed h).1
    · cases h

/-- A record that changes a mean completes a sample. -/
theorem completed_of_updated {trip : Trip} {updated : SegmentMeans.Updated R}
    (h : (svc.recorded now e l trip start m).updated = some updated) :
    ∃ millis, svc.completed now e l start m = .sample millis := by
  rw [recorded] at h
  cases hcompleted : svc.completed now e l start m with
  | sample millis => exact ⟨millis, rfl⟩
  | _ =>
    rw [hcompleted] at h
    cases h

end Service

theorem Memory.MeansTrail.takeIn {m : Memory R} (h : m.MeansTrail) (svc : Service R)
    (now : Instant) (e : Event) (l : Instant) :
    (svc.takeIn now e l (svc.intake now e l m) m).MeansTrail where
  populates := by
    rw [Service.takeIn, TripHistory.daysToPopulate_fileRun]
    exact h.populates
  trails byFrequency := by
    rw [Service.means_takeIn, Service.takeIn, TripHistory.log_fileRun, EventLog.retention_fileAll]
    have htrails := (h.trails byFrequency).observed (TripHistory.filingsOf now.day e
      m.trips.daysToPopulate l.day (svc.intake now e l m).start)
    cases hcompletion : (svc.intake now e l m).completion byFrequency with
    | nothing => exact htrails
    | rejected reason => exact htrails
    | sample millis =>
      -- the day of the sample is one of those that the trip history observes
      obtain ⟨known, hstart⟩ := Service.start_of_completion hcompletion
      rw [hstart] at htrails ⊢
      have hday := TripHistory.mem_days_filingsOf now.day e h.populates l.day known
      rw [← Filing.observe_observed_of_mem _ hday]
      exact htrails.observe now.day l.day

namespace Service

variable (svc : Service R)

theorem meansTrail_memoryAfter
    (hdays : svc.settings.history.retentionDays ≤ svc.settings.averages.retentionDays)
    (ops : List Operation) : (svc.memoryAfter ops).MeansTrail := by
  apply svc.memoryAfter_of_steps
  · refine ⟨Nat.le_max_right _ _, fun byFrequency => ?_⟩
    cases byFrequency with
    | false => exact .new hdays
    | true => exact .new hdays
  · intro m op h
    rcases svc.memory_perform_cases m op with
      ⟨-, ⟨errors, holds, hmemory⟩ | hmemory⟩ | ⟨a, -, hmemory⟩
    · rw [hmemory]
      exact ⟨h.populates, h.trails⟩
    · rw [hmemory]
      refine ⟨h.populates, fun byFrequency => ?_⟩
      rw [Memory.means_evict]
      exact h.trails byFrequency
    · rw [hmemory]
      exact h.takeIn svc a.now a.event a.localTime

/-- When means are kept for at least as many days as trip histories, the mean that a record answers
after any run is the one that is read for its key right afterwards, and the key is listed among
those of its sort. -/
theorem means_read_back
    (hdays : svc.settings.history.retentionDays ≤ svc.settings.averages.retentionDays)
    (ops : List Operation) (now : Instant) (e : Event) {r : Recorded R}
    {updated : SegmentMeans.Updated R}
    (hrecord : (svc.record now e (svc.memoryAfter ops)).result = .ok r)
    (hupdated : r.updated = some updated) :
    let after := svc.memoryAfter (ops ++ [.record now e])
    (svc.perform after (.mean updated.key)).result = .ok (.mean (some updated.mean)) ∧
      ∃ keys, (svc.perform after (.meanKeys updated.key.isBucketed)).result =
          .ok (.meanKeys keys) ∧ updated.key ∈ keys := by
  intro after
  suffices hread : after.meanOf? updated.key = some updated.mean by
    have hkeys : updated.key ∈ (after.means updated.key.isBucketed).store.keys :=
      MeanStore.mem_keys_of_get? hread
    refine ⟨?_, _, rfl, hkeys⟩
    rw [← hread]
    rfl
  have htrails : after.MeansTrail := svc.meansTrail_memoryAfter hdays (ops ++ [.record now e])
  have hafter : after = (svc.record now e (svc.memoryAfter ops)).memory :=
    svc.memoryAfter_record ops now e
  rw [hafter] at htrails ⊢
  obtain ⟨l, hfar, hlocal, ⟨-, rfl⟩ | ⟨trip, start, htrip, hstart, rfl⟩⟩ :=
    recorded_of_record hrecord
  · cases hupdated
  obtain ⟨millis, hcompleted⟩ := completed_of_updated hupdated
  obtain ⟨hanswer, hstore, -, -⟩ := means_record_of_sample hfar hlocal htrip hstart hcompleted
  obtain ⟨-, hrun⟩ := run_of_completed hcompleted
  -- the run of the sample can be read, and the means keep what the trip history keeps
  rw [← trips_record_of_runStart hfar hlocal htrip hstart] at hrun
  have hlive := (htrails.trails trip.byFrequency).isLive hrun
  rw [hupdated, svc.space_memoryAfter ops] at hanswer
  rw [hstore] at hlive
  obtain rfl := Option.some.inj hanswer
  rw [Memory.meanOf?, KeySpace.isBucketed_keyAt, hstore, svc.space_memoryAfter ops]
  exact MeanStore.get?_update_self _ _ _ _ hlive

/-! ### The mean of a shuttle -/

theorem means_read_back_shuttle :
    let ops : List Operation := [.record shuttleArrives shuttleDeparture]
    let after := shuttle.memoryAfter (ops ++ [.record shuttleArrives shuttleArrival])
    shuttle.settings.history.retentionDays ≤ shuttle.settings.averages.retentionDays ∧
      ∃ r updated, (shuttle.record shuttleArrives shuttleArrival (shuttle.memoryAfter ops)).result =
          .ok r ∧ r.updated = some updated ∧ updated.key = .plain "T" 1 .travel ∧
        (shuttle.perform after (.mean (.plain "T" 1 .travel))).result =
          .ok (.mean (some updated.mean)) := by
  intro ops after
  have hdays : shuttle.settings.history.retentionDays ≤
      shuttle.settings.averages.retentionDays := by decide
  obtain ⟨r, updated, hrecord, hupdated, hkey⟩ : ∃ r updated,
      (shuttle.record shuttleArrives shuttleArrival (shuttle.memoryAfter ops)).result = .ok r ∧
        r.updated = some updated ∧ updated.key = .plain "T" 1 .travel := ⟨_, _, rfl, rfl, rfl⟩
  obtain ⟨hread, -⟩ := means_read_back shuttle hdays ops shuttleArrives shuttleArrival hrecord
    hupdated
  rw [hkey] at hread
  exact ⟨hdays, r, updated, hrecord, hupdated, hkey, hread⟩

end Service

end Headway
