import Headway.Proofs.Mean.Store
import Headway.Proofs.Observation.Partner
import Headway.Proofs.Service.AfterRun
import Headway.Proofs.Service.Bounds

/-!
# Completed segments

A record that is filed under a run looks for the event with which its leg began among all that were
ever filed under the run, itself included. When there is none, or when the filters reject the pair,
no mean changes. Otherwise the time between the two events is one sample of one segment: of the
trips by frequency in the bucket of the event's time, or of the others without a bucket. No other
entry of either sort is touched, and the answer names the segment with its new mean
(`Service.completed_segments`).
-/

namespace Headway

variable {R : Type} [Scalar R]

namespace SegmentMeans

/-- What completes nothing, or is rejected, is no sample. -/
theorem take_of_not_sample (means : SegmentMeans R) (clock : ServiceClock) (today : Day) (e : Event)
    (l : Instant) {c : Completion} (h : ∀ millis, c ≠ .sample millis) :
    means.take clock today e l c = (means, none) := by
  cases c with
  | nothing => rfl
  | rejected reason => rfl
  | sample millis => exact absurd rfl (h millis)

end SegmentMeans

namespace Service

variable (svc : Service R)

theorem memoryAfter_record (ops : List Operation) (now : Instant) (e : Event) :
    svc.memoryAfter (ops ++ [.record now e]) =
      (svc.record now e (svc.memoryAfter ops)).memory := by
  rw [memoryAfter, List.foldl_append]
  rfl

variable {svc} {now : Instant} {e : Event} {l : Instant} {trip : Trip}

theorem means_record {start : Option (Option Int)} (hfar : svc.isTooFarAhead now e = false)
    (hlocal : svc.clock.toLocal e.time = .ok l) (htrip : svc.trip? e.tripId = some trip)
    (hstart : TripHistory.runStart svc.clock trip e.frequencyStart = .ok start) (m : Memory R)
    (byFrequency : Bool) :
    (svc.record now e m).memory.means byFrequency =
      ((m.means byFrequency).take svc.clock now.day e l
        (if byFrequency = trip.byFrequency then svc.completed now e l start m
          else .nothing)).1 := by
  rw [memory_record hfar hlocal, means_takeIn, intake]
  simp [course?, htrip, hstart]

/-- When what the event completes is no sample, no mean changes. -/
theorem means_record_of_not_sample {start : Option (Option Int)}
    (hfar : svc.isTooFarAhead now e = false) (hlocal : svc.clock.toLocal e.time = .ok l)
    (htrip : svc.trip? e.tripId = some trip)
    (hstart : TripHistory.runStart svc.clock trip e.frequencyStart = .ok start) {m : Memory R}
    (hcompleted : ∀ millis, svc.completed now e l start m ≠ .sample millis) :
    (svc.recorded now e l trip start m).updated = none ∧
      ∀ byFrequency, (svc.record now e m).memory.means byFrequency = m.means byFrequency := by
  constructor
  · rw [recorded, SegmentMeans.take_of_not_sample _ _ _ _ _ hcompleted]
  · intro byFrequency
    rw [means_record hfar hlocal htrip hstart, SegmentMeans.take_of_not_sample]
    intro millis
    split
    · exact hcompleted millis
    · simp

/-- A sample is folded into one mean of the trip's sort, and the answer says into which. -/
theorem means_record_of_sample {start : Option (Option Int)} {millis : Int}
    (hfar : svc.isTooFarAhead now e = false) (hlocal : svc.clock.toLocal e.time = .ok l)
    (htrip : svc.trip? e.tripId = some trip)
    (hstart : TripHistory.runStart svc.clock trip e.frequencyStart = .ok start) {m : Memory R}
    (hcompleted : svc.completed now e l start m = .sample millis) :
    let after := (svc.record now e m).memory
    let key := (m.means trip.byFrequency).space.keyAt svc.clock e l
    let taken := (m.means trip.byFrequency).store.update now.day key (Scalar.ofInt millis) l.day
    (svc.recorded now e l trip start m).updated = some ⟨key, taken.2⟩ ∧
      (after.means trip.byFrequency).store = taken.1 ∧
      after.means (!trip.byFrequency) = m.means (!trip.byFrequency) ∧
      ∀ byFrequency k, k ≠ key → (after.means byFrequency).store.entries.get? k =
        (m.means byFrequency).store.entries.get? k := by
  intro after key taken
  -- the two sorts keep their means apart, so that only one of them takes the sample
  have hown : after.means trip.byFrequency =
      { m.means trip.byFrequency with store := taken.1 } := by
    rw [means_record hfar hlocal htrip hstart, if_pos rfl, hcompleted]
    rfl
  have hother : after.means (!trip.byFrequency) = m.means (!trip.byFrequency) := by
    rw [means_record hfar hlocal htrip hstart, if_neg (by simp),
      SegmentMeans.take_of_not_sample _ _ _ _ _ (by simp)]
  refine ⟨?_, congrArg SegmentMeans.store hown, hother, ?_⟩
  · rw [recorded, hcompleted]
    rfl
  · intro byFrequency k hk
    by_cases hsort : byFrequency = trip.byFrequency
    · rw [hsort, hown]
      exact MeanStore.entries_update_of_ne _ _ _ _ (Ne.symm hk)
    · rw [Bool.eq_not_of_ne hsort, hother]

theorem trips_record_of_runStart {start : Option (Option Int)}
    (hfar : svc.isTooFarAhead now e = false) (hlocal : svc.clock.toLocal e.time = .ok l)
    (htrip : svc.trip? e.tripId = some trip)
    (hstart : TripHistory.runStart svc.clock trip e.frequencyStart = .ok start) (m : Memory R) :
    (svc.record now e m).memory.trips = m.trips.fileRun now.day e l.day start := by
  rw [memory_record hfar hlocal, takeIn, intake]
  simp [course?, htrip, hstart]

theorem completed_of_history {start : Option Int} (hfar : svc.isTooFarAhead now e = false)
    (hlocal : svc.clock.toLocal e.time = .ok l) (htrip : svc.trip? e.tripId = some trip)
    (hstart : TripHistory.runStart svc.clock trip e.frequencyStart = .ok (some start))
    {m : Memory R} {history : List Event}
    (hlive : (svc.record now e m).memory.trips.log.get? ⟨e.tripId, l.day, start⟩ = some history) :
    svc.completed now e l (some start) m = svc.settings.filters.completion e history := by
  rw [trips_record_of_runStart hfar hlocal htrip hstart] at hlive
  simp only [completed, completionOf, Option.map_some, Option.bind_some, hlive]

omit [Scalar R] in
/-- The event itself is among those filed under its run. -/
theorem mem_tripEvents_record {start : Option Int} (hfar : svc.isTooFarAhead now e = false)
    (hlocal : svc.clock.toLocal e.time = .ok l) (htrip : svc.trip? e.tripId = some trip)
    (hstart : TripHistory.runStart svc.clock trip e.frequencyStart = .ok (some start))
    (ops : List Operation) :
    e ∈ svc.tripEvents (ops ++ [.record now e]) ⟨e.tripId, l.day, start⟩ := by
  have hcalls : svc.tripCalls (.record now e) = [.write ⟨now.day, trip, e⟩] := by
    simp [tripCalls, htrip, hfar]
  have hgoes : TripHistory.Write.goesUnder svc.clock
      (max svc.settings.history.daysToPopulate 1) ⟨e.tripId, l.day, start⟩
      ⟨now.day, trip, e⟩ = true := by
    simp [TripHistory.Write.goesUnder, TripHistory.startsAt, hstart, TripHistory.populates,
      ServiceClock.serviceDay_of_toLocal hlocal]
  unfold tripEvents
  rw [List.flatMap_append, List.flatMap_singleton, hcalls]
  refine List.mem_map.mpr ⟨⟨now.day, trip, e⟩, List.mem_filter.mpr ⟨?_, hgoes⟩, rfl⟩
  simp [StoreCall.writes]

variable (svc) in
/-- A record that is filed under a run whose list can be read folds the time since the latest event
that it can follow, of those filed under the run, into the mean of its segment. It changes no mean
when there is no such event or the filters reject the pair. -/
theorem completed_segments (ops : List Operation) (now : Instant) (e : Event) {r : Recorded R}
    {k : TripKey} {history : List Event}
    (hrecord : (svc.record now e (svc.memoryAfter ops)).result = .ok r)
    (hrun : r.tripKey = some k)
    (hlive : (svc.record now e (svc.memoryAfter ops)).memory.trips.log.get? k = some history) :
    let before := svc.memoryAfter ops
    let after := (svc.record now e before).memory
    let written := svc.tripEvents (ops ++ [.record now e]) k
    IsNewestFirst history written ∧ e ∈ written ∧
    (written.filter e.follows = [] ∧ r.updated = none ∧
        (∀ byFrequency, after.means byFrequency = before.means byFrequency) ∨
      ∃ begun, IsLatest begun (written.filter e.follows) ∧
        ((∃ reason, svc.settings.filters.rejection? e.completes begun e = some reason) ∧
            r.updated = none ∧
            (∀ byFrequency, after.means byFrequency = before.means byFrequency) ∨
          svc.settings.filters.rejection? e.completes begun e = none ∧
          ∃ trip key day, svc.trip? e.tripId = some trip ∧
            (KeySpace.of trip.byFrequency).key svc.clock e.tripId e.stopPathIndex e.completes
              e.time = .ok key ∧
            svc.clock.serviceDay e.time = .ok day ∧
            let taken := (before.means trip.byFrequency).store.update now.day key
              (Scalar.ofInt (e.millis - begun.millis)) day
            r.updated = some ⟨key, taken.2⟩ ∧
            (after.means trip.byFrequency).store = taken.1 ∧
            after.means (!trip.byFrequency) = before.means (!trip.byFrequency) ∧
            ∀ byFrequency k', k' ≠ key →
              (after.means byFrequency).store.entries.get? k' =
                (before.means byFrequency).store.entries.get? k')) := by
  obtain ⟨l, trip, start, hfar, hlocal, htrip, hstart, rfl, rfl⟩ := result_eq_recorded hrecord hrun
  intro before after written
  have hsorted : IsNewestFirst history written := by
    apply svc.newestFirst_of_get?
    rw [memoryAfter_record]
    exact hlive
  refine ⟨hsorted, mem_tripEvents_record hfar hlocal htrip hstart ops, ?_⟩
  have hcompleted : svc.completed now e l (some start) before = _ :=
    completed_of_history hfar hlocal htrip hstart hlive
  -- what is read back after the record is all that was filed under the run, newest first, so that
  -- the first match in it is the latest of the events that can be followed
  rw [FilterSettings.completion] at hcompleted
  cases hpartner : e.partner? history with
  | none =>
    rw [hpartner] at hcompleted
    obtain ⟨hupdated, hmeans⟩ :=
      means_record_of_not_sample hfar hlocal htrip hstart (m := before) (by simp [hcompleted])
    exact Or.inl ⟨Event.partner?_eq_none hsorted hpartner, hupdated, hmeans⟩
  | some begun =>
    rw [hpartner] at hcompleted
    refine Or.inr ⟨begun, Event.partner?_eq_some hsorted hpartner, ?_⟩
    cases hreason : svc.settings.filters.rejection? e.completes begun e with
    | some reason =>
      simp only [hreason] at hcompleted
      obtain ⟨hupdated, hmeans⟩ :=
        means_record_of_not_sample hfar hlocal htrip hstart (m := before) (by simp [hcompleted])
      exact Or.inl ⟨⟨reason, rfl⟩, hupdated, hmeans⟩
    | none =>
      simp only [hreason] at hcompleted
      have hsample := means_record_of_sample hfar hlocal htrip hstart hcompleted
      rw [svc.space_memoryAfter ops trip.byFrequency] at hsample
      exact Or.inr ⟨rfl, trip, _, l.day, htrip, KeySpace.key_of_toLocal hlocal _,
        ServiceClock.serviceDay_of_toLocal hlocal, hsample⟩

/-! ### From stop to stop -/

/-- A vehicle of the shuttle leaves the first stop. -/
def shuttleDeparture : Event := ⟨"1", "T", "S", "A", 0, shuttleLeaves, .departure, none, none⟩

/-- It is at the other stop. -/
def shuttleArrival : Event := ⟨"1", "T", "S", "B", 1, shuttleArrives, .arrival, none, none⟩

theorem completed_segments_shuttle :
    let ops : List Operation := [.record shuttleArrives shuttleDeparture]
    let run : TripKey := ⟨"T", shuttleArrives.day, some 0⟩
    let step := shuttle.record shuttleArrives shuttleArrival (shuttle.memoryAfter ops)
    ∃ r updated, step.result = .ok r ∧ r.tripKey = some run ∧
      step.memory.trips.log.get? run = some [shuttleArrival, shuttleDeparture] ∧
      r.updated = some updated ∧ updated.key = .plain "T" 1 .travel ∧
      IsNewestFirst [shuttleArrival, shuttleDeparture]
        (shuttle.tripEvents (ops ++ [.record shuttleArrives shuttleArrival]) run) := by
  intro ops run step
  have hlive : step.memory.trips.log.get? run = some [shuttleArrival, shuttleDeparture] := rfl
  obtain ⟨r, hrecord, hrun, updated, hupdated, hkey⟩ : ∃ r, step.result = .ok r ∧
      r.tripKey = some run ∧ ∃ updated, r.updated = some updated ∧
        updated.key = .plain "T" 1 .travel := ⟨_, rfl, rfl, _, rfl, rfl⟩
  obtain ⟨hsorted, -, -⟩ :=
    completed_segments shuttle ops shuttleArrives shuttleArrival hrecord hrun hlive
  exact ⟨r, updated, hrecord, hrun, hlive, hupdated, hkey, hsorted⟩

end Service

end Headway
