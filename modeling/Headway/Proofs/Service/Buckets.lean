import Headway.Proofs.Service.AfterRun
import Headway.Proofs.Service.Bounds

/-!
# The buckets of trips by frequency

A run of a trip by frequency is told by the bucket in which it starts, but the mean of a segment
stands under the bucket in which the segment was completed. So two records of one segment change the
same mean exactly if their events fall into one bucket (`Service.buckets_of_means`), and runs that
start in one bucket part ways when a later one crosses into the next
(`Service.run_leaves_its_bucket`).
-/

namespace Headway

variable {R : Type} [Scalar R]

theorem SegmentMeans.key_of_take {means : SegmentMeans R} {clock : ServiceClock} {today : Day}
    {e : Event} {l : Instant} {c : Completion} {updated : Updated R}
    (h : (means.take clock today e l c).2 = some updated) :
    updated.key = means.space.keyAt clock e l := by
  cases c with
  | nothing => cases h
  | rejected reason => cases h
  | sample millis =>
    cases h
    rfl

theorem KeySpace.key_frequency {clock : ServiceClock} {tripId : String} {index : Nat} {leg : Leg}
    {t : Instant} {k : SegmentKey}
    (h : (KeySpace.of true).key clock tripId index leg t = .ok k) :
    ∃ b, clock.bucket t = .ok b ∧ k = (SegmentKey.plain tripId index leg).inBucket b := by
  change (clock.bucket t).map (SegmentKey.plain tripId index leg).inBucket = .ok k at h
  cases hb : clock.bucket t with
  | error cause =>
    rw [hb] at h
    cases h
  | ok b =>
    rw [hb] at h
    exact ⟨b, rfl, (Except.ok.inj h).symm⟩

theorem TripHistory.bucket_of_runStart {clock : ServiceClock} {trip : Trip}
    {frequencyStart : Option Instant} {start : Option Int} (hfrequency : trip.byFrequency = true)
    (h : runStart clock trip frequencyStart = .ok (some start)) :
    ∃ t c, frequencyStart = some t ∧ clock.bucket t = .ok c ∧ start = some c := by
  unfold runStart at h
  rw [if_pos hfrequency] at h
  cases frequencyStart with
  | none => cases h
  | some t =>
    cases hbucket : clock.bucket t with
    | error cause =>
      simp only [hbucket] at h
      cases h
    | ok c =>
      simp only [hbucket] at h
      cases h
      exact ⟨t, c, rfl, hbucket, rfl⟩

namespace Service

variable (svc : Service R) {now : Instant} {e : Event} {r : Recorded R}
  {updated : SegmentMeans.Updated R}

theorem exists_run_of_updated {l : Instant} {trip : Trip} {start : Option (Option Int)}
    {m : Memory R} (h : (svc.recorded now e l trip start m).updated = some updated) :
    ∃ known, start = some known := by
  cases start with
  | some known => exact ⟨known, rfl⟩
  | none => cases h

theorem key_of_updated {ops : List Operation}
    (hrecord : (svc.record now e (svc.memoryAfter ops)).result = .ok r)
    (hupdated : r.updated = some updated) :
    ∃ trip start day, svc.trip? e.tripId = some trip ∧
      TripHistory.runStart svc.clock trip e.frequencyStart = .ok (some start) ∧
      r.tripKey = some ⟨e.tripId, day, start⟩ ∧
      (KeySpace.of trip.byFrequency).key svc.clock e.tripId e.stopPathIndex e.completes e.time =
        .ok updated.key := by
  obtain ⟨l, hfar, hlocal, ⟨-, rfl⟩ | ⟨trip, start, htrip, hstart, rfl⟩⟩ :=
    recorded_of_record hrecord
  · cases hupdated
  · obtain ⟨known, rfl⟩ := svc.exists_run_of_updated hupdated
    have hkey := SegmentMeans.key_of_take hupdated
    rw [svc.space_memoryAfter ops] at hkey
    rw [hkey]
    exact ⟨trip, known, l.day, htrip, hstart, rfl, KeySpace.key_of_toLocal hlocal _⟩

/-- The run of a record is told by the bucket in which it starts, and the mean that the record
changes stands under the bucket of its event. -/
structure Bucketed (e : Event) (r : Recorded R) (updated : SegmentMeans.Updated R) : Prop where
  run : ∃ start c day, e.frequencyStart = some start ∧ svc.clock.bucket start = .ok c ∧
    r.tripKey = some ⟨e.tripId, day, some c⟩
  mean : ∃ b, svc.clock.bucket e.time = .ok b ∧
    updated.key = (SegmentKey.plain e.tripId e.stopPathIndex e.completes).inBucket b

theorem bucketed_of_updated {ops : List Operation} {trip : Trip}
    (htrip : svc.trip? e.tripId = some trip) (hfrequency : trip.byFrequency = true)
    (hrecord : (svc.record now e (svc.memoryAfter ops)).result = .ok r)
    (hupdated : r.updated = some updated) : svc.Bucketed e r updated := by
  -- the run and the mean are told by two times of the event: its run's start and its own
  obtain ⟨other, start, day, hother, hstart, hrun, hkey⟩ := svc.key_of_updated hrecord hupdated
  obtain rfl : other = trip := Option.some.inj (hother.symm.trans htrip)
  rw [hfrequency] at hkey
  obtain ⟨t, c, hgiven, hbucket, rfl⟩ := TripHistory.bucket_of_runStart hfrequency hstart
  exact ⟨⟨t, c, day, hgiven, hbucket, hrun⟩, KeySpace.key_frequency hkey⟩

omit [Scalar R] in
variable {svc} in
theorem Bucketed.key_eq_iff {e₁ e₂ : Event} {r₁ r₂ : Recorded R}
    {updated₁ updated₂ : SegmentMeans.Updated R} (h₁ : svc.Bucketed e₁ r₁ updated₁)
    (h₂ : svc.Bucketed e₂ r₂ updated₂) (htripId : e₂.tripId = e₁.tripId)
    (hindex : e₂.stopPathIndex = e₁.stopPathIndex) (hkind : e₂.kind = e₁.kind) :
    updated₁.key = updated₂.key ↔ svc.clock.bucket e₁.time = svc.clock.bucket e₂.time := by
  obtain ⟨b₁, hb₁, hkey₁⟩ := h₁.mean
  obtain ⟨b₂, hb₂, hkey₂⟩ := h₂.mean
  have hleg : e₂.completes = e₁.completes := by
    rw [Event.completes, Event.completes, Event.isArrival, Event.isArrival, hkind]
  rw [hkey₁, hkey₂, hb₁, hb₂, htripId, hindex, hleg]
  simp [SegmentKey.inBucket]

/-- Two records of one segment of a trip by frequency, in any runs, change the mean of the same key
exactly if their events fall into one bucket. In which buckets their runs start has no part in
it. -/
theorem buckets_of_means (ops₁ ops₂ : List Operation) {now₁ now₂ : Instant} {e₁ e₂ : Event}
    {r₁ r₂ : Recorded R} {updated₁ updated₂ : SegmentMeans.Updated R} {trip : Trip}
    (htrip : svc.trip? e₁.tripId = some trip) (hfrequency : trip.byFrequency = true)
    (htripId : e₂.tripId = e₁.tripId) (hindex : e₂.stopPathIndex = e₁.stopPathIndex)
    (hkind : e₂.kind = e₁.kind)
    (hrecord₁ : (svc.record now₁ e₁ (svc.memoryAfter ops₁)).result = .ok r₁)
    (hrecord₂ : (svc.record now₂ e₂ (svc.memoryAfter ops₂)).result = .ok r₂)
    (hupdated₁ : r₁.updated = some updated₁) (hupdated₂ : r₂.updated = some updated₂) :
    svc.Bucketed e₁ r₁ updated₁ ∧ svc.Bucketed e₂ r₂ updated₂ ∧
      (updated₁.key = updated₂.key ↔
        svc.clock.bucket e₁.time = svc.clock.bucket e₂.time) := by
  have hbucketed₁ := svc.bucketed_of_updated htrip hfrequency hrecord₁ hupdated₁
  have hbucketed₂ := svc.bucketed_of_updated (htripId ▸ htrip) hfrequency hrecord₂ hupdated₂
  exact ⟨hbucketed₁, hbucketed₂, hbucketed₁.key_eq_iff hbucketed₂ htripId hindex hkind⟩

/-! ### Across a boundary -/

/-- A trip by frequency from one stop to another. -/
def shuttleRound : Trip := ⟨"F", "S", true, none, ["A", "B"], [0, 300000], [0, 0]⟩

/-- The shuttle, running by frequency. Its service starts at two in the morning. -/
noncomputable def shuttleByFrequency : Service ℝ :=
  { shuttle with
    settings := { shuttle.settings with schedule := Schedule.ofTrips [shuttleRound] } }

/-- Ten minutes before two. -/
def tenToTwo : Instant := (Instant.of? 6600 0).get rfl

/-- Five minutes before two. -/
def fiveToTwo : Instant := (Instant.of? 6900 0).get rfl

/-- Three minutes before two. -/
def threeToTwo : Instant := (Instant.of? 7020 0).get rfl

/-- Four minutes after two. -/
def fourPastTwo : Instant := (Instant.of? 7440 0).get rfl

/-- A vehicle starts its run. -/
def startsRun (vehicleId : String) (start : Instant) : Event :=
  ⟨vehicleId, "F", "S", "A", 0, start, .departure, none, some start⟩

/-- It is at the next stop. -/
def reachesStop (vehicleId : String) (start time : Instant) : Event :=
  ⟨vehicleId, "F", "S", "B", 1, time, .arrival, none, some start⟩

/-- A first vehicle reaches the next stop before two, and two more start after it. -/
def threeRuns : List Operation :=
  [.record fourPastTwo (startsRun "1" tenToTwo),
    .record fourPastTwo (reachesStop "1" tenToTwo fiveToTwo),
    .record fourPastTwo (startsRun "2" fiveToTwo),
    .record fourPastTwo (startsRun "3" threeToTwo)]

/-- What is answered to a vehicle of three that reaches the next stop. -/
noncomputable def reached (vehicleId : String) (start time : Instant) (ops : List Operation) :
    Except (Failure ℝ) (Recorded ℝ) :=
  (shuttleByFrequency.record fourPastTwo (reachesStop vehicleId start time)
    (shuttleByFrequency.memoryAfter ops)).result

omit [Scalar R] in
theorem exists_updated {x : Except (Failure R) (Recorded R)}
    (h : (x.toOption.bind Recorded.updated).isSome = true) :
    ∃ r updated, x = .ok r ∧ r.updated = some updated := by
  cases x with
  | error f => cases h
  | ok r =>
    obtain ⟨updated, hupdated⟩ := Option.isSome_iff_exists.mp h
    exact ⟨r, updated, rfl, hupdated⟩

theorem buckets_of_means_shared :
    ∃ r₁ r₂ updated₁ updated₂,
      reached "1" tenToTwo fiveToTwo (threeRuns.take 1) = .ok r₁ ∧
      reached "2" fiveToTwo threeToTwo threeRuns = .ok r₂ ∧
      r₁.updated = some updated₁ ∧ r₂.updated = some updated₂ ∧
      updated₁.key = updated₂.key := by
  obtain ⟨r₁, updated₁, hrecord₁, hupdated₁⟩ :=
    exists_updated (x := reached "1" tenToTwo fiveToTwo (threeRuns.take 1)) (by decide +kernel)
  obtain ⟨r₂, updated₂, hrecord₂, hupdated₂⟩ :=
    exists_updated (x := reached "2" fiveToTwo threeToTwo threeRuns) (by decide +kernel)
  refine ⟨r₁, r₂, updated₁, updated₂, hrecord₁, hrecord₂, hupdated₁, hupdated₂, ?_⟩
  unfold reached at hrecord₁ hrecord₂
  have htrip : shuttleByFrequency.trip? (reachesStop "1" tenToTwo fiveToTwo).tripId =
      some shuttleRound := rfl
  have htripId : (reachesStop "2" fiveToTwo threeToTwo).tripId =
      (reachesStop "1" tenToTwo fiveToTwo).tripId := rfl
  obtain ⟨-, -, hiff⟩ := buckets_of_means shuttleByFrequency (threeRuns.take 1) threeRuns htrip
    rfl htripId rfl rfl hrecord₁ hrecord₂ hupdated₁ hupdated₂
  exact hiff.mpr (by decide +kernel)

/-- Two runs that start in one bucket change different means at the same stop. -/
theorem run_leaves_its_bucket :
    shuttleByFrequency.Checked Zone.named? ∧
      shuttleByFrequency.clock.bucket tenToTwo = shuttleByFrequency.clock.bucket threeToTwo ∧
      ∃ r₁ r₂ updated₁ updated₂,
        reached "1" tenToTwo fiveToTwo (threeRuns.take 1) = .ok r₁ ∧
        reached "3" threeToTwo fourPastTwo threeRuns = .ok r₂ ∧
        r₁.updated = some updated₁ ∧ r₂.updated = some updated₂ ∧
        updated₁.key ≠ updated₂.key := by
  refine ⟨⟨?_, rfl⟩, by decide +kernel, ?_⟩
  · rw [Settings.check_eq_ok_iff]
    simp only [Settings.faults, shuttleByFrequency, shuttle, shuttle_fraction]
    decide
  · obtain ⟨r₁, updated₁, hrecord₁, hupdated₁⟩ :=
      exists_updated (x := reached "1" tenToTwo fiveToTwo (threeRuns.take 1)) (by decide +kernel)
    obtain ⟨r₂, updated₂, hrecord₂, hupdated₂⟩ :=
      exists_updated (x := reached "3" threeToTwo fourPastTwo threeRuns) (by decide +kernel)
    refine ⟨r₁, r₂, updated₁, updated₂, hrecord₁, hrecord₂, hupdated₁, hupdated₂, ?_⟩
    unfold reached at hrecord₁ hrecord₂
    have htrip : shuttleByFrequency.trip? "F" = some shuttleRound := rfl
    have hbucketed₁ : shuttleByFrequency.Bucketed (reachesStop "1" tenToTwo fiveToTwo) r₁
        updated₁ := shuttleByFrequency.bucketed_of_updated htrip rfl hrecord₁ hupdated₁
    have hbucketed₂ : shuttleByFrequency.Bucketed (reachesStop "3" threeToTwo fourPastTwo) r₂
        updated₂ := shuttleByFrequency.bucketed_of_updated htrip rfl hrecord₂ hupdated₂
    have hbuckets : shuttleByFrequency.clock.bucket fiveToTwo ≠
        shuttleByFrequency.clock.bucket fourPastTwo := by decide +kernel
    exact fun hkey => hbuckets ((hbucketed₁.key_eq_iff hbucketed₂ rfl rfl rfl).mp hkey)

end Service

end Headway
