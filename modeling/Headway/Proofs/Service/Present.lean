import Headway.Proofs.Present
import Headway.Proofs.Service.AfterRun
import Headway.Proofs.Service.Completion

/-!
# The present is kept through every run

A service files events under their stops and runs and takes samples into means of two sorts. Each of
the four stores ages by a latest day of its own, and all of them keep the present, whatever is
recorded while the clock does not go back (`Service.present_is_kept`). How far ahead of the clock an
event may be dated makes no difference.

What a run writes into a store is listed operation by operation (`Service.writtenFrom`), since a
sample depends on the memory that its record finds.
-/

namespace Headway

/-! ## The clock of a run -/

namespace Operation

/-- The time that the clock shows to an operation that looks at it. -/
def reading? : Operation → Option Instant
  | record now _ => some now
  | _ => none

/-- The clock does not go back in a run, and shows a given time at its end. -/
def ClockRuns (ops : List Operation) (now : Instant) : Prop :=
  (ops.filterMap reading? ++ [now]).Pairwise (· ≤ ·)

theorem ClockRuns.day_le {ops : List Operation} {now t : Instant} (h : ClockRuns ops now)
    {op : Operation} (hop : op ∈ ops) (ht : op.reading? = some t) : t.day ≤ now.day := by
  obtain ⟨-, -, hle⟩ := List.pairwise_append.mp h
  have hmem : t ∈ ops.filterMap reading? := List.mem_filterMap.mpr ⟨op, hop, ht⟩
  exact Instant.day_mono (hle t hmem now (List.mem_singleton_self now))

end Operation

/-! ## Filings of a trip -/

namespace TripHistory

theorem today_of_mem_filings {clock : ServiceClock} {populated : Nat} {w : Write}
    {f : Filing TripKey} (h : f ∈ w.filings clock populated) : f.today = w.today := by
  have hback (start : Option Int) (n : Nat) (day : Day)
      (hf : f ∈ filingsBack w.today w.event start n day) : f.today = w.today := by
    induction n generalizing day with
    | zero => cases hf
    | succ n ih =>
      rw [filingsBack] at hf
      rcases List.mem_cons.mp hf with rfl | hf
      · rfl
      · cases hearlier : day.addDays? (-1) with
        | none =>
          rw [hearlier] at hf
          cases hf
        | some earlier =>
          rw [hearlier] at hf
          exact ih earlier hf
  unfold Write.filings at h
  split at h
  · exact hback _ _ _ h
  · cases h

end TripHistory

variable {R : Type} [Scalar R]

namespace SegmentMeans

/-- The sample that an event completes at a local time, if it completes one. -/
def samplesOf (means : SegmentMeans R) (clock : ServiceClock) (today : Day) (e : Event)
    (l : Instant) : Completion → List (MeanStore.Sample R)
  | .sample millis => [⟨today, means.space.keyAt clock e l, Scalar.ofInt millis, l.day⟩]
  | _ => []

theorem tracks_take {days : Nat} {means : SegmentMeans R} {past : List (MeanStore.Sample R)}
    (h : MeanStore.Tracks days means.store past.reverse) (clock : ServiceClock) (today : Day)
    (e : Event) (l : Instant) (c : Completion) :
    MeanStore.Tracks days (means.take clock today e l c).1.store
      (past ++ means.samplesOf clock today e l c).reverse := by
  cases c with
  | sample millis =>
    rw [List.reverse_append]
    exact h.take ⟨today, means.space.keyAt clock e l, Scalar.ofInt millis, l.day⟩
  | nothing => simpa [samplesOf, take] using h
  | rejected reason => simpa [samplesOf, take] using h

theorem today_of_mem_samplesOf {means : SegmentMeans R} {clock : ServiceClock} {today : Day}
    {e : Event} {l : Instant} {c : Completion} {w : MeanStore.Sample R}
    (h : w ∈ means.samplesOf clock today e l c) : w.today = today := by
  cases c with
  | sample millis =>
    obtain rfl := List.mem_singleton.mp h
    rfl
  | nothing => cases h
  | rejected reason => cases h

end SegmentMeans

namespace Service

variable (svc : Service R)

/-! ## What a run writes -/

/-- What the operations of a run write, from a memory on. -/
def writtenFrom {α : Type} (written : Memory R → Operation → List α) :
    Memory R → List Operation → List α
  | _, [] => []
  | m, op :: rest => written m op ++ writtenFrom written (svc.perform m op).memory rest

variable {svc} in
theorem exists_of_mem_writtenFrom {α : Type} {written : Memory R → Operation → List α} {x : α}
    {m : Memory R} {ops : List Operation} (h : x ∈ svc.writtenFrom written m ops) :
    ∃ found op, op ∈ ops ∧ x ∈ written found op := by
  induction ops generalizing m with
  | nil => cases h
  | cons op rest ih =>
    rcases List.mem_append.mp h with hx | hx
    · exact ⟨m, op, List.mem_cons_self, hx⟩
    · obtain ⟨found, other, hother, hx⟩ := ih hx
      exact ⟨found, other, List.mem_cons_of_mem op hother, hx⟩

/-- What holds of a fresh memory and is kept by each operation with what it writes holds after every
run with all that it wrote. -/
theorem memoryAfter_of_written {α : Type} {P : Memory R → List α → Prop}
    (written : Memory R → Operation → List α) (hnew : P (Memory.new svc.settings) [])
    (hstep : ∀ m past op, P m past → P (svc.perform m op).memory (past ++ written m op))
    (ops : List Operation) :
    P (svc.memoryAfter ops) (svc.writtenFrom written (Memory.new svc.settings) ops) := by
  suffices hfrom : ∀ m past, P m past →
      P (ops.foldl (fun m op => (svc.perform m op).memory) m)
        (past ++ svc.writtenFrom written m ops) from hfrom _ [] hnew
  induction ops with
  | nil =>
    intro m past h
    rwa [writtenFrom, List.append_nil]
  | cons op rest ih =>
    intro m past h
    rw [writtenFrom, ← List.append_assoc]
    exact ih _ _ (hstep m past op h)

theorem writtenFrom_const {α : Type} (written : Operation → List α) (m : Memory R)
    (ops : List Operation) : svc.writtenFrom (fun _ => written) m ops = ops.flatMap written := by
  induction ops generalizing m with
  | nil => rfl
  | cons op rest ih => rw [writtenFrom, ih, List.flatMap_cons]

omit [Scalar R] in
/-- What an operation files under stops. -/
def filedAtStops (op : Operation) : List (Filing StopKey) :=
  match svc.accepted? op with
  | some a => StopHistory.filingsOf a.now.day a.event a.localTime.day
  | none => []

omit [Scalar R] in
/-- What a run files under stops. -/
def stopFilings (ops : List Operation) : List (Filing StopKey) := ops.flatMap svc.filedAtStops

omit [Scalar R] in
/-- What a run files under runs of trips. -/
def tripFilings (ops : List Operation) : List (Filing TripKey) :=
  (StoreCall.writes (ops.flatMap svc.tripCalls)).flatMap
    (TripHistory.Write.filings svc.clock (max svc.settings.history.daysToPopulate 1))

/-- The sample that an operation takes into the means of one sort, if it takes one. -/
def samplesOf (byFrequency : Bool) (m : Memory R) (op : Operation) : List (MeanStore.Sample R) :=
  match svc.accepted? op with
  | some a => (m.means byFrequency).samplesOf svc.clock a.now.day a.event a.localTime
      ((svc.intake a.now a.event a.localTime m).completion byFrequency)
  | none => []

/-- The samples that a run takes into the means of one sort. -/
def samples (byFrequency : Bool) (ops : List Operation) : List (MeanStore.Sample R) :=
  svc.writtenFrom (svc.samplesOf byFrequency) (Memory.new svc.settings) ops

/-! ## The stores of a service -/

theorem tracks_trips (ops : List Operation) :
    EventLog.Tracks svc.settings.history.retentionDays (svc.memoryAfter ops).trips.log
      (svc.tripFilings ops) := by
  rw [trips_memoryAfter]
  exact TripHistory.tracks_run _ _ _ _

theorem tracks_stops (ops : List Operation) :
    EventLog.Tracks svc.settings.history.retentionDays (svc.memoryAfter ops).stops
      (svc.stopFilings ops) := by
  rw [stopFilings, ← svc.writtenFrom_const svc.filedAtStops (Memory.new svc.settings)]
  refine svc.memoryAfter_of_written
    (P := fun m => EventLog.Tracks svc.settings.history.retentionDays m.stops) _
    (EventLog.Tracks.new _) (fun m past op h => ?_) ops
  rcases svc.memory_perform_cases m op with
    ⟨hnone, ⟨errors, holds, hmemory⟩ | hmemory⟩ | ⟨a, ha, hmemory⟩
  · rw [hmemory, filedAtStops, hnone, List.append_nil]
    exact h
  · rw [hmemory, filedAtStops, hnone, List.append_nil]
    exact h.evict
  · rw [hmemory, filedAtStops, ha]
    exact h.fileAll (StopHistory.filingsOf a.now.day a.event a.localTime.day)

theorem tracks_means (byFrequency : Bool) (ops : List Operation) :
    MeanStore.Tracks svc.settings.averages.retentionDays
      ((svc.memoryAfter ops).means byFrequency).store (svc.samples byFrequency ops).reverse := by
  refine svc.memoryAfter_of_written
    (P := fun m past => MeanStore.Tracks svc.settings.averages.retentionDays
      (m.means byFrequency).store past.reverse) _ ?_ (fun m past op h => ?_) ops
  · cases byFrequency with
    | false => exact MeanStore.Tracks.new _
    | true => exact MeanStore.Tracks.new _
  · rcases svc.memory_perform_cases m op with
      ⟨hnone, ⟨errors, holds, hmemory⟩ | hmemory⟩ | ⟨a, ha, hmemory⟩
    · rw [hmemory, samplesOf, hnone, List.append_nil]
      exact h
    · rw [hmemory, samplesOf, hnone, List.append_nil, Memory.means_evict]
      exact h.evict
    · rw [hmemory, samplesOf, ha, means_takeIn]
      exact SegmentMeans.tracks_take h _ _ _ _ _

/-! ## By the clock of a run -/

variable {svc} {ops : List Operation} {now : Instant}

omit [Scalar R] in
theorem reading?_of_accepted? {op : Operation} {a : Accepted} (h : svc.accepted? op = some a) :
    op.reading? = some a.now := by
  unfold accepted? at h
  split at h
  · split at h
    · cases h
    · split at h
      · cases h
        rfl
      · cases h
  · cases h

omit [Scalar R] in
theorem today_of_mem_stopFilings (hclock : Operation.ClockRuns ops now) {f : Filing StopKey}
    (hf : f ∈ svc.stopFilings ops) : f.today ≤ now.day := by
  obtain ⟨op, hop, hfiled⟩ := List.mem_flatMap.mp hf
  rw [filedAtStops] at hfiled
  cases haccepted : svc.accepted? op with
  | none =>
    rw [haccepted] at hfiled
    cases hfiled
  | some a =>
    rw [haccepted] at hfiled
    obtain rfl := List.mem_singleton.mp hfiled
    exact hclock.day_le hop (reading?_of_accepted? haccepted)

omit [Scalar R] in
theorem reading?_of_mem_tripCalls {op : Operation} {w : TripHistory.Write}
    (h : .write w ∈ svc.tripCalls op) : ∃ t, op.reading? = some t ∧ w.today = t.day := by
  cases op with
  | record now e =>
    rw [tripCalls] at h
    cases htrip : svc.trip? e.tripId with
    | none =>
      rw [htrip] at h
      cases h
    | some trip =>
      simp only [htrip] at h
      split at h
      · cases h
      · obtain ⟨⟩ := List.mem_singleton.mp h
        exact ⟨now, rfl, rfl⟩
  | evict =>
    cases List.mem_singleton.mp h
  | _ => cases h

omit [Scalar R] in
theorem today_of_mem_tripFilings (hclock : Operation.ClockRuns ops now) {f : Filing TripKey}
    (hf : f ∈ svc.tripFilings ops) : f.today ≤ now.day := by
  obtain ⟨w, hw, hfiled⟩ := List.mem_flatMap.mp hf
  obtain ⟨op, hop, hcall⟩ := List.mem_flatMap.mp (StoreCall.mem_writes.mp hw)
  obtain ⟨t, ht, htoday⟩ := reading?_of_mem_tripCalls hcall
  rw [TripHistory.today_of_mem_filings hfiled, htoday]
  exact hclock.day_le hop ht

theorem today_of_mem_samples {byFrequency : Bool} (hclock : Operation.ClockRuns ops now)
    {w : MeanStore.Sample R} (hw : w ∈ svc.samples byFrequency ops) : w.today ≤ now.day := by
  obtain ⟨m, op, hop, htaken⟩ := exists_of_mem_writtenFrom hw
  rw [samplesOf] at htaken
  cases haccepted : svc.accepted? op with
  | none =>
    rw [haccepted] at htaken
    cases htaken
  | some a =>
    rw [haccepted] at htaken
    rw [SegmentMeans.today_of_mem_samplesOf htaken]
    exact hclock.day_le hop (reading?_of_accepted? haccepted)

/-! ## The present -/

variable (svc) in
/-- Any store of events or means keeps the present when the clock, which is looked at for each write,
does not go back. So do the four stores of a service after every run, where a record looks at the
clock once for all that it writes. -/
theorem present_is_kept :
    (∀ {κ : Type} [DecidableEq κ] [OnDay κ] (days : Nat) (calls : List (StoreCall (Filing κ) κ))
      (today : Day),
      ((StoreCall.writes calls).map Filing.today ++ [today]).Pairwise (· ≤ ·) →
        (EventLog.run days calls).KeepsPresent days (StoreCall.writes calls) today) ∧
    (∀ (days : Nat) (calls : List (StoreCall (MeanStore.Sample R) SegmentKey)) (today : Day),
      ((StoreCall.writes calls).map MeanStore.Sample.today ++ [today]).Pairwise (· ≤ ·) →
        (MeanStore.run days calls).KeepsPresent days (StoreCall.writes calls) today) ∧
    ∀ (ops : List Operation) (now : Instant), Operation.ClockRuns ops now →
      let m := svc.memoryAfter ops
      m.trips.log.KeepsPresent svc.settings.history.retentionDays (svc.tripFilings ops) now.day ∧
      EventLog.KeepsPresent m.stops svc.settings.history.retentionDays (svc.stopFilings ops)
        now.day ∧
      ∀ byFrequency, (m.means byFrequency).store.KeepsPresent svc.settings.averages.retentionDays
        (svc.samples byFrequency ops) now.day := by
  refine ⟨fun days calls today hclock => ?_, fun days calls today hclock => ?_,
    fun ops now hclock => ?_⟩
  · obtain ⟨-, -, hle⟩ := List.pairwise_append.mp hclock
    exact (EventLog.tracks_run days calls).keepsPresent fun f hf =>
      hle f.today (List.mem_map_of_mem hf) today (List.mem_singleton_self today)
  · obtain ⟨-, -, hle⟩ := List.pairwise_append.mp hclock
    exact (MeanStore.tracks_run days calls).keepsPresent fun w hw =>
      hle w.today (List.mem_map_of_mem hw) today (List.mem_singleton_self today)
  · exact ⟨(svc.tracks_trips ops).keepsPresent fun _ => today_of_mem_tripFilings hclock,
      (svc.tracks_stops ops).keepsPresent fun _ => today_of_mem_stopFilings hclock,
      fun byFrequency => (svc.tracks_means byFrequency ops).keepsPresent
        fun _ => today_of_mem_samples hclock⟩

/-! ### An event of another decade -/

/-- The shuttle, which takes events that are dated decades ahead of the clock. -/
noncomputable def patientShuttle : Service ℝ :=
  { shuttle with
    settings := { shuttle.settings with filters := { maxEventLead := 1000000000 } } }

/-- Ten years later. -/
def tenYearsLater : Instant := (Instant.of? 315360000 0).get rfl

/-- A vehicle goes from stop to stop, an event is dated ten years ahead, and what has expired is
dropped. -/
def strayRun : List Operation :=
  [.record shuttleArrives shuttleDeparture, .record shuttleArrives shuttleArrival,
    .record shuttleArrives { shuttleDeparture with time := tenYearsLater }, .evict]

theorem present_is_kept_shuttle :
    let run : TripKey := ⟨"T", shuttleArrives.day, some 0⟩
    let m := patientShuttle.memoryAfter strayRun
    Operation.ClockRuns strayRun shuttleArrives ∧
      m.trips.log.lists.get? ⟨"T", tenYearsLater.day, some 0⟩ ≠ none ∧
      (∃ events, m.trips.log.get? run = some events ∧
        m.trips.log.evict.lists.get? run = some events ∧
        IsNewestFirst events [shuttleDeparture, shuttleArrival]) ∧
      ∃ mean, m.scheduleMeans.store.get? (.plain "T" 1 .travel) = some mean := by
  intro run m
  have hclock : Operation.ClockRuns strayRun shuttleArrives := by
    unfold Operation.ClockRuns
    decide
  obtain ⟨-, -, hservice⟩ := present_is_kept patientShuttle
  obtain ⟨htrips, -, hmeans⟩ := hservice strayRun shuttleArrives hclock
  have hunder : Filing.under (patientShuttle.tripFilings strayRun) run =
      [shuttleDeparture, shuttleArrival] := by decide +kernel
  have hsample : (⟨shuttleArrives.day, .plain "T" 1 .travel, Scalar.ofInt 60000,
      shuttleArrives.day⟩ : MeanStore.Sample ℝ) ∈ patientShuttle.samples false strayRun :=
    List.mem_singleton_self _
  refine ⟨hclock, by decide +kernel, ?_, ?_⟩
  · obtain ⟨events, hevents, hsorted⟩ := htrips.lists run (by decide) (by simp [hunder])
    obtain ⟨hget, hevict⟩ := htrips.get? run events (by decide) hevents
    rw [hunder] at hsorted
    exact ⟨events, hget, hevict, hsorted⟩
  · obtain ⟨entry, hentry, hday, -⟩ := (hmeans false).entries _ hsample (by decide)
    obtain ⟨hget, -⟩ := (hmeans false).get? _ entry (Int.le_trans (by decide) hday) hentry
    exact ⟨entry.mean, hget⟩

end Service

end Headway
