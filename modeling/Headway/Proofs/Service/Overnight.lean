import Headway.Proofs.Service.LastPassage

/-!
# Travel over midnight

An arrival completes the travel that began with the vehicle's latest departure from the stop path
before. The departure is looked for in the list of the run on the arrival's own service day, where
only events of that day and of days after it stand (`Service.filter_tripEvents`). So when the two
share their service day the mean takes in the travel time. When local midnight lies between them and
service days are in order it takes in nothing, whatever number of days is populated backward
(`Service.travel_within_a_day`).
-/

namespace Headway

namespace Event

theorem le_of_follows {e y : Event} (h : e.follows y = true) : y.time ≤ e.time := by
  simp only [follows, Bool.and_eq_true, decide_eq_true_eq] at h
  exact h.1.2

theorem follows_self_of_arrival {e : Event} (h : e.kind = .arrival) : e.follows e = false := by
  simp [follows, h, isDeparture]

theorem completes_of_arrival {e : Event} (h : e.kind = .arrival) : e.completes = .travel := by
  simp [completes, isArrival, h]

end Event

namespace Service

variable {R : Type} {svc : Service R} {ops : List Operation} {now : Instant} {e : Event}
  {day : Day} {trip : Trip}

variable (svc) in
/-- The events on file that an event of a trip can follow. -/
def followed (ops : List Operation) (e : Event) : List Event :=
  (svc.filed ops).filter fun y => y.tripId = e.tripId && e.follows y

variable (svc) in
/-- Those of them that stand in the list of the trip's run on a day. -/
def followedIn (ops : List Operation) (e : Event) (day : Day) : List Event :=
  (svc.followed ops e).filter fun y =>
    TripHistory.populates svc.clock (max svc.settings.history.daysToPopulate 1) y.time day

theorem filter_tripEvents (htrip : svc.trip? e.tripId = some trip)
    (hschedule : trip.byFrequency = false) (ops : List Operation) (day : Day) :
    (svc.tripEvents ops ⟨e.tripId, day, trip.start⟩).filter e.follows =
      svc.followedIn ops e day := by
  rw [tripEvents_of_schedule htrip hschedule rfl, List.filter_filter, followedIn, followed,
    List.filter_filter]
  apply List.filter_congr
  intro y _
  simp only [belongsTo]
  ac_rfl

/-- In the list of an event's own day stands what is on that day. -/
theorem isLatest_followedIn {d : Event} (hday : svc.clock.serviceDay e.time = .ok day)
    (hd : IsLatest d (svc.followed ops e)) (hsame : svc.clock.sameDay d.time e.time = true) :
    IsLatest d (svc.followedIn ops e day) := by
  rw [ServiceClock.sameDay_eq_isOn hday, ServiceClock.isOn_iff] at hsame
  exact hd.filter (by simp [TripHistory.populates, hsame])

/-- Where service days are in order, nothing stands there when the latest is on another day. -/
theorem followedIn_eq_nil (hdays : svc.clock.KeepsDaysInOrder) {d : Event}
    (hday : svc.clock.serviceDay e.time = .ok day) (hd : IsLatest d (svc.followed ops e))
    (hother : svc.clock.sameDay d.time e.time = false) : svc.followedIn ops e day = [] := by
  rw [ServiceClock.sameDay_eq_isOn hday] at hother
  obtain ⟨hfiled, hfollows⟩ := List.mem_filter.mp hd.mem
  have hde := Event.le_of_follows (Bool.and_eq_true_iff.mp hfollows).2
  rw [followedIn, List.filter_eq_nil_iff]
  intro y hy hpopulates
  -- it is not on a later day than the event, so it would have to be on its day
  obtain ⟨hyfiled, hyfollows⟩ := List.mem_filter.mp hy
  obtain ⟨own, hown⟩ := exists_serviceDay_of_filed hyfiled
  have hle : own.number ≤ day.number :=
    hdays (Event.le_of_follows (Bool.and_eq_true_iff.mp hyfollows).2) hown hday
  simp only [TripHistory.populates, hown, Bool.and_eq_true, decide_eq_true_eq] at hpopulates
  obtain rfl : own = day := Day.ext (by omega)
  exact Instant.not_le.mpr (lt_of_other_day hdays hfiled hother hday hde hown) (hd.le hy)

variable [Scalar R]

/-- While its day is kept, a run with something on file can be read. -/
theorem exists_tripHistory {k : TripKey}
    (hlive : (svc.memoryAfter ops).trips.log.retention.isLive k.serviceDay = true)
    (he : e ∈ svc.tripEvents ops k) :
    ∃ history, (svc.memoryAfter ops).trips.log.get? k = some history := by
  have hsome := ((svc.tracks_trips ops).isSome k hlive).mpr (by
    rw [tripFilings, Filing.under_flatMap fun w => TripHistory.under_filings svc.clock _ w k]
    exact List.ne_nil_of_mem he)
  exact Option.isSome_iff_exists.mp hsome

variable (svc) in
/-- After every run, let an arrival on a trip with a fixed schedule be recorded and its service day
be kept. If the travel time since the latest departure that the arrival can follow, of those in the
list of its day, is admitted, the mean of the arrival's stop path takes in exactly this time, once.
If there is none, no mean changes, and the answer names none.

The latest departure on all days is the one in the list when it is on the arrival's day. Where
service days are in order, there is none in the list when local midnight lies between the two. -/
theorem travel_within_a_day (ops : List Operation) (now : Instant) {a : Event} {trip : Trip}
    {day : Day} {r : Recorded R} (hkind : a.kind = .arrival)
    (htrip : svc.trip? a.tripId = some trip) (hschedule : trip.byFrequency = false)
    (hrecord : (svc.record now a (svc.memoryAfter ops)).result = .ok r)
    (hday : svc.clock.serviceDay a.time = .ok day)
    (hlive : (svc.record now a (svc.memoryAfter ops)).memory.trips.log.retention.isLive day =
      true) :
    let before := svc.memoryAfter ops
    let after := (svc.record now a before).memory
    let key := SegmentKey.plain a.tripId a.stopPathIndex .travel
    let taken (d : Event) := before.scheduleMeans.store.update now.day key
      (Scalar.ofInt (a.millis - d.millis)) day
    (∀ d, IsLatest d (svc.followedIn ops a day) →
      svc.settings.filters.rejection? .travel d a = none →
        r.updated = some ⟨key, (taken d).2⟩ ∧ after.scheduleMeans.store = (taken d).1 ∧
          after.frequencyMeans = before.frequencyMeans) ∧
    (svc.followedIn ops a day = [] →
      r.updated = none ∧ ∀ byFrequency, after.means byFrequency = before.means byFrequency) ∧
    ∀ d, IsLatest d (svc.followed ops a) →
      (svc.clock.sameDay d.time a.time = true → IsLatest d (svc.followedIn ops a day)) ∧
      (svc.clock.KeepsDaysInOrder → svc.clock.sameDay d.time a.time = false →
        svc.followedIn ops a day = []) := by
  intro before after key taken
  obtain ⟨l, hfar, hlocal, ⟨hunknown, -⟩ | ⟨trip', start, htrip', hstart, rfl⟩⟩ :=
    recorded_of_record hrecord
  · rw [hunknown] at htrip
    cases htrip
  rw [htrip] at htrip'
  obtain rfl := Option.some.inj htrip'
  obtain rfl : some trip.start = start := by
    simpa [TripHistory.runStart, hschedule] using hstart
  obtain rfl : l.day = day := by
    rw [ServiceClock.serviceDay_of_toLocal hlocal] at hday
    exact Except.ok.inj hday
  -- the run's list has all that was filed under it, newest first, the arrival included
  have hmem := mem_tripEvents_record hfar hlocal htrip hstart ops
  rw [← memoryAfter_record] at hlive
  obtain ⟨history, hget⟩ := exists_tripHistory (k := ⟨a.tripId, l.day, trip.start⟩) hlive hmem
  have hsorted := svc.newestFirst_of_get? hget
  have hfollows : a.follows a = false := Event.follows_self_of_arrival hkind
  have hlist : (svc.tripEvents (ops ++ [.record now a]) ⟨a.tripId, l.day, trip.start⟩).filter
      a.follows = svc.followedIn ops a l.day := by
    rw [filter_tripEvents htrip hschedule, followedIn, followed,
      filter_filed_record_of_not hfar hlocal (by simp [hfollows])]
    rfl
  rw [memoryAfter_record] at hget
  have hcompleted := completed_of_history hfar hlocal htrip hstart hget
  rw [FilterSettings.completion, Event.partner?_eq, Event.completes_of_arrival hkind]
    at hcompleted
  refine ⟨fun d hd hadmitted => ?_, fun hnone => ?_, fun d hd => ⟨?_, ?_⟩⟩
  · rw [hsorted.find?_eq_some_iff.mpr (hlist ▸ hd)] at hcompleted
    simp only [hadmitted] at hcompleted
    obtain ⟨hupdated, hstore, hfrequency, -⟩ :=
      means_record_of_sample hfar hlocal htrip hstart hcompleted
    have hkey : ((svc.memoryAfter ops).means trip.byFrequency).space.keyAt svc.clock a l = key := by
      rw [svc.space_memoryAfter, hschedule]
      exact congrArg (SegmentKey.plain a.tripId a.stopPathIndex) (Event.completes_of_arrival hkind)
    rw [hkey, hschedule] at hupdated hstore
    rw [hschedule] at hfrequency
    exact ⟨hupdated, hstore, hfrequency⟩
  · rw [hsorted.find?_eq_none_iff.mpr (hlist.trans hnone)] at hcompleted
    exact means_record_of_not_sample hfar hlocal htrip hstart (by simp [hcompleted])
  · exact isLatest_followedIn hday hd
  · exact fun hdays => followedIn_eq_nil hdays hday hd

/-! ### Ten minutes, on one day and on two -/

/-- A vehicle leaves the first stop at ten. -/
def leaves : Event :=
  ⟨"1", "T", "S", "A", 0, (Instant.of? 36000 0).get rfl, .departure, none, none⟩

/-- When it comes to the next stop. -/
def comesAt : Instant := (Instant.of? 36600 0).get rfl

/-- It comes to the next stop. -/
def comes : Event := ⟨"1", "T", "S", "B", 1, comesAt, .arrival, none, none⟩

/-- The vehicle leaves five minutes before midnight. -/
def leavesBeforeMidnight : Event :=
  ⟨"1", "T", "S", "A", 0, (Instant.of? 86100 0).get rfl, .departure, none, none⟩

/-- When it comes to the next stop, five minutes after midnight. -/
def comesAtMidnight : Instant := (Instant.of? 86700 0).get rfl

/-- It comes to the next stop. -/
def comesAfterMidnight : Event := ⟨"1", "T", "S", "B", 1, comesAtMidnight, .arrival, none, none⟩

theorem followed_over_midnight :
    IsLatest leavesBeforeMidnight
      (filtered.followed [.record comesAtMidnight leavesBeforeMidnight] comesAfterMidnight) := by
  have hfollowed : filtered.followed [.record comesAtMidnight leavesBeforeMidnight]
      comesAfterMidnight = [leavesBeforeMidnight] := by decide +kernel
  rw [hfollowed]
  exact .singleton _

theorem travel_within_a_day_filtered :
    let before := filtered.memoryAfter [.record comesAt leaves]
    let after := (filtered.record comesAt comes before).memory
    let overnight := filtered.memoryAfter [.record comesAtMidnight leavesBeforeMidnight]
    (filtered.clock.sameDay leaves.time comes.time = true ∧
      filtered.settings.filters.rejection? .travel leaves comes = none ∧
      after.scheduleMeans.store = (before.scheduleMeans.store.update comesAt.day
        (.plain "T" 1 .travel) (Scalar.ofInt 600000) comesAt.day).1) ∧
    filtered.clock.KeepsDaysInOrder ∧
      filtered.clock.sameDay leavesBeforeMidnight.time comesAfterMidnight.time = false ∧
      ∀ byFrequency,
        (filtered.record comesAtMidnight comesAfterMidnight overnight).memory.means byFrequency =
          overnight.means byFrequency := by
  intro before after overnight
  have htrip : filtered.trip? "T" = some (regular "T") := rfl
  constructor
  · have hd : IsLatest leaves (filtered.followed [.record comesAt leaves] comes) :=
      IsLatest.singleton leaves
    obtain ⟨r, hrecord⟩ : ∃ r, (filtered.record comesAt comes before).result = .ok r := ⟨_, rfl⟩
    have hday : filtered.clock.serviceDay comes.time = .ok comesAt.day := rfl
    obtain ⟨hsample, -, hlatest⟩ := travel_within_a_day filtered [.record comesAt leaves] comesAt
      rfl htrip rfl hrecord hday rfl
    exact ⟨rfl, rfl, (hsample leaves ((hlatest leaves hd).1 rfl) rfl).2.1⟩
  · obtain ⟨r, hrecord⟩ : ∃ r,
        (filtered.record comesAtMidnight comesAfterMidnight overnight).result = .ok r := ⟨_, rfl⟩
    have hday : filtered.clock.serviceDay comesAfterMidnight.time = .ok comesAtMidnight.day := rfl
    obtain ⟨-, hunchanged, hlatest⟩ := travel_within_a_day filtered
      [.record comesAtMidnight leavesBeforeMidnight] comesAtMidnight rfl htrip rfl hrecord hday rfl
    obtain ⟨-, hnone⟩ := hlatest leavesBeforeMidnight followed_over_midnight
    exact ⟨filtered_keepsDaysInOrder, rfl, (hunchanged (hnone filtered_keepsDaysInOrder rfl)).2⟩

/-- The travel time of ten minutes is admitted and both days are kept. Still there is no mean. -/
theorem travel_lost_at_midnight :
    let ops := [.record comesAtMidnight leavesBeforeMidnight]
    let before := filtered.memoryAfter ops
    let after := (filtered.record comesAtMidnight comesAfterMidnight before).memory
    filtered.Checked Zone.named? ∧ filtered.trip? comesAfterMidnight.tripId = some (regular "T") ∧
      (regular "T").byFrequency = false ∧
      IsLatest leavesBeforeMidnight (filtered.followed ops comesAfterMidnight) ∧
      filtered.settings.filters.rejection? .travel leavesBeforeMidnight comesAfterMidnight =
        none ∧
      (filtered.clock.serviceDay leavesBeforeMidnight.time = .ok leavesBeforeMidnight.time.day ∧
        after.trips.log.retention.isLive leavesBeforeMidnight.time.day = true) ∧
      (filtered.clock.serviceDay comesAfterMidnight.time = .ok comesAfterMidnight.time.day ∧
        after.trips.log.retention.isLive comesAfterMidnight.time.day = true) ∧
      (∃ r, (filtered.record comesAtMidnight comesAfterMidnight before).result = .ok r ∧
        r.updated = none) ∧
      after.scheduleMeans.store.entries.entries = [] := by
  intro ops before after
  exact ⟨filtered_checked, rfl, rfl, followed_over_midnight, rfl, ⟨rfl, rfl⟩, ⟨rfl, rfl⟩,
    ⟨_, rfl, rfl⟩, rfl⟩

end Service

end Headway
