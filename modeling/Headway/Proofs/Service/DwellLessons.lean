import Headway.Proofs.Service.LastPassage

/-!
# What departures teach

A departure is paired with the vehicle's latest arrival at the stop on its service day, and the
headway runs from the latest arrival before that by another vehicle on another trip, on the same day
too (`Service.latest_arrivals_teach`, `Service.headways_within_a_day`). The pairing asks for too
little in one way and finds too little in another.

* It does not ask that the arrival is not after the departure, as the pairing of mean dwell times
  does. A departure that is recorded late, when the vehicle has come to the stop again, is paired
  with the later arrival, and then it teaches nothing (`Service.later_arrival_hides_sample`).
* A vehicle ahead may have come on another day when the headway is short enough, but then it does
  not stand in the list that is searched. So with midnight between the two no headway is seen
  (`Service.headway_lost_at_midnight`).
-/

namespace Headway

theorem Event.isArrival_of_isDeparture {e : Event} (h : e.isDeparture = true) :
    e.isArrival = false := by
  have hkind : e.kind = .departure := of_decide_eq_true h
  simp [isArrival, hkind]

/-- The filters admit the dwell time between an arrival and a departure, and the headway to a
vehicle ahead that is close enough to its schedule. -/
structure FilterSettings.AdmitsDwell (f : FilterSettings) (departure arrival leader : Event) :
    Prop where
  dwell : f.rejection? .dwell arrival departure = none
  adherence : f.excess? leader = none
  headway : f.headwayWithin (arrival.millis - leader.millis) = true

namespace DwellTraining

variable {clock : ServiceClock} {f : FilterSettings} {departure arrival leader : Event}
  {events : List Event}

theorem judge_eq_sample_iff {dwellMs headwayMs : Int} :
    judge f departure arrival leader = .sample dwellMs headwayMs ↔
      f.AdmitsDwell departure arrival leader ∧ departure.millis - arrival.millis = dwellMs ∧
        arrival.millis - leader.millis = headwayMs := by
  unfold judge
  constructor
  · intro h
    cases hdwell : f.rejection? .dwell arrival departure with
    | some reason => simp [hdwell] at h
    | none =>
      cases hleader : f.excess? leader with
      | some seconds => simp [hdwell, hleader] at h
      | none =>
        simp only [hdwell, hleader] at h
        split at h
        · rename_i hheadway
          cases h
          exact ⟨⟨hdwell, hleader, hheadway⟩, rfl, rfl⟩
        · cases h
  · rintro ⟨hadmits, rfl, rfl⟩
    simp only [hadmits.dwell, hadmits.adherence, hadmits.headway, if_true]

/-- No dwell time is admitted from an arrival that comes after the departure. -/
theorem judge_ne_sample_of_late (hlate : departure.time ≤ arrival.time)
    (hleap : departure.time.isLeap = false) (hmin : 0 ≤ f.minDwell) (dwellMs headwayMs : Int) :
    judge f departure arrival leader ≠ .sample dwellMs headwayMs := by
  intro h
  obtain ⟨hadmits, -, -⟩ := judge_eq_sample_iff.mp h
  obtain ⟨-, -, hleast, -⟩ := f.rejection?_eq_none_iff.mp hadmits.dwell
  have hle : departure.millis ≤ arrival.millis := Instant.millis_le_millis hlate hleap
  have hbound : f.minDwell < departure.millis - arrival.millis := hleast
  omega

/-- A candidate is an earlier arrival of another vehicle on another trip at the same stop. -/
def isAhead (arrival candidate : Event) : Bool :=
  candidate.isArrival && candidate.vehicleId ≠ arrival.vehicleId &&
    candidate.tripId ≠ arrival.tripId && candidate.stopId = arrival.stopId &&
    candidate.time < arrival.time

theorem isLeader_eq (clock : ServiceClock) (f : FilterSettings) (arrival candidate : Event) :
    isLeader clock f arrival candidate =
      (isAhead arrival candidate && (clock.sameDay candidate.time arrival.time ||
        arrival.millis - candidate.millis < f.maxHeadway)) := rfl

theorem vehicleId_ne_of_isLeader (h : isLeader clock f arrival leader = true) :
    leader.vehicleId ≠ arrival.vehicleId := by
  simp only [isLeader, Bool.and_eq_true, decide_eq_true_eq] at h
  exact h.1.1.1.1.2

/-- Two events of different vehicles are two events. -/
theorem two_le_length {x y : Event} (hx : x ∈ events) (hy : y ∈ events)
    (h : x.vehicleId ≠ y.vehicleId) : 2 ≤ events.length := by
  match events, hx, hy with
  | [z], hx, hy =>
    rw [List.mem_singleton.mp hx, List.mem_singleton.mp hy] at h
    exact absurd rfl h
  | _ :: _ :: _, _, _ => simp

/-- The lesson by its two searches; that there are two events need not be asked. -/
theorem lesson_eq (clock : ServiceClock) (f : FilterSettings) (departure : Event)
    (events : List Event) :
    lesson clock f departure events =
      match events.find? (isOwnArrival departure) with
      | none => .nothing
      | some arrival =>
        match events.find? (isLeader clock f arrival) with
        | none => .nothing
        | some leader => judge f departure arrival leader := by
  unfold lesson
  split
  · rename_i hshort
    cases harrival : events.find? (isOwnArrival departure) with
    | none => rfl
    | some arrival =>
      cases hleader : events.find? (isLeader clock f arrival) with
      | none => simp only [hleader]
      | some leader =>
        have hlength := two_le_length (List.mem_of_find?_eq_some hleader)
          (List.mem_of_find?_eq_some harrival)
          (vehicleId_ne_of_isLeader (List.find?_some hleader))
        omega
  · rfl

end DwellTraining

/-- What is no sample leaves the models as they are. -/
theorem DwellModels.learn_of_not_sample {R : Type} [Scalar R] {models : DwellModels R}
    {s : DwellSettings R} {lesson : DwellTraining.Lesson}
    (h : ∀ dwellMs headwayMs, lesson ≠ .sample dwellMs headwayMs) (e : Event) :
    models.learn s e lesson = models := by
  cases lesson with
  | sample dwellMs headwayMs => exact absurd rfl (h dwellMs headwayMs)
  | _ => rfl

namespace Service

open DwellTraining

variable {R : Type} (svc : Service R)

/-- The arrivals on file of a departing vehicle at a stop on a day, on the same trip. -/
def ownArrivals (ops : List Operation) (k : StopKey) (e : Event) : List Event :=
  (svc.filedAt ops k).filter (isOwnArrival e)

/-- The arrivals on file from which the headway to an arrival may run. -/
def leaders (ops : List Operation) (k : StopKey) (a : Event) : List Event :=
  (svc.filedAt ops k).filter (isLeader svc.clock svc.settings.filters a)

variable {svc} [Scalar R] {ops : List Operation} {now : Instant} {e : Event} {day : Day}

/-- A recorded departure trains by what it teaches, given the stop history after it. -/
theorem dwellModels_record {m : Memory R} {r : Recorded R}
    (h : (svc.record now e m).result = .ok r) (hknown : (svc.trip? e.tripId).isSome = true)
    (hday : svc.clock.serviceDay e.time = .ok day) :
    (svc.record now e m).memory.dwellModels = m.dwellModels.learn svc.settings.dwell e
      (lessonOn svc.clock svc.settings.filters e
        (EventLog.get? (svc.record now e m).memory.stops ⟨e.stopId, day⟩)) := by
  obtain ⟨l, hfar, hlocal, ⟨hunknown, -⟩ | ⟨trip, start, htrip, hstart, -⟩⟩ := recorded_of_record h
  · rw [hunknown] at hknown
    cases hknown
  · rw [ServiceClock.serviceDay_of_toLocal hlocal] at hday
    obtain rfl := Except.ok.inj hday
    rw [memory_record hfar hlocal, takeIn, intake]
    simp [course?, htrip, hstart]

/-- What is taught by the list of a stop that can be read, by the events on file. -/
theorem lesson_of_stops {k : StopKey} {events : List Event}
    (h : EventLog.get? (svc.memoryAfter ops).stops k = some events) (e : Event) :
    (svc.ownArrivals ops k e = [] → lesson svc.clock svc.settings.filters e events = .nothing) ∧
      ∀ a, IsLatest a (svc.ownArrivals ops k e) →
        (svc.leaders ops k a = [] →
          lesson svc.clock svc.settings.filters e events = .nothing) ∧
        ∀ x, IsLatest x (svc.leaders ops k a) →
          lesson svc.clock svc.settings.filters e events = judge svc.settings.filters e a x := by
  have hsorted := newestFirst_of_stops h
  rw [lesson_eq]
  refine ⟨fun hnone => ?_, fun a ha => ?_⟩
  · rw [hsorted.find?_eq_none_iff.mpr hnone]
  · rw [hsorted.find?_eq_some_iff.mpr ha]
    refine ⟨fun hnone => ?_, fun x hx => ?_⟩
    · simp only [hsorted.find?_eq_none_iff.mpr hnone]
    · simp only [hsorted.find?_eq_some_iff.mpr hx]

variable (svc) in
/-- After every run, a departure whose stop has a list for its day is paired with the vehicle's
latest arrival in it, which is the latest one not after the departure exactly if it is not after the
departure itself. With the latest arrival before that by another vehicle on another trip, if there
is one, the dwell time and the headway are judged. An arrival that comes after the departure leads
to no sample. -/
theorem latest_arrivals_teach (ops : List Operation) {e : Event} {day : Day} {events : List Event}
    (hdeparture : e.isDeparture = true) (hday : svc.clock.serviceDay e.time = .ok day)
    (hlive : EventLog.get? (svc.memoryAfter ops).stops ⟨e.stopId, day⟩ = some events) :
    let f := svc.settings.filters
    let own := svc.ownArrivals ops ⟨e.stopId, day⟩ e
    ∃ lesson, lessonOf svc.clock f e (svc.memoryAfter ops).stops = .ok lesson ∧
      (own = [] → lesson = .nothing) ∧
      ∀ a, IsLatest a own →
        (a.time ≤ e.time ↔ IsLatest a (own.filter fun y => y.time ≤ e.time)) ∧
        (svc.leaders ops ⟨e.stopId, day⟩ a = [] → lesson = .nothing) ∧
        (∀ x, IsLatest x (svc.leaders ops ⟨e.stopId, day⟩ a) → lesson = judge f e a x) ∧
        (e.time < a.time → e.time.isLeap = false → 0 ≤ f.minDwell →
          ∀ dwellMs headwayMs, lesson ≠ .sample dwellMs headwayMs) := by
  intro f own
  obtain ⟨hnone, hpaired⟩ := lesson_of_stops hlive e
  refine ⟨lesson svc.clock f e events, ?_, hnone, fun a ha => ?_⟩
  · rw [lessonOf_of_serviceDay hday, hlive]
    unfold lessonOn
    rw [if_pos hdeparture]
  · obtain ⟨halone, hjudged⟩ := hpaired a ha
    refine ⟨⟨fun hle => ha.filter (decide_eq_true hle), fun hown => ?_⟩, halone, hjudged,
      fun hlate hleap hmin dwellMs headwayMs => ?_⟩
    · exact of_decide_eq_true (List.mem_filter.mp hown.mem).2
    · rcases IsLatest.eq_nil_or_exists (svc.leaders ops ⟨e.stopId, day⟩ a) with hnobody | ⟨x, hx⟩
      · simp [f, halone hnobody]
      · rw [hjudged x hx]
        exact judge_ne_sample_of_late (Instant.le_of_lt hlate) hleap hmin dwellMs headwayMs

/-! ### A departure that is recorded late -/

/-- What a vehicle on one of the two trips does at the second stop, at a second. -/
def atSecondStop (vehicleId tripId : String) (kind : EventKind) (time : Instant) : Event :=
  ⟨vehicleId, tripId, "S", "B", 1, time, kind, none, none⟩

/-- A vehicle comes to the stop at half past eight. -/
def arrivalAhead : Event := atSecondStop "2" "U" .arrival ((Instant.of? 30600 0).get rfl)

/-- Another vehicle comes five minutes later. -/
def arrivalBehind : Event := atSecondStop "1" "T" .arrival ((Instant.of? 30900 0).get rfl)

/-- It leaves after half a minute. -/
def departureBehind : Event := atSecondStop "1" "T" .departure ((Instant.of? 30930 0).get rfl)

/-- Ten minutes after it came it comes again. -/
def arrivalAgain : Event := atSecondStop "1" "T" .arrival ((Instant.of? 31500 0).get rfl)

/-- When all of it is recorded. -/
def recordsAt : Instant := (Instant.of? 31500 0).get rfl

/-- Records some events. -/
def recording (now : Instant) (events : List Event) : List Operation :=
  events.map (.record now)

theorem departureBehind_admitted :
    filtered.settings.filters.AdmitsDwell departureBehind arrivalBehind arrivalAhead :=
  ⟨rfl, rfl, rfl⟩

theorem latest_arrivals_teach_filtered :
    let ops := recording recordsAt [arrivalAhead, arrivalBehind, departureBehind]
    let k : StopKey := ⟨"B", recordsAt.day⟩
    departureBehind.isDeparture = true ∧
      filtered.clock.serviceDay departureBehind.time = .ok recordsAt.day ∧
      EventLog.get? (filtered.memoryAfter ops).stops k =
        some [departureBehind, arrivalBehind, arrivalAhead] ∧
      IsLatest arrivalBehind (filtered.ownArrivals ops k departureBehind) ∧
      lessonOf filtered.clock filtered.settings.filters departureBehind
        (filtered.memoryAfter ops).stops = .ok (.sample 30000 300000) := by
  intro ops k
  have hown : IsLatest arrivalBehind (filtered.ownArrivals ops k departureBehind) :=
    IsLatest.singleton arrivalBehind
  have hlist : EventLog.get? (filtered.memoryAfter ops).stops k =
      some [departureBehind, arrivalBehind, arrivalAhead] := rfl
  have hday : filtered.clock.serviceDay departureBehind.time = .ok recordsAt.day := rfl
  obtain ⟨lesson, hlesson, -, hpaired⟩ := latest_arrivals_teach filtered ops rfl hday hlist
  obtain ⟨-, -, hjudged, -⟩ := hpaired arrivalBehind hown
  refine ⟨rfl, hday, hlist, hown, ?_⟩
  rw [hlesson, hjudged arrivalAhead (IsLatest.singleton arrivalAhead),
    judge_eq_sample_iff.mpr ⟨departureBehind_admitted, rfl, rfl⟩]
  rfl

/-- The latest arrival that is not after the departure makes an admitted dwell time, and the
departure still teaches nothing. -/
theorem later_arrival_hides_sample :
    let ops := recording recordsAt [arrivalAhead, arrivalBehind, arrivalAgain, departureBehind]
    let k : StopKey := ⟨"B", recordsAt.day⟩
    filtered.Checked Zone.named? ∧
      filtered.clock.serviceDay departureBehind.time = .ok recordsAt.day ∧
      EventLog.get? (filtered.memoryAfter ops).stops k =
        some [arrivalAgain, departureBehind, arrivalBehind, arrivalAhead] ∧
      IsLatest arrivalBehind ((filtered.ownArrivals ops k departureBehind).filter
        fun y => y.time ≤ departureBehind.time) ∧
      IsLatest arrivalAhead (filtered.leaders ops k arrivalBehind) ∧
      filtered.settings.filters.AdmitsDwell departureBehind arrivalBehind arrivalAhead ∧
      (∀ dwellMs headwayMs, lessonOf filtered.clock filtered.settings.filters departureBehind
        (filtered.memoryAfter ops).stops ≠ .ok (.sample dwellMs headwayMs)) ∧
      (filtered.memoryAfter ops).dwellModels.entries = [] := by
  intro ops k
  have hlist : EventLog.get? (filtered.memoryAfter ops).stops k =
      some [arrivalAgain, departureBehind, arrivalBehind, arrivalAhead] := rfl
  have hown : IsLatest arrivalBehind ((filtered.ownArrivals ops k departureBehind).filter
      fun y => y.time ≤ departureBehind.time) := IsLatest.singleton arrivalBehind
  have hleaders : IsLatest arrivalAhead (filtered.leaders ops k arrivalBehind) :=
    IsLatest.singleton arrivalAhead
  refine ⟨filtered_checked, rfl, hlist, hown, hleaders, departureBehind_admitted, ?_, rfl⟩
  intro dwellMs headwayMs h
  cases h

/-! ## Headways -/

omit [Scalar R] in
theorem ownArrivals_eq (ops : List Operation) (e : Event) (day : Day) :
    svc.ownArrivals ops ⟨e.stopId, day⟩ e =
      (svc.filed ops).filter fun y => isOwnArrival e y && svc.clock.isOn y.time day := by
  rw [ownArrivals, filter_filedAt]
  apply List.filter_congr
  intro y _
  cases hown : isOwnArrival e y with
  | false => simp
  | true =>
    simp only [isOwnArrival, Bool.and_eq_true, decide_eq_true_eq] at hown
    simp [hown.1.1.2]

omit [Scalar R] in
/-- On the day of an arrival, the headway may run from all that is ahead. -/
theorem leaders_eq {a : Event} {stopId : String} (ha : svc.clock.serviceDay a.time = .ok day)
    (hstop : a.stopId = stopId) (ops : List Operation) :
    svc.leaders ops ⟨stopId, day⟩ a =
      (svc.filed ops).filter fun y => isAhead a y && svc.clock.isOn y.time day := by
  rw [leaders, filter_filedAt]
  apply List.filter_congr
  intro y _
  rw [isLeader_eq]
  cases hahead : isAhead a y with
  | false => simp
  | true =>
    cases hon : svc.clock.isOn y.time day with
    | false => simp
    | true =>
      simp only [isAhead, Bool.and_eq_true, decide_eq_true_eq] at hahead
      simp [ServiceClock.sameDay_eq_isOn ha, hon, hahead.1.2, hstop]

/-- What a recorded departure teaches by the list of its stop and day. The departure itself is no
arrival, so the arrivals there are those from before. -/
theorem lesson_of_record {r : Recorded R} (hdeparture : e.isDeparture = true)
    (hknown : (svc.trip? e.tripId).isSome = true)
    (hrecord : (svc.record now e (svc.memoryAfter ops)).result = .ok r)
    (hday : svc.clock.serviceDay e.time = .ok day)
    (hlive : (svc.record now e (svc.memoryAfter ops)).memory.stops.retention.isLive day = true) :
    ∃ lesson, (svc.record now e (svc.memoryAfter ops)).memory.dwellModels =
        (svc.memoryAfter ops).dwellModels.learn svc.settings.dwell e lesson ∧
      (svc.ownArrivals ops ⟨e.stopId, day⟩ e = [] → lesson = .nothing) ∧
      ∀ a, IsLatest a (svc.ownArrivals ops ⟨e.stopId, day⟩ e) →
        (svc.leaders ops ⟨e.stopId, day⟩ a = [] → lesson = .nothing) ∧
        ∀ x, IsLatest x (svc.leaders ops ⟨e.stopId, day⟩ a) →
          lesson = judge svc.settings.filters e a x := by
  have hlearned := dwellModels_record hrecord hknown hday
  obtain ⟨hfar, l, hlocal⟩ := exists_toLocal_of_record hrecord
  have harrival := Event.isArrival_of_isDeparture hdeparture
  have hsame {p : Event → Bool} (hp : p e = false) :
      (svc.filedAt (ops ++ [.record now e]) ⟨e.stopId, day⟩).filter p =
        (svc.filedAt ops ⟨e.stopId, day⟩).filter p := by
    rw [filter_filedAt, filter_filedAt, filter_filed_record_of_not hfar hlocal (by simp [hp])]
  rw [← memoryAfter_record] at hlive hlearned
  have hmem : e ∈ svc.filedAt (ops ++ [.record now e]) ⟨e.stopId, day⟩ := by
    rw [filedAt, filed_record hfar hlocal]
    exact List.mem_filter.mpr ⟨by simp, by simp [Event.isAt, ServiceClock.isOn_iff.mpr hday]⟩
  obtain ⟨events, hlist⟩ := exists_stops (k := ⟨e.stopId, day⟩) hlive hmem
  rw [hlist, lessonOn, if_pos hdeparture, memoryAfter_record] at hlearned
  obtain ⟨hnone, hpaired⟩ := lesson_of_stops hlist e
  have hown : svc.ownArrivals (ops ++ [.record now e]) ⟨e.stopId, day⟩ e =
      svc.ownArrivals ops ⟨e.stopId, day⟩ e := hsame (by simp [isOwnArrival, harrival])
  have hleaders (a : Event) : svc.leaders (ops ++ [.record now e]) ⟨e.stopId, day⟩ a =
      svc.leaders ops ⟨e.stopId, day⟩ a := hsame (by simp [isLeader, harrival])
  rw [hown] at hnone hpaired
  refine ⟨_, hlearned, hnone, fun a ha => ?_⟩
  rw [← hleaders a]
  exact hpaired a ha

omit [Scalar R] in
/-- The latest arrivals on all days make the pair of a day when both are on it. -/
theorem isLatest_pair_of_day {a x : Event} (hday : svc.clock.serviceDay e.time = .ok day)
    (ha : IsLatest a ((svc.filed ops).filter (isOwnArrival e)))
    (hx : IsLatest x ((svc.filed ops).filter (isAhead a)))
    (hae : svc.clock.sameDay a.time e.time = true)
    (hxe : svc.clock.sameDay x.time e.time = true) :
    IsLatest a (svc.ownArrivals ops ⟨e.stopId, day⟩ e) ∧
      IsLatest x (svc.leaders ops ⟨e.stopId, day⟩ a) := by
  rw [ServiceClock.sameDay_eq_isOn hday] at hae hxe
  have hown := (List.mem_filter.mp ha.mem).2
  simp only [isOwnArrival, Bool.and_eq_true, decide_eq_true_eq] at hown
  rw [ownArrivals_eq, leaders_eq (ServiceClock.isOn_iff.mp hae) hown.1.1.2]
  exact ⟨ha.filter_and (q := fun y => svc.clock.isOn y.time day) hae,
    hx.filter_and (q := fun y => svc.clock.isOn y.time day) hxe⟩

omit [Scalar R] in
/-- Where service days are in order, a day has no pair unless the vehicle ahead came on it. -/
theorem not_isLatest_pair_of_other_day (hdays : svc.clock.KeepsDaysInOrder) {a x : Event}
    (hday : svc.clock.serviceDay e.time = .ok day)
    (ha : IsLatest a ((svc.filed ops).filter (isOwnArrival e))) (hae : a.time ≤ e.time)
    (hx : IsLatest x ((svc.filed ops).filter (isAhead a)))
    (hxe : svc.clock.sameDay x.time e.time = false) {b y : Event}
    (hb : IsLatest b (svc.ownArrivals ops ⟨e.stopId, day⟩ e)) :
    ¬ IsLatest y (svc.leaders ops ⟨e.stopId, day⟩ b) := by
  intro hy
  rw [ServiceClock.sameDay_eq_isOn hday] at hxe
  obtain ⟨-, hown⟩ := List.mem_filter.mp ha.mem
  obtain ⟨-, hahead⟩ := List.mem_filter.mp hx.mem
  simp only [isOwnArrival, isAhead, Bool.and_eq_true, decide_eq_true_eq] at hown hahead
  rw [ownArrivals_eq] at hb
  cases hon : svc.clock.isOn a.time day with
  | false =>
    rw [filter_day_eq_nil hdays hday hae ha hon] at hb
    cases hb.mem
  | true =>
    obtain rfl : b = a :=
      hb.unique (ha.filter_and (q := fun y => svc.clock.isOn y.time day) hon)
    have haday := ServiceClock.isOn_iff.mp hon
    rw [leaders_eq haday hown.1.1.2,
      filter_day_eq_nil hdays haday (Instant.le_of_lt hahead.2) hx hxe] at hy
    cases hy.mem

variable (svc) in
/-- After every run, let a departure on a known trip be recorded and its service day be kept. If
its vehicle's latest arrival of that day at the stop and the latest arrival of that day from which
the headway may run are admitted, the departure's dwell model takes in the dwell time and the
headway. If there are no such two or they are not admitted, no model changes.

When both latest arrivals on all days are on the departure's day, they are these two. Where service
days are in order there are no such two unless the vehicle ahead came on the departure's day. -/
theorem headways_within_a_day (ops : List Operation) {e : Event} {day : Day} {r : Recorded R}
    (hdeparture : e.isDeparture = true) (hknown : (svc.trip? e.tripId).isSome = true)
    (hrecord : (svc.record now e (svc.memoryAfter ops)).result = .ok r)
    (hday : svc.clock.serviceDay e.time = .ok day)
    (hlive : (svc.record now e (svc.memoryAfter ops)).memory.stops.retention.isLive day = true) :
    let before := svc.memoryAfter ops
    let after := (svc.record now e before).memory
    let IsPair a x := IsLatest a (svc.ownArrivals ops ⟨e.stopId, day⟩ e) ∧
      IsLatest x (svc.leaders ops ⟨e.stopId, day⟩ a)
    (∀ a x, IsPair a x → svc.settings.filters.AdmitsDwell e a x →
      after.dwellModels = before.dwellModels.add svc.settings.dwell
        (.plain e.tripId e.stopPathIndex .dwell) (e.millis - a.millis) (a.millis - x.millis)) ∧
    ((∀ a x, IsPair a x → ¬ svc.settings.filters.AdmitsDwell e a x) →
      after.dwellModels = before.dwellModels) ∧
    ∀ a x, IsLatest a ((svc.filed ops).filter (isOwnArrival e)) → a.time ≤ e.time →
      IsLatest x ((svc.filed ops).filter (isAhead a)) →
      (svc.clock.sameDay a.time e.time = true → svc.clock.sameDay x.time e.time = true →
        IsPair a x) ∧
      (svc.clock.KeepsDaysInOrder → svc.clock.sameDay x.time e.time = false →
        ∀ b y, ¬ IsPair b y) := by
  intro before after IsPair
  obtain ⟨lesson, hlearned, hnone, hpaired⟩ :=
    lesson_of_record hdeparture hknown hrecord hday hlive
  refine ⟨fun a x hpair hadmits => ?_, fun hnot => ?_, fun a x ha hae hx => ⟨?_, ?_⟩⟩
  · rw [hlearned, (hpaired a hpair.1).2 x hpair.2, judge_eq_sample_iff.mpr ⟨hadmits, rfl, rfl⟩]
    rfl
  · rw [hlearned]
    apply DwellModels.learn_of_not_sample
    intro dwellMs headwayMs hsample
    rcases IsLatest.eq_nil_or_exists (svc.ownArrivals ops ⟨e.stopId, day⟩ e) with hown | ⟨a, ha⟩
    · rw [hnone hown] at hsample
      cases hsample
    obtain ⟨halone, hjudged⟩ := hpaired a ha
    rcases IsLatest.eq_nil_or_exists (svc.leaders ops ⟨e.stopId, day⟩ a) with hnobody | ⟨x, hx⟩
    · rw [halone hnobody] at hsample
      cases hsample
    · rw [hjudged x hx] at hsample
      exact hnot a x ⟨ha, hx⟩ (judge_eq_sample_iff.mp hsample).1
  · exact isLatest_pair_of_day hday ha hx
  · exact fun hdays hother b y hpair =>
      not_isLatest_pair_of_other_day hdays hday ha hae hx hother hpair.1 hpair.2

/-! ### Within a day, and over midnight -/

/-- Shortly after midnight. -/
def afterMidnight : Instant := (Instant.of? 86610 0).get rfl

/-- Two minutes before midnight a vehicle comes to the stop. -/
def arrivalBeforeMidnight : Event :=
  atSecondStop "2" "U" .arrival ((Instant.of? 86280 0).get rfl)

/-- Another vehicle comes five minutes later. -/
def arrivalAfterMidnight : Event :=
  atSecondStop "1" "T" .arrival ((Instant.of? 86580 0).get rfl)

/-- It leaves after half a minute. -/
def departureAfterMidnight : Event :=
  atSecondStop "1" "T" .departure afterMidnight

/-- On all days these are the two arrivals that the departure would be judged by. -/
theorem latest_over_midnight :
    let filed := filtered.filed
      (recording afterMidnight [arrivalBeforeMidnight, arrivalAfterMidnight])
    IsLatest arrivalAfterMidnight (filed.filter (isOwnArrival departureAfterMidnight)) ∧
      IsLatest arrivalBeforeMidnight (filed.filter (isAhead arrivalAfterMidnight)) := by
  intro filed
  have hown : filed.filter (isOwnArrival departureAfterMidnight) = [arrivalAfterMidnight] := by
    decide +kernel
  have hahead : filed.filter (isAhead arrivalAfterMidnight) = [arrivalBeforeMidnight] := by
    decide +kernel
  rw [hown, hahead]
  exact ⟨.singleton _, .singleton _⟩

theorem headways_within_a_day_filtered :
    let before := filtered.memoryAfter (recording recordsAt [arrivalAhead, arrivalBehind])
    let after := (filtered.record recordsAt departureBehind before).memory
    let overnight := filtered.memoryAfter
      (recording afterMidnight [arrivalBeforeMidnight, arrivalAfterMidnight])
    (filtered.clock.sameDay arrivalAhead.time departureBehind.time = true ∧
      filtered.settings.filters.AdmitsDwell departureBehind arrivalBehind arrivalAhead ∧
      after.dwellModels = before.dwellModels.add filtered.settings.dwell (.plain "T" 1 .dwell)
        30000 300000) ∧
    filtered.clock.KeepsDaysInOrder ∧
      filtered.clock.sameDay arrivalBeforeMidnight.time departureAfterMidnight.time = false ∧
      (filtered.record afterMidnight departureAfterMidnight overnight).memory.dwellModels =
        overnight.dwellModels := by
  intro before after overnight
  constructor
  · have ha : IsLatest arrivalBehind ((filtered.filed (recording recordsAt
        [arrivalAhead, arrivalBehind])).filter (isOwnArrival departureBehind)) :=
      IsLatest.singleton arrivalBehind
    have hx : IsLatest arrivalAhead ((filtered.filed (recording recordsAt
        [arrivalAhead, arrivalBehind])).filter (isAhead arrivalBehind)) :=
      IsLatest.singleton arrivalAhead
    obtain ⟨r, hrecord⟩ : ∃ r, (filtered.record recordsAt departureBehind before).result = .ok r :=
      ⟨_, rfl⟩
    have hday : filtered.clock.serviceDay departureBehind.time = .ok recordsAt.day := rfl
    obtain ⟨hsample, -, hlatest⟩ := headways_within_a_day filtered
      (recording recordsAt [arrivalAhead, arrivalBehind]) rfl rfl hrecord hday rfl
    obtain ⟨hpair, -⟩ := hlatest arrivalBehind arrivalAhead ha (by decide) hx
    exact ⟨rfl, departureBehind_admitted,
      hsample arrivalBehind arrivalAhead (hpair rfl rfl) departureBehind_admitted⟩
  · obtain ⟨hown, hahead⟩ := latest_over_midnight
    obtain ⟨r, hrecord⟩ : ∃ r,
        (filtered.record afterMidnight departureAfterMidnight overnight).result = .ok r := ⟨_, rfl⟩
    have hday : filtered.clock.serviceDay departureAfterMidnight.time = .ok afterMidnight.day := rfl
    have hother : filtered.clock.sameDay arrivalBeforeMidnight.time departureAfterMidnight.time =
        false := rfl
    obtain ⟨-, hunchanged, hlatest⟩ := headways_within_a_day filtered
      (recording afterMidnight [arrivalBeforeMidnight, arrivalAfterMidnight]) rfl rfl hrecord hday
      rfl
    obtain ⟨-, hnone⟩ := hlatest arrivalAfterMidnight arrivalBeforeMidnight hown (by decide) hahead
    refine ⟨filtered_keepsDaysInOrder, hother, hunchanged fun a x hpair => ?_⟩
    exact absurd hpair (hnone filtered_keepsDaysInOrder hother a x)

/-- The vehicle ahead came on the day before, with an admitted headway that is shorter than the
longest one, and both days are kept. Still the departure teaches nothing. -/
theorem headway_lost_at_midnight :
    let ops := recording afterMidnight [arrivalBeforeMidnight, arrivalAfterMidnight]
    let before := filtered.memoryAfter ops
    let after := (filtered.record afterMidnight departureAfterMidnight before).memory
    filtered.Checked Zone.named? ∧
      (∃ r, (filtered.record afterMidnight departureAfterMidnight before).result = .ok r) ∧
      IsLatest arrivalAfterMidnight
        ((filtered.filed ops).filter (isOwnArrival departureAfterMidnight)) ∧
      arrivalAfterMidnight.time ≤ departureAfterMidnight.time ∧
      IsLatest arrivalBeforeMidnight ((filtered.filed ops).filter (isAhead arrivalAfterMidnight)) ∧
      arrivalAfterMidnight.millis - arrivalBeforeMidnight.millis <
        filtered.settings.filters.maxHeadway ∧
      filtered.settings.filters.AdmitsDwell departureAfterMidnight arrivalAfterMidnight
        arrivalBeforeMidnight ∧
      (filtered.clock.serviceDay arrivalBeforeMidnight.time =
          .ok arrivalBeforeMidnight.time.day ∧
        after.stops.retention.isLive arrivalBeforeMidnight.time.day = true) ∧
      (filtered.clock.serviceDay departureAfterMidnight.time =
          .ok departureAfterMidnight.time.day ∧
        after.stops.retention.isLive departureAfterMidnight.time.day = true) ∧
      after.dwellModels.entries = [] := by
  intro ops before after
  obtain ⟨hown, hahead⟩ := latest_over_midnight
  exact ⟨filtered_checked, ⟨_, rfl⟩, hown, by decide, hahead, by decide, ⟨rfl, rfl, rfl⟩,
    ⟨rfl, rfl⟩, ⟨rfl, rfl⟩, rfl⟩

end Service

end Headway
