import Headway.Proofs.Observation.Partner
import Headway.Proofs.Service.Present
import Headway.Proofs.ServiceDays

/-!
# What is on file after a run

The events of a run that were not refused are on file (`Service.filed`). A list in the stop history
has those of one stop and one service day, newest first (`Service.newestFirst_of_stops`), and the
list of a run of a trip with a fixed schedule has those of the trip, of one day and of some days
after it (`Service.tripEvents_of_schedule`).

So a list shows a part of what is on file, cut out by service days. Where the clock keeps service
days in order, what happened on another day than a given event, and not after it, happened before
all events of its day (`Service.lt_of_other_day`). In general the latest event of a day need not be
the latest of all that are not after it.
-/

namespace Headway

namespace ServiceClock

variable {clock : ServiceClock} {t u : Instant} {day : Day}

theorem isOn_iff : clock.isOn t day = true ↔ clock.serviceDay t = .ok day := by
  unfold isOn
  cases clock.serviceDay t with
  | ok d => simp
  | error cause => simp

theorem sameDay_eq_isOn (h : clock.serviceDay u = .ok day) :
    clock.sameDay t u = clock.isOn t day := by
  unfold sameDay isOn
  rw [h]
  cases clock.serviceDay t with
  | ok d => rfl
  | error cause => rfl

end ServiceClock

/-- An event happened at a stop on a service day. -/
def Event.isAt (clock : ServiceClock) (k : StopKey) (e : Event) : Bool :=
  e.stopId = k.stopId && clock.isOn e.time k.serviceDay

namespace Service

variable {R : Type} (svc : Service R)

/-! ## Events on file -/

/-- The events of a run that were not refused, in the order in which they were recorded. -/
def filed (ops : List Operation) : List Event :=
  ops.filterMap fun op => (svc.accepted? op).map Accepted.event

/-- Those of one stop and one service day. -/
def filedAt (ops : List Operation) (k : StopKey) : List Event :=
  (svc.filed ops).filter (Event.isAt svc.clock k)

variable {svc} {ops : List Operation} {now : Instant} {e : Event} {l : Instant}

theorem accepted?_record (hfar : svc.isTooFarAhead now e = false)
    (hlocal : svc.clock.toLocal e.time = .ok l) :
    svc.accepted? (.record now e) = some ⟨now, e, l⟩ := by
  rw [accepted?, hfar, hlocal]
  rfl

theorem eq_record_of_accepted? {op : Operation} {a : Accepted} (h : svc.accepted? op = some a) :
    op = .record a.now a.event ∧ svc.clock.toLocal a.event.time = .ok a.localTime := by
  cases op with
  | record now e =>
    simp only [accepted?] at h
    split at h
    · cases h
    · cases hlocal : svc.clock.toLocal e.time with
      | ok l =>
        rw [hlocal] at h
        obtain rfl := Option.some.inj h
        exact ⟨rfl, hlocal⟩
      | error cause =>
        rw [hlocal] at h
        cases h
  | _ => cases h

theorem filed_append (ops more : List Operation) :
    svc.filed (ops ++ more) = svc.filed ops ++ svc.filed more := List.filterMap_append

theorem filed_record (hfar : svc.isTooFarAhead now e = false)
    (hlocal : svc.clock.toLocal e.time = .ok l) (ops : List Operation) :
    svc.filed (ops ++ [.record now e]) = svc.filed ops ++ [e] := by
  rw [filed_append]
  simp [filed, accepted?_record hfar hlocal]

/-- Of some events that leave it out, those on file are the same after one more record. -/
theorem filter_filed_record_of_not {p : Event → Bool} (hfar : svc.isTooFarAhead now e = false)
    (hlocal : svc.clock.toLocal e.time = .ok l) (hp : p e = false) (ops : List Operation) :
    (svc.filed (ops ++ [.record now e])).filter p = (svc.filed ops).filter p := by
  rw [filed_record hfar hlocal, List.filter_append, List.filter_singleton, hp]
  exact List.append_nil _

theorem exists_serviceDay_of_filed (h : e ∈ svc.filed ops) :
    ∃ day, svc.clock.serviceDay e.time = .ok day := by
  obtain ⟨op, -, hop⟩ := List.mem_filterMap.mp h
  obtain ⟨a, ha, rfl⟩ := Option.map_eq_some_iff.mp hop
  exact ⟨_, ServiceClock.serviceDay_of_toLocal (eq_record_of_accepted? ha).2⟩

/-! ## Stop histories -/

theorem under_filedAtStops (op : Operation) (k : StopKey) :
    Filing.under (svc.filedAtStops op) k = svc.filedAt [op] k := by
  unfold filedAtStops filedAt filed
  cases ha : svc.accepted? op with
  | none => simp [ha, Filing.under]
  | some a =>
    have hday := ServiceClock.serviceDay_of_toLocal (eq_record_of_accepted? ha).2
    have hkey : (⟨a.event.stopId, a.localTime.day⟩ : StopKey) = k ↔
        Event.isAt svc.clock k a.event = true := by
      obtain ⟨stopId, serviceDay⟩ := k
      simp only [Event.isAt, Bool.and_eq_true, decide_eq_true_eq, StopKey.mk.injEq,
        ServiceClock.isOn_iff, hday, Except.ok.injEq]
    simp only [StopHistory.filingsOf, Filing.under_cons, hkey, Filing.under_nil]
    by_cases hat : Event.isAt svc.clock k a.event = true
    · simp [ha, hat]
    · simp [ha, hat]

theorem under_stopFilings (ops : List Operation) (k : StopKey) :
    Filing.under (svc.stopFilings ops) k = svc.filedAt ops k := by
  induction ops with
  | nil => rfl
  | cons op rest ih =>
    rw [stopFilings, List.flatMap_cons, Filing.under_append, under_filedAtStops, ← stopFilings, ih,
      filedAt, filedAt, ← List.filter_append, ← filed_append]
    rfl

theorem filter_filedAt (ops : List Operation) (k : StopKey) (p : Event → Bool) :
    (svc.filedAt ops k).filter p = (svc.filed ops).filter fun e =>
      (e.stopId = k.stopId && p e) && svc.clock.isOn e.time k.serviceDay := by
  rw [filedAt, List.filter_filter]
  apply List.filter_congr
  intro e _
  rw [Event.isAt, Bool.and_comm, Bool.and_right_comm]

section
variable [Scalar R]

/-- A list that can be read in the stop history has all that is on file of its stop and day. -/
theorem newestFirst_of_stops {k : StopKey} {events : List Event}
    (h : EventLog.get? (svc.memoryAfter ops).stops k = some events) :
    IsNewestFirst events (svc.filedAt ops k) := by
  obtain ⟨-, -, hsorted⟩ := ((svc.tracks_stops ops).shows.get?_eq_some k events).mp h
  rwa [under_stopFilings] at hsorted

/-- While its day is kept, a list with something on file can be read. -/
theorem exists_stops {k : StopKey}
    (hlive : (svc.memoryAfter ops).stops.retention.isLive k.serviceDay = true)
    (he : e ∈ svc.filedAt ops k) :
    ∃ events, EventLog.get? (svc.memoryAfter ops).stops k = some events := by
  have hsome := ((svc.tracks_stops ops).isSome k hlive).mpr (by
    rw [under_stopFilings]
    exact List.ne_nil_of_mem he)
  exact Option.isSome_iff_exists.mp hsome

end

/-! ## Runs with a fixed schedule -/

variable (svc) in
/-- A run of a trip has the events of the trip, on the run's day or on one of the days after it that
are populated backward. -/
def belongsTo (k : TripKey) (e : Event) : Bool :=
  e.tripId = k.tripId &&
    TripHistory.populates svc.clock (max svc.settings.history.daysToPopulate 1) e.time k.serviceDay

theorem filter_filed_record (k : TripKey) (now : Instant) (e : Event) :
    (svc.filed [.record now e]).filter (svc.belongsTo k) =
      if svc.isTooFarAhead now e = false ∧ svc.belongsTo k e = true then [e] else [] := by
  simp only [filed, accepted?, List.filterMap_cons, List.filterMap_nil]
  cases svc.isTooFarAhead now e with
  | true => rfl
  | false =>
    cases hlocal : svc.clock.toLocal e.time with
    | error cause =>
      have hday : svc.clock.serviceDay e.time = .error cause := by
        rw [ServiceClock.serviceDay, hlocal]
        rfl
      simp [belongsTo, TripHistory.populates, hday]
    | ok l => simp [List.filter_cons]

section
variable {k : TripKey} {trip : Trip} (htrip : svc.trip? k.tripId = some trip)
  (hschedule : trip.byFrequency = false) (hstart : k.start = trip.start)
include htrip hschedule hstart

theorem goesUnder_of_schedule {w : TripHistory.Write}
    (hw : svc.trip? w.event.tripId = some w.trip) :
    w.goesUnder svc.clock (max svc.settings.history.daysToPopulate 1) k =
      svc.belongsTo k w.event := by
  unfold TripHistory.Write.goesUnder belongsTo
  by_cases hrun : w.event.tripId = k.tripId
  · rw [hrun, htrip] at hw
    rw [← Option.some.inj hw]
    simp [TripHistory.startsAt, TripHistory.runStart, hschedule, hstart]
  · simp [hrun]

theorem tripEvents_record (now : Instant) (e : Event) :
    svc.tripEvents [.record now e] k =
      if svc.isTooFarAhead now e = false ∧ svc.belongsTo k e = true then [e] else [] := by
  rw [tripEvents, List.flatMap_singleton, tripCalls]
  cases hknown : svc.trip? e.tripId with
  | none =>
    have hother : e.tripId ≠ k.tripId := by
      intro hrun
      rw [hrun, htrip] at hknown
      cases hknown
    simp [StoreCall.writes, belongsTo, hother]
  | some known =>
    have hgoes := goesUnder_of_schedule htrip hschedule hstart (w := ⟨now.day, known, e⟩) hknown
    cases svc.isTooFarAhead now e with
    | true => simp [StoreCall.writes]
    | false => simp [StoreCall.writes, List.filter_cons, hgoes, apply_ite]

/-- Under a run of a trip with a fixed schedule goes all that belongs to it. -/
theorem tripEvents_of_schedule (ops : List Operation) :
    svc.tripEvents ops k = (svc.filed ops).filter (svc.belongsTo k) := by
  induction ops with
  | nil => rfl
  | cons op rest ih =>
    have hop : svc.tripEvents [op] k = (svc.filed [op]).filter (svc.belongsTo k) := by
      cases op with
      | record now e => rw [tripEvents_record htrip hschedule hstart, filter_filed_record]
      | _ => rfl
    have hsplit : svc.tripEvents (op :: rest) k =
        svc.tripEvents [op] k ++ svc.tripEvents rest k := by
      simp [tripEvents, StoreCall.writes]
    rw [hsplit, hop, ih, ← List.filter_append, ← filed_append]
    rfl

end

/-! ## Days -/

theorem serviceDay_of_isLatest {x : Event} {day : Day} {p : Event → Bool}
    (h : IsLatest x ((svc.filed ops).filter fun e => p e && svc.clock.isOn e.time day)) :
    svc.clock.serviceDay x.time = .ok day :=
  ServiceClock.isOn_iff.mp (Bool.and_eq_true_iff.mp (List.mem_filter.mp h.mem).2).2

section
variable (h : svc.clock.KeepsDaysInOrder) {x y z : Event} {day : Day} {p : Event → Bool}
include h

/-- What happened on another day than an event, and not after it, was before all of its day. -/
theorem lt_of_other_day (hx : x ∈ svc.filed ops) (hother : svc.clock.isOn x.time day = false)
    (hy : svc.clock.serviceDay y.time = .ok day) (hxy : x.time ≤ y.time)
    (hz : svc.clock.serviceDay z.time = .ok day) : x.time < z.time := by
  obtain ⟨own, hown⟩ := exists_serviceDay_of_filed hx
  rw [← Instant.not_le]
  intro hzx
  have hle : own ≤ day := h hxy hown hy
  have hge : day ≤ own := h hzx hz hown
  have hsame : own = day := Day.ext (Int.le_antisymm hle hge)
  rw [ServiceClock.isOn_iff.mpr (hown.trans (congrArg Except.ok hsame))] at hother
  cases hother

/-- Of events that are not after one of a day, the latest on that day is the latest of all. -/
theorem isLatest_of_day (hy : svc.clock.serviceDay y.time = .ok day)
    (hle : ∀ z ∈ svc.filed ops, p z = true → z.time ≤ y.time)
    (hx : IsLatest x ((svc.filed ops).filter fun e => p e && svc.clock.isOn e.time day)) :
    IsLatest x ((svc.filed ops).filter p) := by
  refine hx.of_filter_and fun z hz hp hother => ?_
  exact lt_of_other_day h hz hother hy (hle z hz hp) (serviceDay_of_isLatest hx)

/-- When the latest of them is on another day, none is on that day. -/
theorem filter_day_eq_nil (hy : svc.clock.serviceDay y.time = .ok day) (hxy : x.time ≤ y.time)
    (hx : IsLatest x ((svc.filed ops).filter p)) (hother : svc.clock.isOn x.time day = false) :
    ((svc.filed ops).filter fun e => p e && svc.clock.isOn e.time day) = [] := by
  rw [List.filter_eq_nil_iff]
  intro z hz hp
  obtain ⟨hp, hday⟩ := Bool.and_eq_true_iff.mp hp
  have hlt := lt_of_other_day h (List.mem_filter.mp hx.mem).1 hother hy hxy
    (ServiceClock.isOn_iff.mp hday)
  exact Instant.not_le.mpr hlt (hx.le (List.mem_filter.mpr ⟨hz, hp⟩))

end

end Service

end Headway
