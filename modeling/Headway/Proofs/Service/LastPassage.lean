import Headway.Proofs.Service.Filed
import Headway.Proofs.Service.Repeating

/-!
# The last passage has no look-ahead

The passage of the last vehicle is found by two searches, one in the list of the stop and one in the
list of the stop before it, both for the report's service day. What is recorded later, but on that
day, is no candidate for either search, and it does not age the day out. So it changes nothing
(`Service.search_run`), whether it stands before what is found or is tied with it in the lists.

`Service.last_passage` says so for whole runs, and that what is found is the latest arrival of
another vehicle on the route at the stop and the latest departure of that vehicle and trip at the
stop before, among all that is on file of that day. Where the clock is set back over midnight, a
later departure can be on another day (`Service.later_departure_on_other_day`); where it keeps
service days in order, there is none.
-/

namespace Headway

/-! ## Attempts that end with a value -/

namespace Attempt

variable {R α β γ : Type}

theorem ofOption_bind (x : Option α) (f : α → Option β) (g : β → Attempt R γ) :
    (do let a ← ofOption x; let b ← ofOption (f a); g b) = ofOption (x.bind f) >>= g := by
  cases x with
  | none => rfl
  | some a => rfl

theorem bind_eq_some_iff {x : Attempt R α} {f : α → Attempt R β} {b : β} :
    (x >>= f).outcome = .ok (some b) ↔
      ∃ a, x.outcome = .ok (some a) ∧ (f a).outcome = .ok (some b) := by
  refine ⟨exists_of_bind, ?_⟩
  rintro ⟨a, hx, hf⟩
  show (x.andThen f).outcome = _
  rw [andThen, hx]
  exact hf

theorem pure_eq_some_iff {a b : α} : (pure a : Attempt R α).outcome = .ok (some b) ↔ a = b := by
  show Except.ok (some a) = .ok (some b) ↔ a = b
  simp

theorem ofOption_eq_some_iff {x : Option α} {a : α} :
    (ofOption x : Attempt R α).outcome = .ok (some a) ↔ x = some a := by
  simp [ofOption]

theorem ofLocal_eq_some_iff {x : Except NoLocalTime α} {a : α} :
    (ofLocal x : Attempt R α).outcome = .ok (some a) ↔ x = .ok a := by
  cases x with
  | ok b =>
    show Except.ok (some b) = .ok (some a) ↔ _
    simp
  | error cause =>
    show Except.error (Failure.noLocalTime cause) = .ok (some a) ↔ _
    simp

theorem guard_eq_some_iff {condition : Bool} {u : Unit} :
    (guard condition : Attempt R Unit).outcome = .ok (some u) ↔ condition = true := by
  cases condition with
  | true => exact ⟨fun _ => rfl, fun _ => rfl⟩
  | false => simp [guard, noData]

end Attempt

/-! ## What is not searched for -/

theorem find?_insertNewestFirst_of_not {e : Event} {p : Event → Bool} (h : p e = false)
    (events : List Event) : (insertNewestFirst e events).find? p = events.find? p := by
  induction events with
  | nil => simp [insertNewestFirst, h]
  | cons f rest ih =>
    unfold insertNewestFirst
    split
    · rw [List.find?_cons, List.find?_cons, ih]
    · rw [List.find?_cons, h]

/-- A day is not aged out by itself. -/
theorem Retention.isLive_observe_self (r : Retention) (today day : Day) :
    (r.observe today day).isLive day = r.isLive day := by
  rw [Bool.eq_iff_iff]
  refine ⟨Retention.isLive_of_isLive_observe, fun h => ?_⟩
  by_cases ha : admits today day = true
  · rw [isLive_iff, latest_observe r today day ha, days_observe]
    rw [isLive_iff] at h
    rintro l ⟨⟩
    cases hlatest : r.latest with
    | none => simp
    | some l =>
      have := h l hlatest
      simp only [Day.number_latest]
      omega
  · rwa [observe_of_not_admits r (by simpa using ha)]

/-- The first event in the list of a stop that is searched for. -/
def StopHistory.search (stops : StopHistory) (k : StopKey) (p : Event → Bool) : Option Event :=
  (EventLog.get? stops k).bind (List.find? p)

theorem StopHistory.search_file {stops : StopHistory} {k : StopKey} {p : Event → Bool} {e : Event}
    (h : p e = false) (today : Day) :
    (stops.file today e k.serviceDay).search k p = stops.search k p := by
  have hday : (stops.retention.observe today k.serviceDay).isLive k.serviceDay =
      stops.retention.isLive k.serviceDay := Retention.isLive_observe_self _ _ _
  unfold search file
  rw [EventLog.get?_push]
  simp only [OnDay.day, hday]
  cases hlive : stops.retention.isLive k.serviceDay with
  | false =>
    rw [EventLog.get?_eq_none_of_not_live hlive]
    rfl
  | true =>
    rw [if_pos rfl]
    split
    · rw [Option.bind_some, find?_insertNewestFirst_of_not h]
      cases EventLog.get? stops k with
      | none => rfl
      | some events => rfl
    · rfl

namespace Service

variable {R : Type} (svc : Service R)

/-- What is recorded in a run is dated after a report, but on its service day. -/
def RecordsLater (t : Instant) (ops : List Operation) : Prop :=
  ∀ now e, .record now e ∈ ops → t < e.time ∧ svc.clock.sameDay t e.time = true

variable [Scalar R] {svc} {t : Instant} {day : Day} {p : Event → Bool}

/-- A search on the report's day for something that is not after the report. -/
theorem search_perform (hday : svc.clock.serviceDay t = .ok day)
    (hp : ∀ e, p e = true → e.time ≤ t) {op : Operation} (hop : svc.RecordsLater t [op])
    (m : Memory R) (stopId : String) :
    (svc.perform m op).memory.stops.search ⟨stopId, day⟩ p = m.stops.search ⟨stopId, day⟩ p := by
  rcases svc.memory_perform_cases m op with
    ⟨-, ⟨errors, holds, hmemory⟩ | hmemory⟩ | ⟨a, ha, hmemory⟩
  · rw [hmemory]
  · rw [hmemory, StopHistory.search, StopHistory.search]
    exact congrArg (Option.bind · _) (EventLog.get?_evict m.stops _)
  · obtain ⟨rfl, hlocal⟩ := eq_record_of_accepted? ha
    obtain ⟨hlater, hsame⟩ := hop a.now a.event (List.mem_singleton_self _)
    have hnot : p a.event = false := by
      cases hpe : p a.event with
      | false => rfl
      | true => exact absurd (hp _ hpe) (Instant.not_le.mpr hlater)
    have hown : a.localTime.day = day := by
      rw [ServiceClock.sameDay_eq_isOn (ServiceClock.serviceDay_of_toLocal hlocal),
        ServiceClock.isOn_iff, hday] at hsame
      exact (Except.ok.inj hsame).symm
    rw [hmemory, takeIn, hown]
    exact StopHistory.search_file (k := ⟨stopId, day⟩) hnot a.now.day

/-- So no run of such records changes what is found. -/
theorem search_run (hday : svc.clock.serviceDay t = .ok day)
    (hp : ∀ e, p e = true → e.time ≤ t) {later : List Operation} (hlater : svc.RecordsLater t later)
    (ops : List Operation) (stopId : String) :
    (svc.memoryAfter (ops ++ later)).stops.search ⟨stopId, day⟩ p =
      (svc.memoryAfter ops).stops.search ⟨stopId, day⟩ p := by
  unfold memoryAfter
  rw [List.foldl_append]
  generalize ops.foldl _ _ = m
  induction later generalizing m with
  | nil => rfl
  | cons op rest ih =>
    rw [List.foldl_cons, ih fun now e he => hlater now e (List.mem_cons_of_mem op he)]
    apply search_perform hday hp
    intro now e he
    rw [← List.mem_singleton.mp he] at hlater
    exact hlater now e List.mem_cons_self

/-! ## The last passage -/

omit [Scalar R] in
/-- The last passage by its two searches. -/
theorem lastPassage_eq (m : Memory R) (ctx : Context R) :
    svc.lastPassage m ctx = (do
      Attempt.guard (ctx.stopPathIndex ≠ 0)
      let stop ← Attempt.ofOption (ctx.trip.stopId? ctx.stopPathIndex)
      let stopBefore ← Attempt.ofOption (ctx.trip.stopId? (ctx.stopPathIndex - 1))
      let day ← Attempt.ofLocal (svc.clock.serviceDay ctx.report.time)
      let arrival ← Attempt.ofOption (m.stops.search ⟨stop, day⟩ ctx.isLastArrival)
      let departure ← Attempt.ofOption (m.stops.search ⟨stopBefore, day⟩ (isDepartureOf arrival))
      svc.requireAdmissible ⟨departure, arrival⟩
      Attempt.guard (0 < (Passage.mk departure arrival).millis)
      return ⟨departure, arrival⟩) := by
  unfold lastPassage StopHistory.search
  simp only [Attempt.ofOption_bind]

theorem search_eq_some_iff {ops : List Operation} {k : StopKey} {x : Event} :
    (svc.memoryAfter ops).stops.search k p = some x ↔
      (svc.memoryAfter ops).stops.retention.isLive k.serviceDay = true ∧
        IsLatest x ((svc.filedAt ops k).filter p) := by
  unfold StopHistory.search
  rw [Option.bind_eq_some_iff]
  constructor
  · rintro ⟨events, hget, hfind⟩
    exact ⟨EventLog.isLive_of_get? hget, (newestFirst_of_stops hget).find?_eq_some_iff.mp hfind⟩
  · rintro ⟨hlive, hx⟩
    obtain ⟨events, hget⟩ := exists_stops hlive (List.mem_filter.mp hx.mem).1
    exact ⟨events, hget, (newestFirst_of_stops hget).find?_eq_some_iff.mpr hx⟩

omit [Scalar R] in
theorem le_of_isLastArrival {ctx : Context R} {e : Event} (h : ctx.isLastArrival e = true) :
    e.time ≤ ctx.report.time :=
  of_decide_eq_true (Bool.and_eq_true_iff.mp h).2

theorem le_of_isDepartureOf {arrival e : Event} (h : isDepartureOf arrival e = true) :
    e.time ≤ arrival.time :=
  of_decide_eq_true (Bool.and_eq_true_iff.mp h).2

/-- What is recorded later does not change the last passage. -/
theorem lastPassage_run {ctx : Context R} {later : List Operation}
    (hlater : svc.RecordsLater ctx.report.time later) (ops : List Operation) :
    svc.lastPassage (svc.memoryAfter (ops ++ later)) ctx =
      svc.lastPassage (svc.memoryAfter ops) ctx := by
  rw [lastPassage_eq, lastPassage_eq]
  refine Attempt.bind_congr fun _ _ => Attempt.bind_congr fun stop _ =>
    Attempt.bind_congr fun stopBefore _ => Attempt.bind_congr fun day hday => ?_
  rw [Attempt.ofLocal_eq_some_iff] at hday
  rw [search_run hday (fun e => le_of_isLastArrival) hlater]
  refine Attempt.bind_congr fun arrival harrival => ?_
  rw [Attempt.ofOption_eq_some_iff] at harrival
  obtain ⟨arrivals, -, hfind⟩ := Option.bind_eq_some_iff.mp harrival
  have harrival := le_of_isLastArrival (List.find?_some hfind)
  rw [search_run hday (fun e he => Instant.le_trans (le_of_isDepartureOf he) harrival) hlater]

omit [Scalar R] in
theorem requireAdmissible_eq_some_iff {q : Passage} {u : Unit} :
    (svc.requireAdmissible q).outcome = .ok (some u) ↔
      svc.settings.filters.rejection? .travel q.departure q.arrival = none := by
  unfold requireAdmissible
  cases svc.settings.filters.rejection? .travel q.departure q.arrival with
  | none => exact ⟨fun _ => rfl, fun _ => rfl⟩
  | some reason => simp [Attempt.bind_eq_some_iff, Attempt.noData]

omit [Scalar R] in
theorem lastPassage_eq_some_iff {m : Memory R} {ctx : Context R} {q : Passage} :
    (svc.lastPassage m ctx).outcome = .ok (some q) ↔
      ctx.stopPathIndex ≠ 0 ∧
      ∃ stop, ctx.trip.stopId? ctx.stopPathIndex = some stop ∧
      ∃ stopBefore, ctx.trip.stopId? (ctx.stopPathIndex - 1) = some stopBefore ∧
      ∃ day, svc.clock.serviceDay ctx.report.time = .ok day ∧
        m.stops.search ⟨stop, day⟩ ctx.isLastArrival = some q.arrival ∧
        m.stops.search ⟨stopBefore, day⟩ (isDepartureOf q.arrival) = some q.departure ∧
        svc.settings.filters.rejection? .travel q.departure q.arrival = none ∧ 0 < q.millis := by
  obtain ⟨departure, arrival⟩ := q
  simp only [lastPassage_eq, Attempt.bind_eq_some_iff, Attempt.guard_eq_some_iff,
    Attempt.ofOption_eq_some_iff, Attempt.ofLocal_eq_some_iff, requireAdmissible_eq_some_iff,
    Attempt.pure_eq_some_iff, Passage.mk.injEq, decide_eq_true_eq]
  constructor
  · rintro ⟨-, hindex, stop, hstop, stopBefore, hbefore, day, hday, x, hx, y, hy, -, hadmitted, -,
      hpositive, rfl, rfl⟩
    exact ⟨hindex, stop, hstop, stopBefore, hbefore, day, hday, hx, hy, hadmitted, hpositive⟩
  · rintro ⟨hindex, stop, hstop, stopBefore, hbefore, day, hday, hx, hy, hadmitted, hpositive⟩
    exact ⟨(), hindex, stop, hstop, stopBefore, hbefore, day, hday, _, hx, _, hy, (), hadmitted, (),
      hpositive, rfl, rfl⟩

variable (svc) in
/-- A passage is the last one before a report: along the stop path, its arrival is the latest of the
report's service day by another vehicle on the route, and its departure is the latest of that day by
the same vehicle on the same trip at the stop before that is not after the arrival. The day is still
kept, and the time is positive and admitted. -/
structure IsLastPassage (ops : List Operation) (ctx : Context R) (stop stopBefore : String)
    (day : Day) (q : Passage) : Prop where
  index : ctx.stopPathIndex ≠ 0
  atEnd : ctx.trip.stopId? ctx.stopPathIndex = some stop
  atStart : ctx.trip.stopId? (ctx.stopPathIndex - 1) = some stopBefore
  today : svc.clock.serviceDay ctx.report.time = .ok day
  live : (svc.memoryAfter ops).stops.retention.isLive day = true
  arrival : IsLatest q.arrival ((svc.filedAt ops ⟨stop, day⟩).filter ctx.isLastArrival)
  departure : IsLatest q.departure
    ((svc.filedAt ops ⟨stopBefore, day⟩).filter (isDepartureOf q.arrival))
  adherence : svc.settings.filters.excess? q.arrival = none ∧
    svc.settings.filters.excess? q.departure = none
  bounds : svc.settings.filters.minTravel < q.millis ∧ q.millis < svc.settings.filters.maxTravel
  positive : 0 < q.millis

theorem lastPassage_memoryAfter_iff {ops : List Operation} {ctx : Context R} {q : Passage} :
    (svc.lastPassage (svc.memoryAfter ops) ctx).outcome = .ok (some q) ↔
      ∃ stop stopBefore day, svc.IsLastPassage ops ctx stop stopBefore day q := by
  rw [lastPassage_eq_some_iff]
  constructor
  · rintro ⟨hindex, stop, hstop, stopBefore, hbefore, day, htoday, hx, hy, hadmitted, hpositive⟩
    obtain ⟨hlive, harrival⟩ := search_eq_some_iff.mp hx
    obtain ⟨-, hdeparture⟩ := search_eq_some_iff.mp hy
    obtain ⟨hlater, hearlier, hbounds⟩ :=
      svc.settings.filters.rejection?_eq_none_iff.mp hadmitted
    exact ⟨stop, stopBefore, day, hindex, hstop, hbefore, htoday, hlive, harrival, hdeparture,
      ⟨hlater, hearlier⟩, hbounds, hpositive⟩
  · rintro ⟨stop, stopBefore, day, hq⟩
    exact ⟨hq.index, stop, hq.atEnd, stopBefore, hq.atStart, day, hq.today,
      search_eq_some_iff.mpr ⟨hq.live, hq.arrival⟩, search_eq_some_iff.mpr ⟨hq.live, hq.departure⟩,
      svc.settings.filters.rejection?_eq_none_iff.mpr
        ⟨hq.adherence.1, hq.adherence.2, hq.bounds⟩, hq.positive⟩

/-- Where service days are in order, the departure of the last passage is the latest on all days. -/
theorem IsLastPassage.departure_of_inOrder (hdays : svc.clock.KeepsDaysInOrder)
    {ops : List Operation} {ctx : Context R} {stop stopBefore : String} {q : Passage}
    (h : svc.IsLastPassage ops ctx stop stopBefore day q) :
    IsLatest q.departure
      ((svc.filed ops).filter fun e => e.stopId = stopBefore && isDepartureOf q.arrival e) := by
  have harrival := h.arrival
  have hdeparture := h.departure
  rw [filter_filedAt] at harrival hdeparture
  refine isLatest_of_day hdays (serviceDay_of_isLatest harrival) (fun z _ hz => ?_) hdeparture
  exact le_of_isDepartureOf (Bool.and_eq_true_iff.mp hz).2

variable (svc) in
/-- After every run, what is recorded later than a report but on its service day does not change
the last passage before the report. And what is found is the last passage of that day, of all that
is on file. Where service days are in order, no departure on another day comes between. -/
theorem last_passage (ops : List Operation) {later : List Operation} {ctx : Context R}
    (hlater : svc.RecordsLater ctx.report.time later) :
    svc.lastPassage (svc.memoryAfter (ops ++ later)) ctx =
        svc.lastPassage (svc.memoryAfter ops) ctx ∧
      (∀ q, (svc.lastPassage (svc.memoryAfter ops) ctx).outcome = .ok (some q) ↔
        ∃ stop stopBefore day, IsLastPassage svc ops ctx stop stopBefore day q) ∧
      (svc.clock.KeepsDaysInOrder → ∀ {stop stopBefore day q},
        IsLastPassage svc ops ctx stop stopBefore day q →
          IsLatest q.departure
            ((svc.filed ops).filter fun e => e.stopId = stopBefore && isDepartureOf q.arrival e)) :=
  ⟨lastPassage_run hlater ops, fun _ => lastPassage_memoryAfter_iff,
    fun hdays => IsLastPassage.departure_of_inOrder hdays⟩

/-! ### Another vehicle after the report -/

theorem filtered_checked : filtered.Checked Zone.named? := by
  refine ⟨?_, rfl⟩
  rw [Settings.check_eq_ok_iff]
  simp only [Settings.faults, filtered, shuttle, shuttle_fraction]
  decide

theorem filtered_keepsDaysInOrder : filtered.clock.KeepsDaysInOrder :=
  ServiceClock.keepsDaysInOrder_of_steady rfl

/-- A vehicle passes before the report. -/
def passedBefore : List Operation :=
  passing "U" ((Instant.of? 201660 0).get rfl) ((Instant.of? 201744 0).get rfl)

/-- It passes again after the report. -/
def passesAgain : List Operation :=
  passing "T" ((Instant.of? 203500 0).get rfl) ((Instant.of? 203560 0).get rfl)

theorem last_passage_filtered :
    filtered.Checked Zone.named? ∧ filtered.clock.KeepsDaysInOrder ∧
      filtered.RecordsLater nextReport.time passesAgain ∧
      ∃ q, q.arrival.tripId = "U" ∧
        (filtered.lastPassage (filtered.memoryAfter (passedBefore ++ passesAgain))
          nextContext).outcome = .ok (some q) ∧
        ∃ stop stopBefore day,
          IsLastPassage filtered passedBefore nextContext stop stopBefore day q ∧
          IsLatest q.departure ((filtered.filed passedBefore).filter fun e =>
            e.stopId = stopBefore && isDepartureOf q.arrival e) := by
  have hlater : filtered.RecordsLater nextContext.report.time passesAgain := by
    intro now e he
    rcases List.mem_cons.mp he with he | he
    · cases he
      exact ⟨by decide, by decide⟩
    · cases List.mem_singleton.mp he
      exact ⟨by decide, by decide⟩
  obtain ⟨hsame, hfound, hlatest⟩ := last_passage filtered passedBefore hlater
  obtain ⟨q, htrip, hq⟩ : ∃ q, q.arrival.tripId = "U" ∧
      (filtered.lastPassage (filtered.memoryAfter passedBefore) nextContext).outcome =
        .ok (some q) := ⟨_, rfl, rfl⟩
  obtain ⟨stop, stopBefore, day, hpassage⟩ := (hfound q).mp hq
  exact ⟨filtered_checked, filtered_keepsDaysInOrder, hlater, q, htrip, by rw [hsame, hq], stop,
    stopBefore, day, hpassage, hlatest filtered_keepsDaysInOrder hpassage⟩

/-! ### A night that comes twice -/

/-- The two trips on Newfoundland. -/
noncomputable def newfoundland : Service ℝ :=
  { filtered with
    settings := { filtered.settings with timezone := "America/St_Johns" }
    clock := .of Zone.stJohns 2 10800 }

/-- Nineteen minutes after the clock was set back from a minute past midnight. -/
def nightReport : Report := ⟨"2", (Instant.of? 1289098200 0).get rfl⟩

/-- The stop path between the stops, that night. -/
noncomputable def nightContext : Context ℝ := ⟨regular "T", 1, nightReport, nextVehicle, none⟩

/-- What a vehicle does at a stop that night, at a second. -/
def atNight (stopId : String) (index : Nat) (kind : EventKind) (time : Instant) : Operation :=
  .record nightReport.time ⟨"1", "T", "S", stopId, index, time, kind, none, none⟩

/-- A vehicle leaves a minute before midnight and again half a minute after it. Then the clock is
set back, and the vehicle comes to the next stop when the date is that of the day before again. -/
def leavesTwice : List Operation :=
  [atNight "A" 0 .departure ((Instant.of? 1289096940 0).get rfl),
    atNight "A" 0 .departure ((Instant.of? 1289097030 0).get rfl),
    atNight "B" 1 .arrival ((Instant.of? 1289097600 0).get rfl)]

/-- The departure of the last passage is not the latest one before its arrival. -/
theorem later_departure_on_other_day :
    newfoundland.Checked Zone.named? ∧ ∃ q d,
      (newfoundland.lastPassage (newfoundland.memoryAfter leavesTwice) nightContext).outcome =
        .ok (some q) ∧
      d ∈ newfoundland.filed leavesTwice ∧ d.stopId = "A" ∧
      isDepartureOf q.arrival d = true ∧ q.departure.time < d.time := by
  refine ⟨⟨?_, rfl⟩, _, ⟨"1", "T", "S", "A", 0, (Instant.of? 1289097030 0).get rfl, .departure,
    none, none⟩, rfl, ?_, rfl, rfl, by decide⟩
  · rw [Settings.check_eq_ok_iff]
    simp only [Settings.faults, newfoundland, filtered, shuttle, shuttle_fraction]
    decide
  · decide +kernel

end Service

end Headway
