import Headway.Proofs.Observation.Partner
import Headway.Proofs.Service.AfterRun
import Headway.Proofs.Service.Repeating

/-!
# The days of a search

The filter looks for passages of the same run on the days before the report's. It looks at one day
after the other, each time into the list that the run has for that day, and what it finds stands in
the order of these days (`Service.searchDays_adds`).

The list of a day has the events of that day and, when events are filed under days before their own
as well, those of some days after it. So a passage was made on the day under which it was found or
on one of the days after it that are populated backward (`Service.previous_days`). Only where events
are filed under their own day alone, the passages were all made on different days before the
report's; otherwise one passage can be found on several days (`Service.counted_twice`).
-/

namespace Headway

/-! ## Passages along a stop path -/

/-- A passage along a stop path: the vehicle arrived at its end, and before that it left the end of
the stop path before, in the same run. -/
structure Passage.Along (p : Passage) (index : Nat) : Prop where
  arrives : p.arrival.kind = .arrival
  arrivalIndex : p.arrival.stopPathIndex = index
  departs : p.departure.kind = .departure
  departureIndex : p.departure.stopPathIndex + 1 = index
  vehicle : p.departure.vehicleId = p.arrival.vehicleId
  run : p.departure.frequencyStart = p.arrival.frequencyStart
  order : p.departure.time ≤ p.arrival.time

/-- Both ends of a passage stand in a list. -/
structure Passage.In (p : Passage) (history : List Event) : Prop where
  arrival : p.arrival ∈ history
  departure : p.departure ∈ history

theorem of_passageIn? {history : List Event} {index : Nat} {p : Passage}
    (h : passageIn? history index = some p) : p.Along index ∧ p.In history := by
  obtain ⟨arrival, harrival, h⟩ := Option.bind_eq_some_iff.mp h
  obtain ⟨departure, hdeparture, h⟩ := Option.bind_eq_some_iff.mp h
  obtain rfl := Option.some.inj h
  have harrives := List.find?_some harrival
  have hdeparts := List.find?_some hdeparture
  simp only [Event.arrivesAt, Event.arrivesAfter, Event.isArrival, Event.isDeparture,
    Bool.and_eq_true, decide_eq_true_eq] at harrives hdeparts
  obtain ⟨harrives, hindex⟩ := harrives
  obtain ⟨⟨⟨⟨⟨-, hdeparts⟩, hbefore⟩, hvehicle⟩, hrun⟩, horder⟩ := hdeparts
  exact ⟨⟨harrives, hindex, hdeparts, hbefore.trans hindex, hvehicle, hrun, horder⟩,
    List.mem_of_find?_eq_some harrival, List.mem_of_find?_eq_some hdeparture⟩

namespace Service

variable {R : Type} (svc : Service R)

/-- A passage is found when the search looks at a day: it stands in the run's list for that day, and
its time is admitted. -/
structure FoundOn (m : Memory R) (tripId : String) (start : Option Int) (index : Nat) (day : Day)
    (p : Passage) : Prop where
  along : p.Along index
  admitted : svc.settings.filters.rejection? .travel p.departure p.arrival = none
  listed : ∃ history, m.trips.log.get? ⟨tripId, day, start⟩ = some history ∧ p.In history

/-- What a search over a number of days before a day adds to the passages found so far: each was
found on another of these days, they stand in the order of the days, and they are no more than were
still wanted. -/
structure Adds (m : Memory R) (tripId : String) (start : Option Int) (index n : Nat) (day : Day)
    (found : List Passage) (added : List (Day × Passage)) : Prop where
  length : added.length + found.length ≤ max svc.settings.kalman.maxDays found.length
  days : (added.map Prod.fst).Pairwise (· < ·)
  least : ∀ x ∈ added, day.number - n ≤ x.1.number
  before : ∀ x ∈ added, x.1 < day
  foundOn : ∀ x ∈ added, svc.FoundOn m tripId start index x.1 x.2

variable {m : Memory R} {tripId : String} {start : Option Int} {index n : Nat} {day earlier : Day}
  {found : List Passage} {added : List (Day × Passage)}

namespace Adds

variable {svc}

theorem nothing : svc.Adds m tripId start index n day found [] where
  length := by simp
  days := .nil
  least := by simp
  before := by simp
  foundOn := by simp

/-- What is added from the day before on is added. -/
theorem of_earlier (hday : day.addDays? (-1) = some earlier)
    (h : svc.Adds m tripId start index n earlier found added) :
    svc.Adds m tripId start index (n + 1) day found added where
  length := h.length
  days := h.days
  least x hx := by
    have hnumber := Day.number_addDays?.mp hday
    have hleast := h.least x hx
    omega
  before x hx := by
    have hnumber := Day.number_addDays?.mp hday
    have hbefore : x.1.number < earlier.number := h.before x hx
    show x.1.number < day.number
    omega
  foundOn := h.foundOn

/-- So is a passage found on the day before, when more are still wanted. -/
theorem snoc (hday : day.addDays? (-1) = some earlier) {p : Passage}
    (hwanted : found.length < svc.settings.kalman.maxDays)
    (hp : svc.FoundOn m tripId start index earlier p)
    (h : svc.Adds m tripId start index n earlier (p :: found) added) :
    svc.Adds m tripId start index (n + 1) day found (added ++ [(earlier, p)]) := by
  have hnumber := Day.number_addDays?.mp hday
  have hfurther := h.of_earlier hday
  have hlast (P : Day × Passage → Prop) (hall : ∀ x ∈ added, P x) (h : P (earlier, p)) :
      ∀ x ∈ added ++ [(earlier, p)], P x :=
    List.forall_mem_append.mpr ⟨hall, List.forall_mem_singleton.mpr h⟩
  refine ⟨?_, ?_, hlast _ hfurther.least ?_, hlast _ hfurther.before ?_, hlast _ h.foundOn hp⟩
  · have hlength := h.length
    simp only [List.length_append, List.length_cons, List.length_nil] at hlength ⊢
    omega
  · rw [List.map_append, List.pairwise_append]
    refine ⟨h.days, List.pairwise_singleton _ _, ?_⟩
    intro d hd d' hd'
    obtain ⟨x, hx, rfl⟩ := List.mem_map.mp hd
    rw [List.mem_singleton.mp hd']
    exact h.before x hx
  · show day.number - _ ≤ earlier.number
    omega
  · show earlier.number < day.number
    omega

end Adds

variable (m tripId start index)

theorem searchDays_adds (n : Nat) (day : Day) (found : List Passage) :
    ∃ added, (svc.searchDays m tripId start index n day found).2 = added.map Prod.snd ++ found ∧
      svc.Adds m tripId start index n day found added := by
  induction n generalizing day found with
  | zero => exact ⟨[], rfl, .nothing⟩
  | succ n ih =>
    unfold searchDays
    split
    · exact ⟨[], rfl, .nothing⟩
    · rename_i hwanted
      cases hday : day.addDays? (-1) with
      | none => exact ⟨[], rfl, .nothing⟩
      | some earlier =>
        have hskip : ∃ added, (svc.searchDays m tripId start index n earlier found).2 =
              added.map Prod.snd ++ found ∧
            svc.Adds m tripId start index (n + 1) day found added := by
          obtain ⟨added, hresult, hadds⟩ := ih earlier found
          exact ⟨added, hresult, hadds.of_earlier hday⟩
        simp only
        cases hpassage : (m.trips.log.get? ⟨tripId, earlier, start⟩).bind (passageIn? · index) with
        | none => exact hskip
        | some p =>
          simp only
          cases hadmitted : svc.settings.filters.rejection? .travel p.departure p.arrival with
          | some reason => exact hskip
          | none =>
            obtain ⟨history, hget, hp⟩ := Option.bind_eq_some_iff.mp hpassage
            obtain ⟨halong, hin⟩ := of_passageIn? hp
            obtain ⟨added, hresult, hadds⟩ := ih earlier (p :: found)
            refine ⟨added ++ [(earlier, p)], ?_, hadds.snoc hday (Nat.not_le.mp hwanted)
              ⟨halong, hadmitted, history, hget, hin⟩⟩
            simp only [hresult, List.map_append, List.append_assoc]
            rfl

/-! ## The own days of what is found -/

variable {m tripId start index} [Scalar R]

/-- An event in a run's list for a day is of that day, or of one of the days after it that are
populated backward. -/
theorem serviceDay_of_listed {ops : List Operation} {k : TripKey} {history : List Event} {e : Event}
    (h : (svc.memoryAfter ops).trips.log.get? k = some history) (he : e ∈ history) :
    ∃ day, svc.clock.serviceDay e.time = .ok day ∧ k.serviceDay ≤ day ∧
      day.number - k.serviceDay.number < max svc.settings.history.daysToPopulate 1 := by
  obtain ⟨w, hw, rfl⟩ := List.mem_map.mp ((svc.newestFirst_of_get? h).mem_iff.mp he)
  have hpopulates := (Bool.and_eq_true_iff.mp (List.mem_filter.mp hw).2).2
  unfold TripHistory.populates at hpopulates
  cases hday : svc.clock.serviceDay w.event.time with
  | error cause =>
    rw [hday] at hpopulates
    cases hpopulates
  | ok day =>
    simp only [hday, Bool.and_eq_true, decide_eq_true_eq] at hpopulates
    refine ⟨day, rfl, ?_, hpopulates.2⟩
    show k.serviceDay.number ≤ day.number
    omega

omit [Scalar R] in
theorem outcome_previousPassages {ctx : Context R} {today : Day}
    (htoday : svc.clock.serviceDay ctx.report.time = .ok today) (m : Memory R)
    (start : Option Int) :
    (svc.previousPassages m ctx start).outcome =
      .ok (some (svc.searchDays m ctx.trip.tripId start ctx.stopPathIndex
        svc.settings.kalman.maxDaysToSearch today []).2) := by
  unfold previousPassages
  rw [htoday]
  rfl

/-- After every run, for a report with a service day, the filter gets no more passages than it is to
have. Each is a passage along the stop path whose time is admitted, found in the run's list for one
of the days that it looks at. These days lie before the report's and rise along the list. The own
day of a passage's arrival is the one under which it was found, or one of the days after it that
are populated backward; where events are filed under their own day alone, it is the former. -/
theorem previous_days {ctx : Context R} {today : Day}
    (htoday : svc.clock.serviceDay ctx.report.time = .ok today) (ops : List Operation)
    (start : Option Int) :
    let m := svc.memoryAfter ops
    let kalman := svc.settings.kalman
    ∃ found : List (Day × Passage),
      (svc.previousPassages m ctx start).outcome = .ok (some (found.map Prod.snd)) ∧
      found.length ≤ kalman.maxDays ∧
      (found.map Prod.fst).Pairwise (· < ·) ∧
      (∀ x ∈ found, today.number - kalman.maxDaysToSearch ≤ x.1.number ∧ x.1 < today ∧
        svc.FoundOn m ctx.trip.tripId start ctx.stopPathIndex x.1 x.2 ∧
        ∃ own, svc.clock.serviceDay x.2.arrival.time = .ok own ∧ x.1 ≤ own ∧
          own.number - x.1.number < max svc.settings.history.daysToPopulate 1) ∧
      (svc.settings.history.daysToPopulate ≤ 1 →
        ∀ x ∈ found, svc.clock.serviceDay x.2.arrival.time = .ok x.1) := by
  intro m kalman
  obtain ⟨found, hresult, hadds⟩ := svc.searchDays_adds m ctx.trip.tripId start ctx.stopPathIndex
    kalman.maxDaysToSearch today []
  have hown : ∀ x ∈ found, ∃ own, svc.clock.serviceDay x.2.arrival.time = .ok own ∧ x.1 ≤ own ∧
      own.number - x.1.number < max svc.settings.history.daysToPopulate 1 := by
    intro x hx
    obtain ⟨history, hget, hin⟩ := (hadds.foundOn x hx).listed
    exact svc.serviceDay_of_listed hget hin.arrival
  refine ⟨found, ?_, ?_, hadds.days, ?_, ?_⟩
  · rw [svc.outcome_previousPassages htoday, hresult, List.append_nil]
  · have hlength := hadds.length
    simpa using hlength
  · intro x hx
    exact ⟨hadds.least x hx, hadds.before x hx, hadds.foundOn x hx, hown x hx⟩
  · intro hsingle x hx
    obtain ⟨own, hday, hle, hlt⟩ := hown x hx
    have hsame : own = x.1 := by
      apply Day.ext
      have hle' : x.1.number ≤ own.number := hle
      omega
    rw [hday, hsame]

/-! ### Events under three days -/

/-- The two trips between two stops, with events filed under the two days before their own too. -/
noncomputable def populated : Service ℝ :=
  { filtered with
    settings := { filtered.settings with history := { daysToPopulate := 3 } } }

/-- A vehicle is on its way on the day before the next report. -/
def dayBefore : List Operation :=
  passing "T" ((Instant.of? 115202 0).get rfl) ((Instant.of? 115262 0).get rfl)

theorem previous_days_filtered :
    ∃ (today : Day) (found : List (Day × Passage)),
      filtered.clock.serviceDay nextContext.report.time = .ok today ∧
      (filtered.previousPassages (filtered.memoryAfter (threeDays "U")) nextContext
        (some 28800)).outcome = .ok (some (found.map Prod.snd)) ∧
      found.length = 2 ∧ filtered.settings.history.daysToPopulate ≤ 1 ∧
      (found.map Prod.fst).Pairwise (· < ·) ∧
      ∀ x ∈ found, x.1 < today ∧ filtered.clock.serviceDay x.2.arrival.time = .ok x.1 := by
  obtain ⟨today, htoday⟩ : ∃ today, filtered.clock.serviceDay nextContext.report.time = .ok today :=
    ⟨_, rfl⟩
  obtain ⟨found, hfound, -, hdays, hbefore, hsingle⟩ :=
    previous_days filtered htoday (threeDays "U") (some 28800)
  have hlength : found.length = 2 := by
    obtain ⟨older, newer, hpassages⟩ : ∃ older newer, (filtered.previousPassages
        (filtered.memoryAfter (threeDays "U")) nextContext (some 28800)).outcome =
          .ok (some [older, newer]) := ⟨_, _, rfl⟩
    rw [hfound] at hpassages
    have hpair := congrArg List.length (Option.some.inj (Except.ok.inj hpassages))
    rwa [List.length_map] at hpair
  exact ⟨today, found, htoday, hfound, hlength, Nat.le_refl 1, hdays, fun x hx =>
    ⟨(hbefore x hx).2.1, hsingle (Nat.le_refl 1) x hx⟩⟩

/-- One passage is found on two days. -/
theorem counted_twice :
    populated.Checked Zone.named? ∧ ∃ today p, populated.clock.serviceDay nextContext.report.time = .ok today ∧
      (populated.previousPassages (populated.memoryAfter dayBefore) nextContext
        (some 28800)).outcome = .ok (some [p, p]) := by
  refine ⟨⟨?_, rfl⟩, _, _, rfl, rfl⟩
  rw [Settings.check_eq_ok_iff]
  simp only [Settings.faults, populated, filtered, shuttle, shuttle_fraction]
  decide

end Service

end Headway
