import Headway.Proofs.Service.Walk

/-!
# Exact horizons

The sums of times on a walk are kept within 64 bits, so a sum could stand for one that is greater.
But the calendar ends long before the 64 bits do: the first sum that lies outside of them leads out
of the calendar, and that ends the walk at the very stop. So without a correction for bias a walk
is answered exactly if all of its sums lead to times of the calendar, and then its horizons are
the sums in unbounded arithmetic (`Service.exact_horizons`).

That the sums are good is not enough for a walk whose prediction records lack a bucket
(`Service.walk_lost`).
-/

namespace Headway

variable {R : Type}

/-! ## The calendar within 64 bits -/

namespace Instant

/-- Whatever leads from one instant to another lies well within 64 bits. -/
theorem millis_bounds_of_addMillis? {t u : Instant} {ms : Int} (h : t.addMillis? ms = some u) :
    leastMillis < ms ∧ ms < greatestMillis := by
  have hnano := t.nano_lt
  have hnano' := u.nano_lt
  have ht := And.intro t.first_le t.lt_end
  have hu := And.intro u.first_le u.lt_end
  simp only [firstDayNumber, lastDayNumber] at ht hu
  simp only [leastMillis, greatestMillis]
  cases hleap : t.isLeap with
  | false =>
    have hnanos := (nanos_addMillis? hleap h).1
    simp only [nanos] at hnanos
    omega
  | true =>
    have hnanos := nanos_addMillis?_of_isLeap hleap h
    simp only [nanos] at hnanos
    omega

theorem saturate_of_addMillis? {t u : Instant} {n : Int} (h : t.addMillis? n = some u) :
    saturate n = n := by
  obtain ⟨lo, hi⟩ := millis_bounds_of_addMillis? h
  exact saturate_of_mem (Int.le_of_lt lo) (Int.le_of_lt hi)

/-- A sum outside 64 bits leads as little to an instant as the end that stands for it. -/
theorem addMillis?_saturate (t : Instant) (n : Int) : t.addMillis? (saturate n) = t.addMillis? n := by
  cases hsaturated : t.addMillis? (saturate n) with
  | some u =>
    obtain ⟨lo, hi⟩ := millis_bounds_of_addMillis? hsaturated
    have hexact : saturate n = n := by
      simp only [saturate] at *
      omega
    rw [← hsaturated, hexact]
  | none =>
    cases hsum : t.addMillis? n with
    | none => rfl
    | some u =>
      rw [saturate_of_addMillis? hsum, hsum] at hsaturated
      cases hsaturated

end Instant

/-! ## Sums of times -/

/-- The sums of times up to each arrival and each departure, after the time passed so far. -/
def horizonsFrom : Int → List (StopEstimates R) → List Int
  | _, [] => []
  | elapsed, e :: rest =>
    let untilArrival := elapsed + e.travel.millis
    let untilDeparture := untilArrival + e.dwell.millis
    untilArrival :: untilDeparture :: horizonsFrom untilDeparture rest

/-- The horizons of a stop. -/
def StopPrediction.horizons (stop : StopPrediction R) : List Int :=
  [stop.arrivalHorizon, stop.departureHorizon]

/-- The times of a stop. -/
def StopPrediction.times (stop : StopPrediction R) : List Instant := [stop.arrival, stop.departure]

/-- The stops reach some sums: these are their horizons, and lead to their times. -/
structure Reaches (report : Report) (stops : List (StopPrediction R)) (sums : List Int) : Prop where
  horizons : stops.flatMap StopPrediction.horizons = sums
  times : (stops.flatMap StopPrediction.times).map some = sums.map report.time.addMillis?

/-- The first sum that leads out of the calendar. -/
def firstBeyond? (report : Report) (sums : List Int) : Option Int :=
  sums.find? fun h => (report.time.addMillis? h).isNone

theorem Reaches.bounds {report : Report} {stops : List (StopPrediction R)} {sums : List Int}
    (h : Reaches report stops sums) :
    ∀ sum ∈ sums, (∃ t, report.time.addMillis? sum = some t) ∧
      leastMillis < sum ∧ sum < greatestMillis := by
  intro sum hsum
  have hmem : report.time.addMillis? sum ∈ (stops.flatMap StopPrediction.times).map some :=
    h.times ▸ List.mem_map_of_mem hsum
  obtain ⟨t, -, ht⟩ := List.mem_map.mp hmem
  exact ⟨⟨t, ht.symm⟩, Instant.millis_bounds_of_addMillis? ht.symm⟩

theorem firstBeyond?_cons_of_none {report : Report} {sum : Int} {rest : List Int}
    (h : report.time.addMillis? sum = none) : firstBeyond? report (sum :: rest) = some sum :=
  List.find?_cons_of_pos (by rw [h]; rfl)

theorem firstBeyond?_cons_of_some {report : Report} {sum : Int} {rest : List Int} {t : Instant}
    (h : report.time.addMillis? sum = some t) :
    firstBeyond? report (sum :: rest) = firstBeyond? report rest :=
  List.find?_cons_of_neg (by rw [h]; simp)

theorem exists_firstBeyond?_iff {report : Report} {sums : List Int} :
    (∃ h, firstBeyond? report sums = some h) ↔
      ¬ ∀ sum ∈ sums, ∃ t, report.time.addMillis? sum = some t := by
  rw [← Option.isSome_iff_exists, firstBeyond?, List.find?_isSome]
  simp [Option.eq_none_iff_forall_ne_some]

namespace Service

variable [Scalar R] (svc : Service R) (trip : Trip) (report : Report) (vehicle : VehicleState)

theorem stopPrediction_of_bias (hbias : svc.bias = .none) (index : Nat) (carried : Option R)
    (travel dwell : Estimate R) (untilArrival untilDeparture : Int) :
    svc.stopPrediction ⟨trip, index, report, vehicle, carried⟩ travel dwell
        (saturate untilArrival) (saturate untilDeparture) =
      match report.time.addMillis? untilArrival, report.time.addMillis? untilDeparture with
      | some arrival, some departure =>
        .ok ⟨index, trip.stopId? index, travel, dwell, untilArrival, untilDeparture, arrival,
          departure⟩
      | some _, none => .error (.horizonOutOfRange (saturate untilDeparture))
      | none, _ => .error (.horizonOutOfRange (saturate untilArrival)) := by
  simp only [stopPrediction, hbias, Bias.adjust, horizonTime, Instant.addMillis?_saturate]
  cases harrival : report.time.addMillis? untilArrival with
  | none => rfl
  | some arrival =>
    cases hdeparture : report.time.addMillis? untilDeparture with
    | none => rfl
    | some departure =>
      rw [Instant.saturate_of_addMillis? harrival, Instant.saturate_of_addMillis? hdeparture]
      rfl

/-- Without a correction for bias, predictions for stops reach the sums of their estimates, or end
at the first sum that leads out of the calendar. -/
theorem predictStops_of_bias (hbias : svc.bias = .none) (elapsed : Int)
    (es : List (StopEstimates R)) :
    (∃ stops, svc.predictStops trip report vehicle elapsed es = .ok stops ∧
      Reaches report stops (horizonsFrom elapsed es)) ∨
    ∃ h, firstBeyond? report (horizonsFrom elapsed es) = some h ∧
      svc.predictStops trip report vehicle elapsed es = .error (.horizonOutOfRange (saturate h)) := by
  induction es generalizing elapsed with
  | nil => exact Or.inl ⟨[], rfl, rfl, rfl⟩
  | cons e rest ih =>
    rw [predictStops, svc.stopPrediction_of_bias trip report vehicle hbias, horizonsFrom]
    cases harrival : report.time.addMillis? (elapsed + e.travel.millis) with
    | none => exact Or.inr ⟨_, firstBeyond?_cons_of_none harrival, rfl⟩
    | some arrival =>
      rw [Instant.saturate_of_addMillis? harrival, firstBeyond?_cons_of_some harrival]
      cases hdeparture : report.time.addMillis? (elapsed + e.travel.millis + e.dwell.millis) with
      | none => exact Or.inr ⟨_, firstBeyond?_cons_of_none hdeparture, rfl⟩
      | some departure =>
        rw [Instant.saturate_of_addMillis? hdeparture, firstBeyond?_cons_of_some hdeparture]
        rcases ih (elapsed + e.travel.millis + e.dwell.millis) with
          ⟨stops, hstops, hreaches⟩ | ⟨h, hbeyond, herror⟩
        · refine Or.inl ⟨_ :: stops, by rw [Except.bind, hstops]; rfl, ?_, ?_⟩
          · rw [List.flatMap_cons, hreaches.horizons]
            rfl
          · rw [List.flatMap_cons, List.map_append, hreaches.times, List.map_cons, List.map_cons,
              harrival, hdeparture]
            rfl
        · exact Or.inr ⟨h, hbeyond, by rw [Except.bind, herror]; rfl⟩

variable {svc} {request : TripRequest} {trip : Trip}

theorem predictTrip_of_bias (hbias : svc.bias = .none)
    (htrip : svc.trip? request.vehicle.tripId = some trip)
    (hbucket : request.length trip = 0 ∨ ¬ svc.LacksBucket trip .travel request.report ∧
      ¬ svc.LacksBucket trip .dwell request.report) (m : Memory R) :
    let sums := horizonsFrom 0 (svc.estimatesAlong trip request.report request.vehicle
      (request.length trip) request.stopPathIndex none m)
    (∃ p, (svc.predictTrip request m).result = .ok p ∧ Reaches request.report p.stops sums) ∨
      ∃ h, firstBeyond? request.report sums = some h ∧
        (svc.predictTrip request m).result = .error (.horizonOutOfRange (saturate h)) := by
  intro sums
  have hwalk : (svc.walk trip request.report request.vehicle (request.length trip)
      request.stopPathIndex none 0 m).result =
        svc.predictStops trip request.report request.vehicle 0 (svc.estimatesAlong trip
          request.report request.vehicle (request.length trip) request.stopPathIndex none m) := by
    rcases hbucket with hzero | ⟨htravel, hdwell⟩
    · rw [hzero]
      rfl
    · exact svc.result_walk request.vehicle htravel hdwell _ _ _ _ m
  rw [svc.result_predictTrip htrip, hwalk]
  rcases svc.predictStops_of_bias trip request.report request.vehicle hbias 0
      (svc.estimatesAlong trip request.report request.vehicle (request.length trip)
        request.stopPathIndex none m) with ⟨stops, hstops, hreaches⟩ | ⟨h, hbeyond, herror⟩
  · rw [hstops]
    exact Or.inl ⟨_, rfl, hreaches⟩
  · rw [herror]
    exact Or.inr ⟨h, hbeyond, rfl⟩

/-- Without a correction for bias a walk is answered exactly if all sums of its estimates lead to
times of the calendar. Then its horizons are these sums and its times are where they lead, and no
sum was out of 64 bits. Otherwise it fails by the first sum that leads out of the calendar, or by
the end of the 64 bits that stands for it. The exception is a walk whose prediction records lack a
bucket: it fails by the time of the report. -/
theorem exact_horizons (hbias : svc.settings.bias.adjuster = .none)
    (htrip : svc.trip? request.vehicle.tripId = some trip) (m : Memory R) :
    let es := svc.estimatesAlong trip request.report request.vehicle (request.length trip)
      request.stopPathIndex none m
    let sums := horizonsFrom 0 es
    let result := (svc.predictTrip request m).result
    (request.length trip = 0 ∨ ¬ svc.LacksBucket trip .travel request.report ∧
        ¬ svc.LacksBucket trip .dwell request.report →
      ((∃ p, result = .ok p) ↔ ∀ sum ∈ sums, ∃ t, request.report.time.addMillis? sum = some t) ∧
      ∀ h, firstBeyond? request.report sums = some h →
        result = .error (.horizonOutOfRange (saturate h))) ∧
    (∀ p, result = .ok p →
      p.stops.map StopPrediction.estimates = es ∧ Reaches request.report p.stops sums ∧
        ∀ sum ∈ sums, leastMillis < sum ∧ sum < greatestMillis) ∧
    (request.length trip ≠ 0 → svc.LacksBucket trip .travel request.report ∨
        svc.LacksBucket trip .dwell request.report →
      result = .error (.noLocalTime ⟨request.report.time⟩)) := by
  intro es sums result
  have hnone : svc.bias = .none := by rw [bias, Bias.ofSettings, hbias]
  refine ⟨?_, ?_, fun hlength hlacks => svc.predictTrip_of_lacksBucket htrip hlength hlacks m⟩
  · intro hbucket
    rcases predictTrip_of_bias hnone htrip hbucket m with ⟨p, hp, hreaches⟩ | ⟨h, hbeyond, herror⟩
    · have hall : ∀ sum ∈ sums, ∃ t, request.report.time.addMillis? sum = some t :=
        fun sum hsum => (hreaches.bounds sum hsum).1
      refine ⟨⟨fun _ => hall, fun _ => ⟨p, hp⟩⟩, ?_⟩
      intro h hbeyond
      exact absurd hall (exists_firstBeyond?_iff.mp ⟨h, hbeyond⟩)
    · have hnot := exists_firstBeyond?_iff.mp ⟨h, hbeyond⟩
      refine ⟨⟨?_, fun hall => absurd hall hnot⟩, ?_⟩
      · rintro ⟨p, hp⟩
        cases herror.symm.trans hp
      · intro other hother
        rw [← Option.some.inj (hbeyond.symm.trans hother)]
        exact herror
  · intro p hp
    have hbucket : request.length trip = 0 ∨ ¬ svc.LacksBucket trip .travel request.report ∧
        ¬ svc.LacksBucket trip .dwell request.report := by
      by_contra hlost
      obtain ⟨hlength, hboth⟩ := not_or.mp hlost
      have hlacks := not_not.mp fun hnot => hboth (not_or.mp hnot)
      cases (svc.predictTrip_of_lacksBucket htrip hlength hlacks m).symm.trans hp
    refine ⟨svc.map_estimates_predictTrip htrip hp, ?_⟩
    rcases predictTrip_of_bias hnone htrip hbucket m with ⟨q, hq, hreaches⟩ | ⟨h, -, herror⟩
    · obtain rfl := Except.ok.inj (hp.symm.trans hq)
      exact ⟨hreaches, fun sum hsum => (hreaches.bounds sum hsum).2⟩
    · cases herror.symm.trans hp

/-! ### A trip that is not to end -/

/-- The shuttle takes a minute to its first stop and the greatest number of milliseconds to the
other. -/
noncomputable def endless : Service ℝ :=
  { shuttle with
    settings := { shuttle.settings with
      schedule := Schedule.ofTrips
        [⟨"T", "S", false, some 0, ["A", "B"], [60000, greatestMillis], [0, 0]⟩] } }

theorem exact_horizons_shuttle :
    (∃ p, shuttle.settings.bias.adjuster = .none ∧
      (shuttle.predictTrip shuttleRest (shuttle.memoryAfter [])).result = .ok p ∧
      p.stops.flatMap StopPrediction.horizons = [0, 0, 90000, 90000]) ∧
    ∃ trip, endless.settings.bias.adjuster = .none ∧
      endless.trip? shuttleRest.vehicle.tripId = some trip ∧
      horizonsFrom 0 (endless.estimatesAlong trip shuttleRest.report shuttleRest.vehicle 2 0 none
        (endless.memoryAfter [])) =
          [60000, 60000, greatestMillis + 60000, greatestMillis + 60000] ∧
      (endless.predictTrip shuttleRest (endless.memoryAfter [])).result =
        .error (.horizonOutOfRange greatestMillis) := by
  have hshuttle : shuttle.trip? shuttleRest.vehicle.tripId =
      some ⟨"T", "S", false, some 0, ["A", "B"], [0, 90000], [0, 0]⟩ := rfl
  have hendless : endless.trip? shuttleRest.vehicle.tripId =
      some ⟨"T", "S", false, some 0, ["A", "B"], [60000, greatestMillis], [0, 0]⟩ := rfl
  have hsums : horizonsFrom 0 (endless.estimatesAlong
      ⟨"T", "S", false, some 0, ["A", "B"], [60000, greatestMillis], [0, 0]⟩ shuttleRest.report
      shuttleRest.vehicle 2 0 none (endless.memoryAfter [])) =
        [60000, 60000, greatestMillis + 60000, greatestMillis + 60000] := rfl
  have hbias : shuttle.settings.bias.adjuster = .none := rfl
  have hbias' : endless.settings.bias.adjuster = .none := rfl
  obtain ⟨-, hanswer, -⟩ := exact_horizons hbias hshuttle (shuttle.memoryAfter [])
  obtain ⟨hfail, -, -⟩ := exact_horizons hbias' hendless (endless.memoryAfter [])
  constructor
  · obtain ⟨p, hp⟩ : ∃ p, (shuttle.predictTrip shuttleRest (shuttle.memoryAfter [])).result = .ok p :=
      ⟨_, rfl⟩
    obtain ⟨-, hreaches, -⟩ := hanswer p hp
    exact ⟨p, hbias, hp, hreaches.horizons⟩
  · refine ⟨_, hbias', hendless, hsums, ?_⟩
    apply (hfail (Or.inr ⟨?_, ?_⟩)).2 (greatestMillis + 60000) rfl
    · rintro ⟨-, hfrequency, -⟩
      cases hfrequency
    · rintro ⟨-, hfrequency, -⟩
      cases hfrequency

/-- The rest of the trip in the east, asked for in the last second of the calendar. -/
def easternRest : TripRequest := ⟨⟨"1", lastSecond⟩, ⟨"1", "F", none, none⟩, 0, none⟩

/-- All sums lead to times of the calendar, and the walk is not answered all the same. It does not
fail by one of them either. -/
theorem walk_lost :
    easternStudy.Checked Zone.named? ∧ easternStudy.settings.bias.adjuster = .none ∧ ∃ trip f,
      easternStudy.trip? easternRest.vehicle.tripId = some trip ∧
      (∀ sum ∈ horizonsFrom 0 (easternStudy.estimatesAlong trip easternRest.report
          easternRest.vehicle (easternRest.length trip) easternRest.stopPathIndex none
          (easternStudy.memoryAfter [])),
        ∃ t, easternRest.report.time.addMillis? sum = some t) ∧
      (easternStudy.predictTrip easternRest (easternStudy.memoryAfter [])).result = .error f ∧
      ∀ ms, f ≠ .horizonOutOfRange ms := by
  refine ⟨⟨?_, rfl⟩, rfl, ⟨"F", "S", true, none, ["A"], [0], [0]⟩, _, rfl, ?_, rfl, nofun⟩
  · rw [Settings.check_eq_ok_iff]
    simp only [Settings.faults, easternStudy, eastern, shuttle, shuttle_fraction]
    decide
  · intro sum hsum
    have hzero : sum = 0 := by
      simpa using (show sum ∈ [(0 : Int), 0] from hsum)
    rw [hzero]
    exact ⟨lastSecond, lastSecond.addMillis?_zero⟩

end Service

end Headway
