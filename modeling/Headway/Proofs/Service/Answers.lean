import Headway.Proofs.Service.Prediction
import Headway.Proofs.Service.Refusal

/-!
# Predictions are answered

A chain visits every strategy once, and the schedule, which is one of them, always has a value. So
an estimate is that of the first strategy on its chain that has a value (`Service.find_answers`);
a strategy without data and one that failed are passed over alike.

An answer can still be lost after it was found. The record of a prediction for a trip by frequency
names the bucket of the report, and is made outside of the chain: when the time of the report has no
local time, the record fails and takes the estimate with it (`Service.LacksBucket`). Everything else
is answered (`Service.predictions_answered`), and `Service.prediction_lost` is a prediction that is
not.
-/

namespace Headway

variable {R : Type}

/-! ## Chains -/

/-- A list starts with a preferred member, goes on in a given order and visits each member once. -/
structure Visits {σ : Type} (preferred : σ) (order visited : List σ) : Prop where
  first : ∃ rest, visited = preferred :: rest ∧ rest.Sublist order
  once : visited.Nodup
  all : ∀ s, s ∈ visited

theorem chain_visits {σ : Type} [DecidableEq σ] (preferred : σ) {order : List σ}
    (hnodup : order.Nodup) (hall : ∀ s, s ∈ order) :
    Visits preferred order (chain preferred order) where
  first := ⟨_, rfl, List.filter_sublist⟩
  once := nodup_chain hnodup
  all s := mem_chain.mpr (Or.inr (hall s))

/-- A value is that of the first attempt that ends with one. -/
def IsFirstValue {σ α : Type} (attempt : σ → Attempt R α) (tried : List σ) (a : α) : Prop :=
  ∃ before s after, tried = before ++ s :: after ∧ (attempt s).outcome = .ok (some a) ∧
    ∀ t ∈ before, ∀ b, (attempt t).outcome ≠ .ok (some b)

namespace IsFirstValue

variable {σ α : Type} {attempt : σ → Attempt R α} {s : σ} {rest : List σ} {a : α}

theorem head (h : (attempt s).outcome = .ok (some a)) : IsFirstValue attempt (s :: rest) a := by
  refine ⟨[], s, rest, rfl, h, ?_⟩
  intro t ht
  cases ht

theorem skip (hs : ∀ b, (attempt s).outcome ≠ .ok (some b)) (h : IsFirstValue attempt rest a) :
    IsFirstValue attempt (s :: rest) a := by
  obtain ⟨before, t, after, rfl, ht, hbefore⟩ := h
  refine ⟨s :: before, t, after, rfl, ht, ?_⟩
  intro u hu
  rcases List.mem_cons.mp hu with rfl | hu
  · exact hs
  · exact hbefore u hu

/-- A search that passes over attempts without a value ends at the first value, if one of the
attempts has a value. -/
theorem of_search (search : List σ → α) {last : σ}
    (hvalue : ∀ s rest a, (attempt s).outcome = .ok (some a) → search (s :: rest) = a)
    (hskip : ∀ s rest, (∀ b, (attempt s).outcome ≠ .ok (some b)) →
      search (s :: rest) = search rest)
    (hlast : ∃ a, (attempt last).outcome = .ok (some a)) {tried : List σ} (hmem : last ∈ tried) :
    IsFirstValue attempt tried (search tried) := by
  induction tried with
  | nil => cases hmem
  | cons s rest ih =>
    by_cases hs : ∃ a, (attempt s).outcome = .ok (some a)
    · obtain ⟨a, ha⟩ := hs
      rw [hvalue s rest a ha]
      exact head ha
    · have hnone : ∀ b, (attempt s).outcome ≠ .ok (some b) := fun b hb => hs ⟨b, hb⟩
      -- the last resort has a value, so it still comes
      have hrest : last ∈ rest := by
        rcases List.mem_cons.mp hmem with rfl | h
        · exact absurd hlast hs
        · exact h
      rw [hskip s rest hnone]
      exact skip hnone (ih hrest)

end IsFirstValue

namespace Service

/-- An estimate is to be recorded under a bucket, and the report has none. -/
def LacksBucket (svc : Service R) (trip : Trip) (leg : Leg) (report : Report) : Prop :=
  svc.recordsLeg leg = true ∧ trip.byFrequency = true ∧
    svc.clock.zone.local? report.time = none

variable {svc : Service R} {ctx : Context R} {leg : Leg}

theorem recordOf_of_lacksBucket (h : svc.LacksBucket ctx.trip leg ctx.report) (e : Estimate R) :
    svc.recordOf ctx leg e = .error ⟨ctx.report.time⟩ := by
  obtain ⟨hrecords, hfrequency, hlocal⟩ := h
  have hbucket : svc.clock.bucket ctx.report.time = .error ⟨ctx.report.time⟩ := by
    rw [ServiceClock.bucket, ServiceClock.toLocal, hlocal]
    rfl
  rw [recordOf, if_pos hrecords, if_pos hfrequency, hbucket]
  rfl

theorem recordOf_of_not_lacksBucket (h : ¬ svc.LacksBucket ctx.trip leg ctx.report)
    (e : Estimate R) : ∃ records, svc.recordOf ctx leg e = .ok records := by
  by_cases hrecords : svc.recordsLeg leg = true
  · rw [recordOf, if_pos hrecords]
    by_cases hfrequency : ctx.trip.byFrequency = true
    · cases hlocal : svc.clock.zone.local? ctx.report.time with
      | none => exact absurd ⟨hrecords, hfrequency, hlocal⟩ h
      | some l =>
        have hbucket : svc.clock.bucket ctx.report.time = .ok (svc.clock.bucketOfLocal l) := by
          rw [ServiceClock.bucket, ServiceClock.toLocal, hlocal]
          rfl
        rw [if_pos hfrequency, hbucket]
        exact ⟨_, rfl⟩
    · rw [if_neg hfrequency]
      exact ⟨_, rfl⟩
  · rw [recordOf, if_neg hrecords]
    exact ⟨[], rfl⟩

variable [Scalar R]

/-! ## Estimates -/

variable (svc)

theorem findTravel_isFirstValue (m : Memory R) (ctx : Context R) {tried : List TravelStrategy}
    (hschedule : .scheduleDefault ∈ tried) :
    IsFirstValue (svc.attemptTravel m ctx) tried (svc.findTravel m ctx tried).estimate := by
  apply IsFirstValue.of_search (fun tried => (svc.findTravel m ctx tried).estimate) _ _ ⟨_, rfl⟩
    hschedule
  · intro s rest e he
    -- a Kalman estimate is compared with the rest of the chain, which changes only the notices
    simp only [findTravel, he]
    split
    · rfl
    · rfl
  · intro s rest hs
    simp only [findTravel]
    split
    · rename_i e he
      exact absurd he (hs e)
    · rfl
    · rfl

theorem findDwell_isFirstValue (m : Memory R) (ctx : Context R) {tried : List DwellStrategy}
    (hschedule : .scheduleDefault ∈ tried) :
    IsFirstValue (svc.attemptDwell m ctx) tried (svc.findDwell m ctx tried).estimate := by
  apply IsFirstValue.of_search (fun tried => (svc.findDwell m ctx tried).estimate) _ _ ⟨_, rfl⟩
    hschedule
  · intro s rest e he
    simp only [findDwell, he]
  · intro s rest hs
    simp only [findDwell]
    split
    · rename_i e he
      exact absurd he (hs e)
    · rfl
    · rfl

/-- An estimate is that of the first strategy on the chain of its leg that has a value. -/
def Answers (m : Memory R) (ctx : Context R) : Leg → Estimate R → Prop
  | .travel, e => IsFirstValue (svc.attemptTravel m ctx) svc.travelChain e
  | .dwell, e => IsFirstValue (svc.attemptDwell m ctx) svc.dwellChain e

omit [Scalar R] in
theorem travelChain_visits :
    Visits svc.settings.strategy.travel TravelStrategy.order svc.travelChain :=
  chain_visits _ (by decide) (by intro s; cases s <;> decide)

omit [Scalar R] in
theorem dwellChain_visits :
    Visits svc.settings.strategy.dwell DwellStrategy.order svc.dwellChain :=
  chain_visits _ (by decide) (by intro s; cases s <;> decide)

theorem find_answers (m : Memory R) (ctx : Context R) (leg : Leg) :
    svc.Answers m ctx leg (svc.find m ctx leg).estimate := by
  cases leg with
  | travel => exact svc.findTravel_isFirstValue m ctx (svc.travelChain_visits.all _)
  | dwell => exact svc.findDwell_isFirstValue m ctx (svc.dwellChain_visits.all _)

theorem estimate_answers {leg : Leg} (ctx : Context R) (m : Memory R)
    (h : ¬ svc.LacksBucket ctx.trip leg ctx.report) :
    ∃ e, (svc.estimate leg ctx m).result = .ok e ∧ svc.Answers m ctx leg e ∧
      (svc.estimate leg ctx m).memory = remember m ctx e := by
  obtain ⟨records, hrecords⟩ := recordOf_of_not_lacksBucket h (svc.find m ctx leg).estimate
  refine ⟨(svc.find m ctx leg).estimate, ?_, svc.find_answers m ctx leg, ?_⟩
  · rw [result_estimate, hrecords]
    rfl
  · exact svc.memory_estimate leg ctx m

theorem estimate_of_lacksBucket {leg : Leg} (ctx : Context R) (m : Memory R)
    (h : svc.LacksBucket ctx.trip leg ctx.report) :
    (svc.estimate leg ctx m).result = .error (.noLocalTime ⟨ctx.report.time⟩) := by
  rw [result_estimate, recordOf_of_lacksBucket h]
  rfl

/-! ## Walks -/

section Walk

variable (trip : Trip) (report : Report) (vehicle : VehicleState)

/-- The stops of a walk from a stop path on are answered one after the other. The travel estimate
leaves its error to the next ones, in the memory and along the walk. -/
inductive AnswersAlong : Nat → Option R → Memory R → List (StopPrediction R) → Prop
  | nil {index carried m} : AnswersAlong index carried m []
  | cons {index carried m stop rest} (hindex : stop.stopPathIndex = index)
      (htravel : svc.Answers m ⟨trip, index, report, vehicle, carried⟩ .travel stop.travel)
      (hdwell : svc.Answers (remember m ⟨trip, index, report, vehicle, carried⟩ stop.travel)
        ⟨trip, index, report, vehicle, stop.travel.filterError.or carried⟩ .dwell stop.dwell)
      (hrest : AnswersAlong (index + 1) (stop.travel.filterError.or carried)
        (remember m ⟨trip, index, report, vehicle, carried⟩ stop.travel) rest) :
      AnswersAlong index carried m (stop :: rest)

/-- A walk of a number of stop paths is answered along its stops, or it ends at a time outside the
calendar. -/
def AnswersWalk (n index : Nat) (carried : Option R) (m : Memory R) :
    Except (Failure R) (List (StopPrediction R)) → Prop
  | .ok stops => stops.length = n ∧ svc.AnswersAlong trip report vehicle index carried m stops
  | .error failure => ∃ ms, failure = .horizonOutOfRange ms ∧ report.time.addMillis? ms = none

theorem stopPrediction_ok_or_outOfRange (ctx : Context R) (travel dwell : Estimate R)
    (untilArrival untilDeparture : Int) :
    (∃ stop, svc.stopPrediction ctx travel dwell untilArrival untilDeparture = .ok stop ∧
      stop.stopPathIndex = ctx.stopPathIndex ∧ stop.travel = travel ∧ stop.dwell = dwell) ∨
    ∃ ms, svc.stopPrediction ctx travel dwell untilArrival untilDeparture =
        .error (.horizonOutOfRange ms) ∧ ctx.report.time.addMillis? ms = none := by
  simp only [stopPrediction, horizonTime]
  cases harrival : ctx.report.time.addMillis? (svc.bias.adjust untilArrival) with
  | none => exact Or.inr ⟨_, rfl, harrival⟩
  | some arrival =>
    cases hdeparture : ctx.report.time.addMillis? (svc.bias.adjust untilDeparture) with
    | none => exact Or.inr ⟨_, rfl, hdeparture⟩
    | some departure => exact Or.inl ⟨_, rfl, rfl, rfl, rfl⟩

variable {trip report}

theorem walk_answers (htravel : ¬ svc.LacksBucket trip .travel report)
    (hdwell : ¬ svc.LacksBucket trip .dwell report) (n index : Nat) (carried : Option R)
    (elapsed : Int) (m : Memory R) :
    svc.AnswersWalk trip report vehicle n index carried m
      (svc.walk trip report vehicle n index carried elapsed m).result := by
  induction n generalizing index carried elapsed m with
  | zero => exact ⟨rfl, .nil⟩
  | succ n ih =>
    obtain ⟨travel, htravelResult, htravelAnswers, hmemory⟩ := svc.estimate_answers
      ⟨trip, index, report, vehicle, carried⟩ m htravel
    obtain ⟨dwell, hdwellResult, hdwellAnswers, -⟩ := svc.estimate_answers
      ⟨trip, index, report, vehicle, travel.filterError.or carried⟩
      (remember m ⟨trip, index, report, vehicle, carried⟩ travel) hdwell
    rw [result_walk_succ, htravelResult, hmemory]
    simp only [Except.bind, hdwellResult]
    rcases svc.stopPrediction_ok_or_outOfRange
        ⟨trip, index, report, vehicle, travel.filterError.or carried⟩ travel dwell
        (saturate (elapsed + travel.millis))
        (saturate (saturate (elapsed + travel.millis) + dwell.millis)) with
      ⟨stop, hstop, hindex, rfl, rfl⟩ | ⟨ms, hstop, hms⟩
    · have hrest := ih (index + 1) (stop.travel.filterError.or carried)
        (saturate (saturate (elapsed + stop.travel.millis) + stop.dwell.millis))
        (remember m ⟨trip, index, report, vehicle, carried⟩ stop.travel)
      rw [hstop]
      simp only
      cases hresult : (svc.walk trip report vehicle n (index + 1)
          (stop.travel.filterError.or carried)
          (saturate (saturate (elapsed + stop.travel.millis) + stop.dwell.millis))
          (remember m ⟨trip, index, report, vehicle, carried⟩ stop.travel)).result with
      | ok stops =>
        rw [hresult] at hrest
        obtain ⟨hlength, halong⟩ := hrest
        exact ⟨congrArg Nat.succ hlength, .cons hindex htravelAnswers hdwellAnswers halong⟩
      | error failure =>
        rw [hresult] at hrest
        exact hrest
    · rw [hstop]
      exact ⟨ms, rfl, hms⟩

theorem walk_of_lacksBucket
    (h : svc.LacksBucket trip .travel report ∨ svc.LacksBucket trip .dwell report) (n index : Nat)
    (carried : Option R) (elapsed : Int) (m : Memory R) :
    (svc.walk trip report vehicle (n + 1) index carried elapsed m).result =
      .error (.noLocalTime ⟨report.time⟩) := by
  rw [result_walk_succ]
  by_cases htravel : svc.LacksBucket trip .travel report
  · rw [svc.estimate_of_lacksBucket ⟨trip, index, report, vehicle, carried⟩ m htravel]
    rfl
  · have hdwell := h.resolve_left htravel
    obtain ⟨travel, htravelResult, -⟩ := svc.estimate_answers
      ⟨trip, index, report, vehicle, carried⟩ m htravel
    rw [htravelResult]
    simp only [Except.bind]
    rw [svc.estimate_of_lacksBucket
      ⟨trip, index, report, vehicle, travel.filterError.or carried⟩ _ hdwell]

end Walk

/-! ## Requests -/

variable {trip : Trip}

theorem predict_answers {tripId : String} (htrip : svc.trip? tripId = some trip) (index : Nat)
    {leg : Leg} {report : Report} (h : ¬ svc.LacksBucket trip leg report) (vehicle : VehicleState)
    (m : Memory R) :
    ∃ e, (svc.predict tripId index leg report vehicle m).result = .ok e ∧
      svc.Answers m ⟨trip, index, report, vehicle, none⟩ leg e := by
  obtain ⟨e, he, hanswers, -⟩ :=
    svc.estimate_answers ⟨trip, index, report, vehicle, none⟩ m h
  rw [predict, htrip]
  exact ⟨e, he, hanswers⟩

theorem predictTrip_answers {request : TripRequest}
    (htrip : svc.trip? request.vehicle.tripId = some trip)
    (h : request.length trip = 0 ∨ ¬ svc.LacksBucket trip .travel request.report ∧
      ¬ svc.LacksBucket trip .dwell request.report) (m : Memory R) :
    svc.AnswersWalk trip request.report request.vehicle (request.length trip)
      request.stopPathIndex none m
      ((svc.predictTrip request m).result.map TripPrediction.stops) := by
  have hwalk : svc.AnswersWalk trip request.report request.vehicle (request.length trip)
      request.stopPathIndex none m (svc.walk trip request.report request.vehicle
        (request.length trip) request.stopPathIndex none 0 m).result := by
    rcases h with hlength | ⟨htravel, hdwell⟩
    · rw [hlength]
      exact ⟨rfl, .nil⟩
    · exact svc.walk_answers request.vehicle htravel hdwell _ _ _ _ m
  rw [predictTrip, htrip]
  simp only [Step.map]
  cases hresult : (svc.walk trip request.report request.vehicle (request.length trip)
      request.stopPathIndex none 0 m).result with
  | ok stops =>
    rw [hresult] at hwalk
    exact hwalk
  | error failure =>
    rw [hresult] at hwalk
    exact hwalk

theorem predictTrip_of_lacksBucket {request : TripRequest}
    (htrip : svc.trip? request.vehicle.tripId = some trip) (hlength : request.length trip ≠ 0)
    (h : svc.LacksBucket trip .travel request.report ∨
      svc.LacksBucket trip .dwell request.report) (m : Memory R) :
    (svc.predictTrip request m).result = .error (.noLocalTime ⟨request.report.time⟩) := by
  obtain ⟨n, hn⟩ := Nat.exists_eq_succ_of_ne_zero hlength
  rw [predictTrip, htrip]
  simp only [Step.map, hn, svc.walk_of_lacksBucket request.vehicle h]
  rfl

/-- Every request is answered by the first strategies that have a value, or refused because the trip
is unknown or a time lies outside the calendar. The exception is a request whose prediction records
lack a bucket: it fails by the time of the report, whatever was found before. -/
theorem predictions_answered (m : Memory R) :
    Visits svc.settings.strategy.travel TravelStrategy.order svc.travelChain ∧
    Visits svc.settings.strategy.dwell DwellStrategy.order svc.dwellChain ∧
    (∀ tripId index leg report vehicle,
      (svc.trip? tripId = none →
        (svc.predict tripId index leg report vehicle m).result = .ok ⟨0, .schedule, none⟩) ∧
      ∀ trip, svc.trip? tripId = some trip →
        (¬ svc.LacksBucket trip leg report →
          ∃ e, (svc.predict tripId index leg report vehicle m).result = .ok e ∧
            svc.Answers m ⟨trip, index, report, vehicle, none⟩ leg e) ∧
        (svc.LacksBucket trip leg report →
          (svc.predict tripId index leg report vehicle m).result =
            .error (.noLocalTime ⟨report.time⟩))) ∧
    ∀ request : TripRequest,
      (svc.trip? request.vehicle.tripId = none →
        (svc.predictTrip request m).result = .error (.unknownTrip request.vehicle.tripId)) ∧
      ∀ trip, svc.trip? request.vehicle.tripId = some trip →
        (request.length trip = 0 ∨ ¬ svc.LacksBucket trip .travel request.report ∧
            ¬ svc.LacksBucket trip .dwell request.report →
          svc.AnswersWalk trip request.report request.vehicle (request.length trip)
            request.stopPathIndex none m
            ((svc.predictTrip request m).result.map TripPrediction.stops)) ∧
        (request.length trip ≠ 0 → svc.LacksBucket trip .travel request.report ∨
            svc.LacksBucket trip .dwell request.report →
          (svc.predictTrip request m).result =
            .error (.noLocalTime ⟨request.report.time⟩)) := by
  refine ⟨svc.travelChain_visits, svc.dwellChain_visits, ?_, ?_⟩
  · intro tripId index leg report vehicle
    constructor
    · intro hunknown
      rw [predict, hunknown]
      rfl
    · intro trip htrip
      refine ⟨fun hbucket => svc.predict_answers htrip index hbucket vehicle m, ?_⟩
      intro hbucket
      rw [predict, htrip]
      exact svc.estimate_of_lacksBucket ⟨trip, index, report, vehicle, none⟩ m hbucket
  · intro request
    constructor
    · intro hunknown
      rw [predictTrip, hunknown]
      rfl
    · intro trip htrip
      exact ⟨fun h => svc.predictTrip_answers htrip h m,
        fun hlength h => svc.predictTrip_of_lacksBucket htrip hlength h m⟩

/-! ### A report at the end of the calendar -/

/-- Travel times are to be recorded, and nothing takes the records. -/
noncomputable def easternStudy : Service ℝ :=
  { eastern with
    settings := { eastern.settings with strategy := { recordTravel := true } }
    recorder := .closed }

/-- The rest of the shuttle's trip, for a vehicle that is about to leave. -/
def shuttleRest : TripRequest := ⟨⟨"2", shuttleArrives⟩, ⟨"2", "T", none, none⟩, 0, none⟩

theorem predictions_answered_shuttle :
    (∃ trip e, shuttle.trip? "T" = some trip ∧
      ¬ shuttle.LacksBucket trip .travel ⟨"2", shuttleArrives⟩ ∧
      (shuttle.predict "T" 1 .travel ⟨"2", shuttleArrives⟩ ⟨"2", "T", none, none⟩
        (shuttle.memoryAfter shuttleRun)).result = .ok e ∧
      shuttle.Answers (shuttle.memoryAfter shuttleRun)
        ⟨trip, 1, ⟨"2", shuttleArrives⟩, ⟨"2", "T", none, none⟩, none⟩ .travel e) ∧
    (∃ p, (shuttle.predictTrip shuttleRest (shuttle.memoryAfter [])).result = .ok p ∧
      p.stops.length = 2) ∧
    ∃ trip, easternStudy.trip? "F" = some trip ∧
      easternStudy.LacksBucket trip .travel ⟨"1", lastSecond⟩ ∧
      (easternStudy.predict "F" 0 .travel ⟨"1", lastSecond⟩ ⟨"1", "F", none, none⟩
        (easternStudy.memoryAfter [])).result = .error (.noLocalTime ⟨lastSecond⟩) := by
  have hbucket (leg : Leg) (report : Report) : ¬ shuttle.LacksBucket
      ⟨"T", "S", false, some 0, ["A", "B"], [0, 90000], [0, 0]⟩ leg report := by
    rintro ⟨-, hfrequency, -⟩
    cases hfrequency
  have hlost : easternStudy.LacksBucket ⟨"F", "S", true, none, ["A"], [0], [0]⟩ .travel
      ⟨"1", lastSecond⟩ := ⟨rfl, rfl, rfl⟩
  obtain ⟨-, -, hpredict, -⟩ := predictions_answered shuttle (shuttle.memoryAfter shuttleRun)
  obtain ⟨-, -, -, hrest⟩ := predictions_answered shuttle (shuttle.memoryAfter [])
  obtain ⟨-, -, heast, -⟩ := predictions_answered easternStudy (easternStudy.memoryAfter [])
  refine ⟨?_, ?_, _, rfl, hlost, ?_⟩
  · obtain ⟨e, he, hanswers⟩ := ((hpredict "T" 1 .travel ⟨"2", shuttleArrives⟩
      ⟨"2", "T", none, none⟩).2 _ rfl).1 (hbucket _ _)
    exact ⟨_, e, rfl, hbucket _ _, he, hanswers⟩
  · have hstops := ((hrest shuttleRest).2 _ rfl).1 (Or.inr ⟨hbucket _ _, hbucket _ _⟩)
    exact ⟨_, rfl, hstops.1⟩
  · exact ((heast "F" 0 .travel ⟨"1", lastSecond⟩ ⟨"1", "F", none, none⟩).2 _ rfl).2 hlost

/-- A scheduled travel time is found and then lost with its record. -/
theorem prediction_lost :
    easternStudy.Checked Zone.named? ∧ ∃ f,
      (easternStudy.predict "F" 0 .travel ⟨"1", lastSecond⟩ ⟨"1", "F", none, none⟩
        (easternStudy.memoryAfter [])).result = .error f ∧
      (easternStudy.find (easternStudy.memoryAfter [])
        ⟨⟨"F", "S", true, none, ["A"], [0], [0]⟩, 0, ⟨"1", lastSecond⟩,
          ⟨"1", "F", none, none⟩, none⟩ .travel).estimate.algorithm = .schedule := by
  refine ⟨⟨?_, rfl⟩, _, rfl, rfl⟩
  rw [Settings.check_eq_ok_iff]
  simp only [Settings.faults, easternStudy, eastern, shuttle, shuttle_fraction]
  decide

end Service

end Headway
