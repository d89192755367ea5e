import Headway.Proofs.Kalman.Exact
import Headway.Proofs.Service.Invariant
import Headway.Proofs.Service.Prediction
import Headway.Proofs.Service.Run

/-!
# Estimates within bounds

In exact arithmetic an estimate that rests on samples lies within the bounds on the samples that are
admitted, after every run of a service (`Service.estimates_within_bounds`). This covers means, the
last vehicle, the Kalman filter and the running means of dwell times, but not what the schedule or
least squares answer.
-/

namespace Headway

/-- The estimates in an answer, with the leg that each is for. -/
def Operation.estimates {R : Type} (op : Operation) : Reply R → List (Leg × Estimate R)
  | .estimate e =>
    match op with
    | .predict _ _ leg _ _ => [(leg, e)]
    | _ => []
  | .trip p => p.stops.flatMap fun stop => [(.travel, stop.travel), (.dwell, stop.dwell)]
  | _ => []

/-- The estimates that an operation on a memory answers, none if it fails. -/
def Service.estimates {R : Type} [Scalar R] (svc : Service R) (m : Memory R) (op : Operation) :
    List (Leg × Estimate R) :=
  match (svc.perform m op).result with
  | .ok r => op.estimates r
  | .error _ => []

/-- Estimates by an algorithm rest on samples whose bounds they keep. A dwell model has to be a
running mean, of dwell times that are not negative. -/
def Settings.RestsOnSamples {R : Type} (s : Settings R) (a : Algorithm) : Prop :=
  a ≠ .schedule ∧ (a = .dwellModel → s.dwell.model = .runningMean ∧ 0 ≤ s.filters.minDwell)

/-- An estimate from samples lies within their bounds, and an error that it carries is not
negative. -/
structure Estimate.Sound (s : Settings ℝ) (leg : Leg) (e : Estimate ℝ) : Prop where
  bounds : s.RestsOnSamples e.algorithm →
    (s.filters.bounds leg).1 ≤ e.millis ∧ e.millis ≤ (s.filters.bounds leg).2
  filterError : ∀ x, e.filterError = some x → 0 ≤ x

theorem Estimate.sound_schedule (s : Settings ℝ) (leg : Leg) (millis : Int) :
    Estimate.Sound s leg ⟨millis, .schedule, none⟩ where
  bounds h := absurd rfl h.1
  filterError x hx := by cases hx

theorem Estimate.sound_of_mem_Icc {s : Settings ℝ} {leg : Leg} {millis : Int}
    (h : millis ∈ Set.Icc (s.filters.least leg) (s.filters.greatest leg)) (a : Algorithm)
    {error : Option ℝ} (herror : ∀ x, error = some x → 0 ≤ x) :
    Estimate.Sound s leg ⟨millis, a, error⟩ where
  bounds _ := s.filters.bounds_of_mem_Icc h
  filterError := herror

/-- The error carried along a walk is not negative. -/
def Context.Nonneg (ctx : Context ℝ) : Prop := ∀ x, ctx.carriedError = some x → 0 ≤ x

/-- The travel time of a passage is admitted. -/
def FilterSettings.AdmitsPassage (f : FilterSettings) (p : Passage) : Prop :=
  p.millis ∈ Set.Icc (f.least .travel) (f.greatest .travel)

namespace Service

variable (svc : Service ℝ) {m : Memory ℝ}

/-! ## Passages -/

theorem requireAdmissible_gives (p : Passage) :
    (svc.requireAdmissible p).Gives fun _ => svc.settings.filters.AdmitsPassage p := by
  unfold requireAdmissible
  split
  · exact Attempt.gives_bind_of_forall fun _ => Attempt.gives_noData
  · rename_i hadmitted
    exact Attempt.gives_value (svc.settings.filters.admitted_mem_Icc hadmitted)

theorem lastPassage_gives (m : Memory ℝ) (ctx : Context ℝ) :
    (svc.lastPassage m ctx).Gives svc.settings.filters.AdmitsPassage := by
  unfold lastPassage
  refine Attempt.gives_bind_of_forall fun _ => ?_
  refine Attempt.gives_bind_of_forall fun stop => ?_
  refine Attempt.gives_bind_of_forall fun stopBefore => ?_
  refine Attempt.gives_bind_of_forall fun day => ?_
  refine Attempt.gives_bind_of_forall fun arrivals => ?_
  refine Attempt.gives_bind_of_forall fun arrival => ?_
  refine Attempt.gives_bind_of_forall fun departures => ?_
  refine Attempt.gives_bind_of_forall fun departure => ?_
  refine Attempt.gives_bind (svc.requireAdmissible_gives _) fun _ hadmitted => ?_
  exact Attempt.gives_bind_of_forall fun _ => Attempt.gives_value hadmitted

theorem searchDays_admitted (m : Memory ℝ) (tripId : String) (start : Option Int) (index n : Nat)
    (day : Day) {found : List Passage}
    (h : ∀ p ∈ found, svc.settings.filters.AdmitsPassage p) :
    ∀ p ∈ (svc.searchDays m tripId start index n day found).2,
      svc.settings.filters.AdmitsPassage p := by
  induction n generalizing day found with
  | zero => exact h
  | succ n ih =>
    unfold searchDays
    split
    · exact h
    · split
      · exact h
      · split
        · exact ih _ h
        · split
          · exact ih _ h
          · rename_i hadmitted
            apply ih
            intro q hq
            rcases List.mem_cons.mp hq with rfl | hq
            · exact svc.settings.filters.admitted_mem_Icc hadmitted
            · exact h q hq

theorem previousPassages_gives (m : Memory ℝ) (ctx : Context ℝ) (start : Option Int) :
    (svc.previousPassages m ctx start).Gives fun passages =>
      ∀ p ∈ passages, svc.settings.filters.AdmitsPassage p := by
  unfold previousPassages
  refine Attempt.gives_bind_of_forall fun today => ?_
  refine Attempt.gives_bind_of_forall fun _ => ?_
  apply Attempt.gives_value
  exact svc.searchDays_admitted m _ _ _ _ _ (by simp)

/-! ## Estimators -/

theorem fromMean_gives (h : m.Within svc.settings) (ctx : Context ℝ) (leg : Leg) :
    (svc.fromMean m ctx leg).Gives (Estimate.Sound svc.settings leg) := by
  unfold fromMean
  refine Attempt.gives_bind_of_forall fun _ => ?_
  refine Attempt.gives_bind
    (Attempt.gives_ofLocal fun _ hk => KeySpace.leg_of_key hk) fun key hkey => ?_
  refine Attempt.gives_bind
    (Attempt.gives_ofOption fun _ hmean => (h.means _).get? hmean) fun mean hmean => ?_
  refine Attempt.gives_bind_of_forall fun _ => ?_
  apply Attempt.gives_value
  rw [hkey] at hmean
  apply Estimate.sound_of_mem_Icc
  · exact Scalar.truncate_mem_Icc (svc.settings.filters.leastMillis_le_least leg)
      (svc.settings.filters.greatest_le_greatestMillis leg) hmean
  · intro x hx
    cases hx

theorem fromLastVehicle_gives (m : Memory ℝ) (ctx : Context ℝ) :
    (svc.fromLastVehicle m ctx).Gives (Estimate.Sound svc.settings .travel) := by
  unfold fromLastVehicle
  refine Attempt.gives_bind (svc.lastPassage_gives m ctx) fun passage hadmitted => ?_
  apply Attempt.gives_value
  apply Estimate.sound_of_mem_Icc hadmitted
  intro x hx
  cases hx

theorem startingError_nonneg (herror : 0 ≤ svc.settings.kalman.initialError)
    (h : m.Within svc.settings) {ctx : Context ℝ} (hctx : ctx.Nonneg) (last : Passage) :
    0 ≤ svc.startingError m ctx last := by
  unfold startingError
  split
  · rename_i e hcarried
    exact hctx e hcarried
  · split
    · rename_i e he
      exact h.filterErrors _ e he
    · exact herror

/-- A Kalman step over admitted passages keeps their bounds, and passes on no negative error. -/
theorem step_passages {last : Passage} {days : List Passage} {error : ℝ} {e : KalmanEstimate ℝ}
    {useAverage : Bool} (herror : 0 ≤ error)
    (hlast : svc.settings.filters.AdmitsPassage last)
    (hdays : ∀ p ∈ days, svc.settings.filters.AdmitsPassage p)
    (h : Kalman.step useAverage last.traversal (days.map Passage.traversal) error = .ok (some e)) :
    e.result ∈ Set.Icc ((svc.settings.filters.least .travel : Int) : ℝ)
        (svc.settings.filters.greatest .travel) ∧
      0 ≤ e.filterError := by
  have hdurations : (days.map Passage.traversal).map Traversal.duration? =
      (days.map Passage.millis).map some := by
    rw [List.map_map, List.map_map]
    rfl
  have hduration : last.traversal.duration? = some last.millis := rfl
  obtain ⟨hne, rfl⟩ := Kalman.step_eq_some hduration hdurations h
  have hmillis : ∀ n ∈ days.map Passage.millis, (n : ℝ) ∈
      Set.Icc ((svc.settings.filters.least .travel : Int) : ℝ)
        (svc.settings.filters.greatest .travel) := by
    intro n hn
    obtain ⟨p, hp, rfl⟩ := List.mem_map.mp hn
    exact ⟨Int.cast_le.mpr (hdays p hp).1, Int.cast_le.mpr (hdays p hp).2⟩
  refine ⟨Kalman.result_mem_Icc useAverage herror ?_ ?_ ?_ ?_,
    Kalman.filterError_nonneg useAverage herror⟩
  · simpa using hne
  · intro d hd
    obtain ⟨n, hn, rfl⟩ := List.mem_map.mp hd
    exact hmillis n hn
  · apply hmillis
    rw [List.getLastD_eq_getLast?, List.getLast?_eq_some_getLast hne]
    exact List.getLast_mem hne
  · exact ⟨Int.cast_le.mpr hlast.1, Int.cast_le.mpr hlast.2⟩

theorem fromKalman_gives (herror : 0 ≤ svc.settings.kalman.initialError)
    (h : m.Within svc.settings) {ctx : Context ℝ} (hctx : ctx.Nonneg) :
    (svc.fromKalman m ctx).Gives (Estimate.Sound svc.settings .travel) := by
  unfold fromKalman
  refine Attempt.gives_bind (svc.lastPassage_gives m ctx) fun last hlast => ?_
  refine Attempt.gives_bind_of_forall fun known => ?_
  refine Attempt.gives_bind_of_forall fun start => ?_
  refine Attempt.gives_bind (svc.previousPassages_gives m ctx start) fun days hdays => ?_
  refine Attempt.gives_bind_of_forall fun _ => ?_
  refine Attempt.gives_bind (fun e he =>
    svc.step_passages (svc.startingError_nonneg herror h hctx last) hlast hdays he) fun e he => ?_
  apply Attempt.gives_value
  apply Estimate.sound_of_mem_Icc
  · exact Scalar.truncate_mem_Icc (svc.settings.filters.leastMillis_le_least .travel)
      (svc.settings.filters.greatest_le_greatestMillis .travel) he.1
  · rintro x hx
    cases hx
    exact he.2

theorem fromDwellModel_gives (h : m.Within svc.settings) (ctx : Context ℝ) :
    (fromDwellModel m ctx).Gives (Estimate.Sound svc.settings .dwell) := by
  unfold fromDwellModel
  refine Attempt.gives_bind_of_forall fun headway => ?_
  refine Attempt.gives_bind (Attempt.gives_ofOption fun _ hms => hms) fun ms hms => ?_
  apply Attempt.gives_value
  refine ⟨?_, fun x hx => by cases hx⟩
  rintro ⟨-, hrests⟩
  obtain ⟨hmodel, hmin⟩ := hrests rfl
  have hmem := h.dwellModels.predict?_mem_Icc hmodel
    (svc.settings.filters.leastMillis_le_least .dwell)
    (svc.settings.filters.greatest_le_greatestMillis .dwell) hms
  have hbounds := svc.settings.filters.bounds_of_mem_Icc hmem
  -- the prediction is not negative by itself, so cutting it off at zero changes nothing
  have hpos : 0 ≤ ms := le_trans hmin hbounds.1
  rw [max_eq_left hpos]
  exact hbounds

/-! ## Chains -/

theorem attemptTravel_gives (herror : 0 ≤ svc.settings.kalman.initialError)
    (h : m.Within svc.settings) {ctx : Context ℝ} (hctx : ctx.Nonneg) (s : TravelStrategy) :
    (svc.attemptTravel m ctx s).Gives (Estimate.Sound svc.settings .travel) := by
  cases s with
  | historicalAverage => exact svc.fromMean_gives h ctx .travel
  | lastVehicle => exact svc.fromLastVehicle_gives m ctx
  | kalman => exact svc.fromKalman_gives herror h hctx
  | scheduleDefault => exact Attempt.gives_value (Estimate.sound_schedule _ _ _)

theorem attemptDwell_gives (h : m.Within svc.settings) (ctx : Context ℝ) (s : DwellStrategy) :
    (svc.attemptDwell m ctx s).Gives (Estimate.Sound svc.settings .dwell) := by
  cases s with
  | dwellModel => exact svc.fromDwellModel_gives h ctx
  | historicalAverage => exact svc.fromMean_gives h ctx .dwell
  | scheduleDefault => exact Attempt.gives_value (Estimate.sound_schedule _ _ _)

theorem find_sound (herror : 0 ≤ svc.settings.kalman.initialError) (h : m.Within svc.settings)
    {ctx : Context ℝ} (hctx : ctx.Nonneg) (leg : Leg) :
    (svc.find m ctx leg).estimate.Sound svc.settings leg := by
  cases leg with
  | travel =>
    exact svc.findTravel_of_attempts (Estimate.sound_schedule _ _ _)
      (svc.attemptTravel_gives herror h hctx) _
  | dwell =>
    exact svc.findDwell_of_attempts (Estimate.sound_schedule _ _ _)
      (svc.attemptDwell_gives h ctx) _

/-! ## Predictions -/

theorem remember_within (h : m.Within svc.settings) (ctx : Context ℝ) {leg : Leg}
    {e : Estimate ℝ} (he : e.Sound svc.settings leg) :
    (remember m ctx e).Within svc.settings := by
  unfold remember
  split
  · rename_i error herror
    exact { h with filterErrors := h.filterErrors.write ctx.path (he.filterError error herror) }
  · exact h

theorem estimate_keeps (herror : 0 ≤ svc.settings.kalman.initialError)
    (h : m.Within svc.settings) (leg : Leg) (ctx : Context ℝ) (hctx : ctx.Nonneg) :
    (svc.estimate leg ctx m).Keeps (Memory.Within svc.settings)
      (Estimate.Sound svc.settings leg) := by
  have hfound := svc.find_sound herror h hctx leg
  unfold estimate
  apply (Step.Keeps.notify (svc.remember_within h ctx hfound) _).andThen
  intro _ m h _
  apply (Step.Keeps.ofLocal_any h _).andThen
  intro records m h _
  refine ⟨h, ?_⟩
  intro e he
  cases he
  exact hfound

theorem predict_keeps (herror : 0 ≤ svc.settings.kalman.initialError)
    (h : m.Within svc.settings) (tripId : String) (index : Nat) (leg : Leg) (report : Report)
    (vehicle : VehicleState) :
    (svc.predict tripId index leg report vehicle m).Keeps (Memory.Within svc.settings)
      (Estimate.Sound svc.settings leg) := by
  unfold predict
  cases svc.trip? tripId with
  | none =>
    exact (Step.Keeps.notify h _).map fun _ _ => Estimate.sound_schedule svc.settings leg 0
  | some trip =>
    apply svc.estimate_keeps herror h leg
    intro x hx
    cases hx

/-- Both estimates for a stop are sound. -/
def StopPrediction.Sound (s : Settings ℝ) (stop : StopPrediction ℝ) : Prop :=
  stop.travel.Sound s .travel ∧ stop.dwell.Sound s .dwell

theorem stopPrediction_sound {ctx : Context ℝ} {travel dwell : Estimate ℝ}
    {untilArrival untilDeparture : Int} {stop : StopPrediction ℝ}
    (htravel : travel.Sound svc.settings .travel) (hdwell : dwell.Sound svc.settings .dwell)
    (h : svc.stopPrediction ctx travel dwell untilArrival untilDeparture = .ok stop) :
    StopPrediction.Sound svc.settings stop := by
  obtain ⟨rfl, rfl, -, -⟩ := svc.stopPrediction_eq_ok h
  exact ⟨htravel, hdwell⟩

theorem walk_keeps (herror : 0 ≤ svc.settings.kalman.initialError) (h : m.Within svc.settings)
    (trip : Trip) (report : Report) (vehicle : VehicleState) (n index : Nat) {carried : Option ℝ}
    (hcarried : ∀ x, carried = some x → 0 ≤ x) (elapsed : Int) :
    (svc.walk trip report vehicle n index carried elapsed m).Keeps (Memory.Within svc.settings)
      fun stops => ∀ stop ∈ stops, StopPrediction.Sound svc.settings stop := by
  induction n generalizing index carried elapsed m with
  | zero => exact .done h (by simp)
  | succ n ih =>
    apply (svc.estimate_keeps herror h .travel ⟨trip, index, report, vehicle, carried⟩
      hcarried).andThen
    intro travel m h htravel
    -- what is carried on is the error of the new estimate, or the one carried so far
    have hnext : ∀ x, travel.filterError.or carried = some x → 0 ≤ x := by
      intro x hx
      rcases Option.or_eq_some_iff.mp hx with hx | ⟨-, hx⟩
      · exact htravel.filterError x hx
      · exact hcarried x hx
    apply (svc.estimate_keeps herror h .dwell ⟨trip, index, report, vehicle, _⟩ hnext).andThen
    intro dwell m h hdwell
    simp only
    split
    · rename_i stop hstop
      refine (ih h _ hnext _).map ?_
      intro stops hstops next hmem
      rcases List.mem_cons.mp hmem with rfl | hmem
      · exact svc.stopPrediction_sound htravel hdwell hstop
      · exact hstops next hmem
    · exact .fail h _

theorem predictTrip_keeps (herror : 0 ≤ svc.settings.kalman.initialError)
    (h : m.Within svc.settings) (request : TripRequest) :
    (svc.predictTrip request m).Keeps (Memory.Within svc.settings) fun p =>
      ∀ stop ∈ p.stops, StopPrediction.Sound svc.settings stop := by
  unfold predictTrip
  cases svc.trip? request.vehicle.tripId with
  | none => exact .fail h _
  | some trip =>
    refine (svc.walk_keeps herror h trip _ _ _ _ ?_ _).map fun _ hstops => hstops
    intro x hx
    cases hx

/-! ## Runs -/

/-- What an operation keeps, and what its estimates satisfy. -/
theorem perform_keeps (herror : 0 ≤ svc.settings.kalman.initialError)
    (h : m.Within svc.settings) (op : Operation) :
    (svc.perform m op).Keeps (Memory.Within svc.settings) fun r =>
      ∀ x ∈ op.estimates r, x.2.Sound svc.settings x.1 := by
  have hnone {r : Reply ℝ} (hr : op.estimates r = []) :
      ∀ x ∈ op.estimates r, x.2.Sound svc.settings x.1 := by
    rw [hr]
    intro x hx
    cases hx
  cases op with
  | record now e => exact (svc.record_keeps h now e).map fun _ _ => hnone rfl
  | predict tripId index leg report vehicle =>
    refine (svc.predict_keeps herror h tripId index leg report vehicle).map ?_
    intro e he x hx
    rw [List.mem_singleton.mp hx]
    exact he
  | predictTrip request =>
    refine (svc.predictTrip_keeps herror h request).map ?_
    intro p hp x hx
    obtain ⟨stop, hstop, hx⟩ := List.mem_flatMap.mp hx
    obtain ⟨htravel, hdwell⟩ := hp stop hstop
    rcases List.mem_cons.mp hx with rfl | hx
    · exact htravel
    · rw [List.mem_singleton.mp hx]
      exact hdwell
  | hold e predictions => exact (svc.hold_keeps h e predictions).map fun _ _ => hnone rfl
  | evict => exact .done h.evict (hnone rfl)
  | mean k => exact .done h (hnone rfl)
  | meanKeys byFrequency => exact .done h (hnone rfl)
  | tripHistory k => exact .done h (hnone rfl)
  | filterError k => exact .done h (hnone rfl)
  | filterErrorKeys => exact .done h (hnone rfl)

theorem memoryAfter_within (herror : 0 ≤ svc.settings.kalman.initialError)
    (ops : List Operation) : (svc.memoryAfter ops).Within svc.settings :=
  svc.memoryAfter_of_steps (Memory.within_new svc.settings)
    (fun _ op h => (svc.perform_keeps herror h op).memory) ops

theorem estimates_sound (herror : 0 ≤ svc.settings.kalman.initialError) (ops : List Operation)
    (op : Operation) :
    ∀ x ∈ svc.estimates (svc.memoryAfter ops) op, x.2.Sound svc.settings x.1 := by
  have hkeeps := svc.perform_keeps herror (svc.memoryAfter_within herror ops) op
  unfold Service.estimates
  split
  · rename_i r hr
    exact hkeeps.result r hr
  · intro x hx
    cases hx

/-- After every run, a travel time estimated from a mean, from the last vehicle or by the Kalman
filter lies within the bounds on travel times. So does a dwell time, estimated from a mean or by a
running mean, within the bounds on dwell times when these are not negative. -/
theorem estimates_within_bounds (herror : 0 ≤ svc.settings.kalman.initialError)
    (ops : List Operation) (op : Operation) :
    (∀ e, (.travel, e) ∈ svc.estimates (svc.memoryAfter ops) op →
      e.algorithm = .historicalAverage ∨ e.algorithm = .lastVehicle ∨ e.algorithm = .kalman →
        svc.settings.filters.minTravel ≤ e.millis ∧
          e.millis ≤ svc.settings.filters.maxTravel) ∧
    (0 ≤ svc.settings.filters.minDwell →
      ∀ e, (.dwell, e) ∈ svc.estimates (svc.memoryAfter ops) op →
        e.algorithm = .historicalAverage ∨
          e.algorithm = .dwellModel ∧ svc.settings.dwell.model = .runningMean →
        svc.settings.filters.minDwell ≤ e.millis ∧
          e.millis ≤ svc.settings.filters.maxDwell) := by
  have hsound := svc.estimates_sound herror ops op
  constructor
  · intro e he halgorithm
    apply (hsound _ he).bounds
    rcases halgorithm with h | h | h <;> simp [Settings.RestsOnSamples, h]
  · intro hmin e he halgorithm
    apply (hsound _ he).bounds
    rcases halgorithm with h | ⟨h, hmodel⟩
    · simp [Settings.RestsOnSamples, h]
    · simp [Settings.RestsOnSamples, h, hmodel, hmin]

/-! ### A shuttle between two stops -/

/-- A trip from one stop to another. -/
noncomputable def shuttle : Service ℝ where
  settings :=
    { timezone := "UTC"
      averages := {}
      filters := {}
      kalman := ⟨3, 3, 30, 100, true, 50, 60000⟩
      dwell := ⟨.runningMean, 5, 3 / 4, 3 / 4⟩
      bias := ⟨.none, ⟨1, 0, 0, -1⟩, ⟨0, -1⟩⟩
      holding := {}
      history := {}
      strategy := {}
      server := {}
      schedule := Schedule.ofTrips [⟨"T", "S", false, some 0, ["A", "B"], [0, 90000], [0, 0]⟩] }
  clock := .of ⟨0, [], none⟩ 2 10800
  recorder := .kept

theorem shuttle_fraction : Settings.isFraction (3 / 4 : ℝ) = true := by
  have hpos : Scalar.lt (Scalar.zero : ℝ) (3 / 4) = true := decide_eq_true (by norm_num)
  have hle : Scalar.le (3 / 4) (Scalar.one : ℝ) = true := decide_eq_true (by norm_num)
  rw [Settings.isFraction, hpos, hle]
  rfl

/-- When a vehicle leaves the first stop. -/
def shuttleLeaves : Instant := (Instant.of? 40 0).get rfl

/-- When it is at the other stop, a minute later. -/
def shuttleArrives : Instant := (Instant.of? 100 0).get rfl

/-- One vehicle goes from stop to stop. -/
def shuttleRun : List Operation :=
  [.record shuttleArrives ⟨"1", "T", "S", "A", 0, shuttleLeaves, .departure, none, none⟩,
    .record shuttleArrives ⟨"1", "T", "S", "B", 1, shuttleArrives, .arrival, none, none⟩]

/-- The travel time of the next vehicle is asked for. -/
def shuttleRequest : Operation :=
  .predict "T" 1 .travel ⟨"2", shuttleArrives⟩ ⟨"2", "T", none, none⟩

theorem shuttle_within_bounds :
    0 ≤ shuttle.settings.kalman.initialError ∧
      ∃ e, (.travel, e) ∈ shuttle.estimates (shuttle.memoryAfter shuttleRun) shuttleRequest ∧
        e.algorithm = .historicalAverage ∧ 1000 ≤ e.millis ∧ e.millis ≤ 1200000 := by
  have herror : 0 ≤ shuttle.settings.kalman.initialError := by
    show (0 : ℝ) ≤ 100
    norm_num
  obtain ⟨e, he, halgorithm⟩ :
      ∃ e, shuttle.estimates (shuttle.memoryAfter shuttleRun) shuttleRequest = [(.travel, e)] ∧
        e.algorithm = .historicalAverage := ⟨_, rfl, rfl⟩
  have hmem :
      (.travel, e) ∈ shuttle.estimates (shuttle.memoryAfter shuttleRun) shuttleRequest := by
    rw [he]
    exact List.mem_singleton_self _
  have hbounds := (estimates_within_bounds shuttle herror shuttleRun shuttleRequest).1 e hmem
    (Or.inl halgorithm)
  exact ⟨herror, e, hmem, halgorithm, hbounds⟩

end Service

end Headway
