import Headway.Proofs.Service.AfterRun
import Headway.Proofs.Service.Answers
import Headway.Proofs.Service.Repeating

/-!
# The Kalman filter is no fallback

The filter starts from the passage of the last vehicle, so where it has a value the last vehicle has
one (`Service.fromLastVehicle_of_fromKalman`). In the order of fallbacks the last vehicle comes
before the filter. A service that does not prefer the filter therefore never answers by it, keeps no
filter errors, and predicts what it would predict without the filter on its chain
(`Service.kalman_only_where_preferred`).
-/

namespace Headway

variable {R : Type}

/-! ## First values -/

namespace IsFirstValue

variable {σ α : Type} {attempt : σ → Attempt R α} {s : σ} {before after rest : List σ} {a b : α}

theorem cons_iff : IsFirstValue attempt (s :: rest) a ↔
    (attempt s).outcome = .ok (some a) ∨
      (∀ b, (attempt s).outcome ≠ .ok (some b)) ∧ IsFirstValue attempt rest a := by
  constructor
  · rintro ⟨before, t, after, htried, ht, hbefore⟩
    cases before with
    | nil =>
      obtain ⟨rfl, -⟩ := List.cons.inj htried
      exact Or.inl ht
    | cons u before =>
      obtain ⟨rfl, rfl⟩ := List.cons.inj htried
      obtain ⟨hs, hbefore⟩ := List.forall_mem_cons.mp hbefore
      exact Or.inr ⟨hs, before, t, after, rfl, ht, hbefore⟩
  · rintro (hs | ⟨hs, hrest⟩)
    · exact head hs
    · exact skip hs hrest

theorem unique (ha : IsFirstValue attempt rest a) (hb : IsFirstValue attempt rest b) : a = b := by
  induction rest with
  | nil =>
    obtain ⟨before, t, after, htried, -⟩ := ha
    simp at htried
  | cons s rest ih =>
    rcases cons_iff.mp ha with ha | ⟨hs, ha⟩
    · rcases cons_iff.mp hb with hb | ⟨hs, -⟩
      · exact Option.some.inj (Except.ok.inj (ha.symm.trans hb))
      · exact absurd ha (hs a)
    · rcases cons_iff.mp hb with hb | ⟨-, hb⟩
      · exact absurd hb (hs b)
      · exact ih ha hb

/-- A first value comes no later than any other value. -/
theorem of_append (h : IsFirstValue attempt (before ++ after) a)
    (hvalue : ∃ t ∈ before, ∃ b, (attempt t).outcome = .ok (some b)) :
    IsFirstValue attempt before a := by
  induction before with
  | nil =>
    obtain ⟨t, ht, -⟩ := hvalue
    cases ht
  | cons s before ih =>
    rcases cons_iff.mp h with hs | ⟨hs, hrest⟩
    · exact head hs
    · obtain ⟨t, ht, b, hb⟩ := hvalue
      rcases List.mem_cons.mp ht with rfl | ht
      · exact absurd hb (hs b)
      · exact skip hs (ih hrest ⟨t, ht, b, hb⟩)

/-- An attempt that has a value only where an earlier one has can be left out. -/
theorem leave_out (h : IsFirstValue attempt (before ++ s :: after) a)
    (hearlier : (∃ b, (attempt s).outcome = .ok (some b)) →
      ∃ t ∈ before, ∃ b, (attempt t).outcome = .ok (some b)) :
    IsFirstValue attempt (before ++ after) a := by
  induction before with
  | nil =>
    rcases cons_iff.mp h with hs | ⟨-, hafter⟩
    · obtain ⟨t, ht, -⟩ := hearlier ⟨a, hs⟩
      cases ht
    · exact hafter
  | cons u before ih =>
    rcases cons_iff.mp h with hu | ⟨hu, hrest⟩
    · exact head hu
    · refine skip hu (ih hrest fun hs => ?_)
      obtain ⟨t, ht, b, hb⟩ := hearlier hs
      rcases List.mem_cons.mp ht with rfl | ht
      · exact absurd hb (hu b)
      · exact ⟨t, ht, b, hb⟩

end IsFirstValue

/-! ## Algorithms of strategies -/

/-- What a strategy names as the algorithm of its estimates. -/
def TravelStrategy.algorithm : TravelStrategy → Algorithm
  | .historicalAverage => .historicalAverage
  | .lastVehicle => .lastVehicle
  | .kalman => .kalman
  | .scheduleDefault => .schedule

theorem TravelStrategy.algorithm_ne_kalman {s : TravelStrategy} (h : s ≠ .kalman) :
    s.algorithm ≠ .kalman := by
  cases s with
  | kalman => exact absurd rfl h
  | _ => decide

namespace Service

variable [Scalar R] (svc : Service R) (m : Memory R) (ctx : Context R)

theorem attemptTravel_algorithm (s : TravelStrategy) :
    (svc.attemptTravel m ctx s).Gives fun e => e.algorithm = s.algorithm := by
  cases s with
  | historicalAverage => exact fun e he => (svc.fromMean_filterError m ctx .travel e he).2
  | lastVehicle => exact Attempt.gives_bind_of_forall fun _ => Attempt.gives_value rfl
  | kalman =>
    refine Attempt.gives_bind_of_forall fun last => ?_
    refine Attempt.gives_bind_of_forall fun known => ?_
    refine Attempt.gives_bind_of_forall fun start => ?_
    refine Attempt.gives_bind_of_forall fun days => ?_
    refine Attempt.gives_bind_of_forall fun _ => ?_
    refine Attempt.gives_bind_of_forall fun estimate => ?_
    exact Attempt.gives_value rfl
  | scheduleDefault => exact Attempt.gives_value rfl

theorem find_dwell_algorithm : (svc.find m ctx .dwell).estimate.algorithm ≠ .kalman := by
  have hschedule : ctx.scheduledDwell.algorithm ≠ .kalman := by simp [Context.scheduledDwell]
  apply svc.findDwell_of_attempts (P := fun e => e.algorithm ≠ .kalman) hschedule
  intro s
  cases s with
  | dwellModel =>
    refine Attempt.gives_bind_of_forall fun _ => ?_
    exact Attempt.gives_bind_of_forall fun _ => Attempt.gives_value (by simp)
  | historicalAverage =>
    intro e he
    simp [(svc.fromMean_filterError m ctx .dwell e he).2]
  | scheduleDefault => exact Attempt.gives_value hschedule

variable {m ctx}

/-- Where the Kalman filter has a value, the last vehicle has one. -/
theorem fromLastVehicle_of_fromKalman {e : Estimate R}
    (h : (svc.fromKalman m ctx).outcome = .ok (some e)) :
    ∃ other, (svc.fromLastVehicle m ctx).outcome = .ok (some other) := by
  obtain ⟨last, hlast, -⟩ := Attempt.exists_of_bind h
  refine ⟨⟨last.millis, .lastVehicle, none⟩, ?_⟩
  show ((svc.lastPassage m ctx).andThen _).outcome = _
  rw [Attempt.andThen, hlast]
  rfl

/-! ## Records -/

variable {svc}

omit [Scalar R] in
theorem exists_record_of_recordOf {leg : Leg} {e : Estimate R} {records : List PredictionRecord}
    (h : svc.recordOf ctx leg e = .ok records) :
    records = [] ∨ ∃ record, records = [record] ∧ record.algorithm = e.algorithm := by
  have hkept (record : PredictionRecord) (hrecord : record.algorithm = e.algorithm) :
      (if svc.recorder = .kept then [record] else []) = [] ∨
        ∃ r, (if svc.recorder = .kept then [record] else []) = [r] ∧
          r.algorithm = e.algorithm := by
    split
    · exact Or.inr ⟨record, rfl, hrecord⟩
    · exact Or.inl rfl
  unfold recordOf at h
  split at h
  · cases hfrequency : ctx.trip.byFrequency with
    | false =>
      rw [hfrequency] at h
      cases h
      exact hkept _ rfl
    | true =>
      cases hbucket : svc.clock.bucket ctx.report.time with
      | error cause =>
        rw [hfrequency, hbucket] at h
        cases h
      | ok bucket =>
        rw [hfrequency, hbucket] at h
        cases h
        exact hkept _ rfl
  · cases h
    exact Or.inl rfl

/-- A prediction record names the algorithm of the estimate that it is of. -/
theorem algorithm_of_mem_records_estimate {leg : Leg} {record : PredictionRecord}
    (h : record ∈ (svc.estimate leg ctx m).records) :
    record.algorithm = (svc.find m ctx leg).estimate.algorithm := by
  rw [records_estimate] at h
  cases hmade : svc.recordOf ctx leg (svc.find m ctx leg).estimate with
  | error cause =>
    rw [hmade] at h
    cases h
  | ok records =>
    rw [hmade] at h
    rcases exists_record_of_recordOf hmade with rfl | ⟨made, rfl, halgorithm⟩
    · cases h
    · rw [List.mem_singleton.mp h, halgorithm]

/-! ## Chains without the filter -/

variable (svc)

omit [Scalar R] in
/-- On a chain that does not start with the filter, the last vehicle comes before it, and nothing
does but the mean, the last vehicle and a schedule that is preferred. -/
theorem travelChain_of_ne (h : svc.settings.strategy.travel ≠ .kalman) :
    ∃ before after, svc.travelChain = before ++ .kalman :: after ∧
      svc.travelChain.filter (· ≠ .kalman) = before ++ after ∧
      .lastVehicle ∈ before ∧ .scheduleDefault ∈ before ++ after ∧
      ∀ s ∈ before, s = .historicalAverage ∨ s = .lastVehicle ∨
        s = .scheduleDefault ∧ svc.settings.strategy.travel = .scheduleDefault := by
  unfold travelChain
  cases hpreferred : svc.settings.strategy.travel with
  | historicalAverage =>
    exact ⟨[.historicalAverage, .lastVehicle], [.scheduleDefault], by decide⟩
  | lastVehicle => exact ⟨[.lastVehicle, .historicalAverage], [.scheduleDefault], by decide⟩
  | kalman => exact absurd hpreferred h
  | scheduleDefault =>
    exact ⟨[.scheduleDefault, .historicalAverage, .lastVehicle], [], by decide⟩

variable (m ctx)

/-- The estimate that the chains find when the Kalman filter is left out. -/
def foundWithoutKalman : Leg → Estimate R
  | .travel => (svc.findTravel m ctx (svc.travelChain.filter (· ≠ .kalman))).estimate
  | .dwell => (svc.findDwell m ctx svc.dwellChain).estimate

variable {svc}

section NotPreferred

variable (h : svc.settings.strategy.travel ≠ .kalman)

include h

theorem find_eq_foundWithoutKalman (leg : Leg) :
    (svc.find m ctx leg).estimate = svc.foundWithoutKalman m ctx leg := by
  cases leg with
  | dwell => rfl
  | travel =>
    obtain ⟨before, after, hchain, hfilter, hlast, hschedule, -⟩ := svc.travelChain_of_ne h
    have hfound : IsFirstValue (svc.attemptTravel m ctx) (before ++ .kalman :: after)
        (svc.find m ctx .travel).estimate := hchain ▸ svc.find_answers m ctx .travel
    have hwithout := svc.findTravel_isFirstValue m ctx hschedule
    rw [foundWithoutKalman, hfilter]
    refine IsFirstValue.unique (hfound.leave_out ?_) hwithout
    rintro ⟨e, he⟩
    exact ⟨.lastVehicle, hlast, svc.fromLastVehicle_of_fromKalman he⟩

theorem find_algorithm_ne_kalman (leg : Leg) :
    (svc.find m ctx leg).estimate.algorithm ≠ .kalman := by
  cases leg with
  | dwell => exact svc.find_dwell_algorithm m ctx
  | travel =>
    obtain ⟨before, after, -, hfilter, -, hschedule, -⟩ := svc.travelChain_of_ne h
    obtain ⟨tried, s, rest, hs, he, -⟩ := svc.findTravel_isFirstValue m ctx hschedule
    have hmem : s ∈ svc.travelChain.filter (· ≠ .kalman) := by
      rw [hfilter, hs]
      simp
    rw [find_eq_foundWithoutKalman m ctx h, foundWithoutKalman, hfilter,
      svc.attemptTravel_algorithm m ctx s _ he]
    exact TravelStrategy.algorithm_ne_kalman (by simpa using (List.mem_filter.mp hmem).2)

/-- Where the filter has a value the mean or the last vehicle decides, or a schedule that is
preferred to all others. -/
theorem find_of_fromKalman {e : Estimate R}
    (he : (svc.fromKalman m ctx).outcome = .ok (some e)) :
    ∃ s, (s = .historicalAverage ∨ s = .lastVehicle ∨
        s = .scheduleDefault ∧ svc.settings.strategy.travel = .scheduleDefault) ∧
      (svc.attemptTravel m ctx s).outcome = .ok (some (svc.find m ctx .travel).estimate) := by
  obtain ⟨before, after, hchain, -, hlast, -, hbefore⟩ := svc.travelChain_of_ne h
  have hfound : IsFirstValue (svc.attemptTravel m ctx) (before ++ .kalman :: after)
      (svc.find m ctx .travel).estimate := hchain ▸ svc.find_answers m ctx .travel
  obtain ⟨tried, s, rest, hs, hvalue, -⟩ :=
    hfound.of_append ⟨.lastVehicle, hlast, svc.fromLastVehicle_of_fromKalman he⟩
  exact ⟨s, hbefore s (hs ▸ by simp), hvalue⟩

/-! ## Predictions -/

theorem records_estimate_of_ne (leg : Leg) :
    ∀ record ∈ (svc.estimate leg ctx m).records, record.algorithm ≠ .kalman := by
  intro record hrecord
  rw [algorithm_of_mem_records_estimate hrecord]
  exact find_algorithm_ne_kalman m ctx h leg

theorem records_walk_of_ne (trip : Trip) (report : Report) (vehicle : VehicleState)
    (n index : Nat) (carried : Option R) (elapsed : Int) :
    ∀ record ∈ (svc.walk trip report vehicle n index carried elapsed m).records,
      record.algorithm ≠ .kalman := by
  induction n generalizing index carried elapsed m with
  | zero =>
    intro record hrecord
    cases hrecord
  | succ n ih =>
    intro record hrecord
    rcases Step.mem_records_andThen hrecord with hrecord | ⟨travel, m, hrecord⟩
    · exact records_estimate_of_ne m _ h .travel record hrecord
    · rcases Step.mem_records_andThen hrecord with hrecord | ⟨dwell, m, hrecord⟩
      · exact records_estimate_of_ne m _ h .dwell record hrecord
      · simp only at hrecord
        split at hrecord
        · exact ih m _ _ _ record hrecord
        · cases hrecord

/-- Without a preference for the filter an estimate changes nothing, and it is the one that the
chains find without the filter. -/
theorem estimate_keeps_of_ne (leg : Leg) :
    (svc.estimate leg ctx m).Keeps (· = m) fun e =>
      e = svc.foundWithoutKalman m ctx leg ∧ e.algorithm ≠ .kalman ∧ e.filterError = none := by
  have halgorithm := find_algorithm_ne_kalman m ctx h leg
  have herror : (svc.find m ctx leg).estimate.filterError = none := by
    cases leg with
    | dwell => exact svc.find_dwell_filterError m ctx
    | travel => exact (svc.find_travel_errorIffKalman m ctx).ne_kalman_iff.mp halgorithm
  constructor
  · rw [memory_estimate]
    exact remember_of_none herror
  · intro e he
    rw [svc.result_estimate_eq_ok he]
    exact ⟨find_eq_foundWithoutKalman m ctx h leg, halgorithm, herror⟩

variable (svc) in
/-- The estimates for a stop are those that the chains find without the Kalman filter. -/
structure StopWithoutKalman (m : Memory R) (trip : Trip) (report : Report)
    (vehicle : VehicleState) (stop : StopPrediction R) : Prop where
  travel : stop.travel =
    svc.foundWithoutKalman m ⟨trip, stop.stopPathIndex, report, vehicle, none⟩ .travel
  dwell : stop.dwell =
    svc.foundWithoutKalman m ⟨trip, stop.stopPathIndex, report, vehicle, none⟩ .dwell
  algorithm_ne : stop.travel.algorithm ≠ .kalman

theorem walk_keeps_of_ne (trip : Trip) (report : Report) (vehicle : VehicleState)
    (n index : Nat) (elapsed : Int) :
    (svc.walk trip report vehicle n index none elapsed m).Keeps (· = m) fun stops =>
      ∀ stop ∈ stops, svc.StopWithoutKalman m trip report vehicle stop := by
  induction n generalizing index elapsed with
  | zero =>
    refine Step.Keeps.done (I := (· = m)) rfl ?_
    intro stop hstop
    cases hstop
  | succ n ih =>
    apply (estimate_keeps_of_ne m _ h .travel).andThen
    rintro travel kept rfl ⟨htravel, halgorithm, herror⟩
    rw [herror]
    apply (estimate_keeps_of_ne _ _ h .dwell).andThen
    rintro dwell kept rfl ⟨hdwell, -, -⟩
    simp only
    rcases svc.stopPrediction_ok_or_outOfRange ⟨trip, index, report, vehicle, none⟩ travel dwell
        (saturate (elapsed + travel.millis))
        (saturate (saturate (elapsed + travel.millis) + dwell.millis)) with
      ⟨stop, hstop, rfl, rfl, rfl⟩ | ⟨ms, hstop, -⟩
    · simp only [Option.none_or, hstop]
      apply (ih _ _).map
      intro stops hstops
      exact List.forall_mem_cons.mpr ⟨⟨htravel, hdwell, halgorithm⟩, hstops⟩
    · simp only [Option.none_or, hstop]
      exact Step.Keeps.fail (I := (· = kept)) rfl _

theorem predict_keeps_of_ne (tripId : String) (index : Nat) (leg : Leg) (report : Report)
    (vehicle : VehicleState) :
    (svc.predict tripId index leg report vehicle m).Keeps (· = m) fun e =>
      e.algorithm ≠ .kalman ∧ ∀ trip, svc.trip? tripId = some trip →
        e = svc.foundWithoutKalman m ⟨trip, index, report, vehicle, none⟩ leg := by
  unfold predict
  cases svc.trip? tripId with
  | none =>
    apply (Step.Keeps.notify (I := (· = m)) rfl _).map
    intro _ _
    exact ⟨by simp, by simp⟩
  | some trip =>
    obtain ⟨hmemory, hresult⟩ := estimate_keeps_of_ne m ⟨trip, index, report, vehicle, none⟩ h leg
    refine ⟨hmemory, fun e he => ?_⟩
    obtain ⟨hfound, halgorithm, -⟩ := hresult e he
    refine ⟨halgorithm, fun other hother => ?_⟩
    obtain rfl := Option.some.inj hother
    exact hfound

theorem predictTrip_keeps_of_ne (request : TripRequest) :
    (svc.predictTrip request m).Keeps (· = m) fun p =>
      ∃ trip, svc.trip? request.vehicle.tripId = some trip ∧
        ∀ stop ∈ p.stops, svc.StopWithoutKalman m trip request.report request.vehicle stop := by
  unfold predictTrip
  cases svc.trip? request.vehicle.tripId with
  | none => exact Step.Keeps.fail (I := (· = m)) rfl _
  | some trip =>
    apply (walk_keeps_of_ne m h trip request.report request.vehicle _ _ _).map
    intro stops hstops
    exact ⟨trip, rfl, hstops⟩

theorem records_predict_of_ne (tripId : String) (index : Nat) (leg : Leg) (report : Report)
    (vehicle : VehicleState) :
    ∀ record ∈ (svc.predict tripId index leg report vehicle m).records,
      record.algorithm ≠ .kalman := by
  intro record hrecord
  unfold predict at hrecord
  cases htrip : svc.trip? tripId with
  | none =>
    rw [htrip] at hrecord
    cases hrecord
  | some trip =>
    rw [htrip] at hrecord
    exact records_estimate_of_ne m _ h leg record hrecord

theorem records_predictTrip_of_ne (request : TripRequest) :
    ∀ record ∈ (svc.predictTrip request m).records, record.algorithm ≠ .kalman := by
  intro record hrecord
  unfold predictTrip at hrecord
  cases htrip : svc.trip? request.vehicle.tripId with
  | none =>
    rw [htrip] at hrecord
    cases hrecord
  | some trip =>
    rw [htrip] at hrecord
    exact records_walk_of_ne m h trip request.report request.vehicle _ _ _ _ record hrecord

/-! ## Runs -/

theorem filterErrors_perform_of_ne (op : Operation) :
    (svc.perform m op).memory.filterErrors = m.filterErrors := by
  cases hop : op.predicts with
  | false => exact svc.filterErrors_perform m hop
  | true =>
    cases op with
    | predict tripId index leg report vehicle =>
      exact congrArg Memory.filterErrors
        (predict_keeps_of_ne m h tripId index leg report vehicle).memory
    | predictTrip request =>
      exact congrArg Memory.filterErrors (predictTrip_keeps_of_ne m h request).memory
    | _ => cases hop

end NotPreferred

/-- When the Kalman filter is not preferred, no run leaves a filter error, and after every run
predictions change nothing. No estimate and no prediction record is by Kalman, and each estimate is
the one that the chains find when the filter is left out. For a travel time that the filter has a
value for, the last vehicle has one too, and the mean or the last vehicle decides, or a schedule
that is preferred to both. -/
theorem kalman_only_where_preferred (h : svc.settings.strategy.travel ≠ .kalman)
    (ops : List Operation) :
    let m := svc.memoryAfter ops
    m.filterErrors = Table.empty ∧
    (∀ tripId index leg report vehicle,
      let step := svc.predict tripId index leg report vehicle m
      step.memory = m ∧ (∀ record ∈ step.records, record.algorithm ≠ .kalman) ∧
      ∀ e, step.result = .ok e → e.algorithm ≠ .kalman ∧
        ∀ trip, svc.trip? tripId = some trip →
          e = svc.foundWithoutKalman m ⟨trip, index, report, vehicle, none⟩ leg) ∧
    (∀ request : TripRequest,
      let step := svc.predictTrip request m
      step.memory = m ∧ (∀ record ∈ step.records, record.algorithm ≠ .kalman) ∧
      ∀ p, step.result = .ok p → ∃ trip, svc.trip? request.vehicle.tripId = some trip ∧
        ∀ stop ∈ p.stops, svc.StopWithoutKalman m trip request.report request.vehicle stop) ∧
    ∀ ctx e, (svc.fromKalman m ctx).outcome = .ok (some e) →
      (∃ other, (svc.fromLastVehicle m ctx).outcome = .ok (some other)) ∧
      ∃ s, (s = .historicalAverage ∨ s = .lastVehicle ∨
          s = .scheduleDefault ∧ svc.settings.strategy.travel = .scheduleDefault) ∧
        (svc.attemptTravel m ctx s).outcome = .ok (some (svc.find m ctx .travel).estimate) := by
  intro m
  refine ⟨?_, ?_, ?_, ?_⟩
  · apply svc.memoryAfter_of_steps (P := fun m => m.filterErrors = Table.empty) rfl
    intro m op hm
    rw [filterErrors_perform_of_ne m h, hm]
  · intro tripId index leg report vehicle
    obtain ⟨hmemory, hresult⟩ := predict_keeps_of_ne m h tripId index leg report vehicle
    exact ⟨hmemory, records_predict_of_ne m h tripId index leg report vehicle, hresult⟩
  · intro request
    obtain ⟨hmemory, hresult⟩ := predictTrip_keeps_of_ne m h request
    exact ⟨hmemory, records_predictTrip_of_ne m h request, hresult⟩
  · intro ctx e he
    exact ⟨svc.fromLastVehicle_of_fromKalman he, find_of_fromKalman m ctx h he⟩

/-! ### A filter that is not preferred -/

/-- The two trips between two stops, where the mean is preferred and estimates are recorded. -/
noncomputable def meanPreferred : Service ℝ :=
  { filtered with
    settings := { filtered.settings with strategy := { recordTravel := true } } }

/-- The filter has a value after three days, and the mean of the first two is answered. -/
theorem kalman_only_where_preferred_mean :
    let m := meanPreferred.memoryAfter (threeDays "U")
    meanPreferred.settings.strategy.travel ≠ .kalman ∧
      (∃ e, (meanPreferred.fromKalman m nextContext).outcome = .ok (some e)) ∧
      (∃ other, (meanPreferred.fromLastVehicle m nextContext).outcome = .ok (some other)) ∧
      ∃ e, (meanPreferred.predict "T" 1 .travel nextReport nextVehicle m).result = .ok e ∧
        e.algorithm = .historicalAverage ∧
        e = meanPreferred.foundWithoutKalman m nextContext .travel ∧
        (meanPreferred.predict "T" 1 .travel nextReport nextVehicle m).records.map
          PredictionRecord.algorithm = [.historicalAverage] := by
  intro m
  have hpreferred : meanPreferred.settings.strategy.travel ≠ .kalman := by decide
  obtain ⟨-, hpredict, -, hdata⟩ := kalman_only_where_preferred hpreferred (threeDays "U")
  obtain ⟨e, he⟩ : ∃ e, (meanPreferred.fromKalman m nextContext).outcome = .ok (some e) :=
    ⟨_, rfl⟩
  obtain ⟨answer, hanswer, halgorithm⟩ : ∃ e,
      (meanPreferred.predict "T" 1 .travel nextReport nextVehicle m).result = .ok e ∧
        e.algorithm = .historicalAverage := ⟨_, rfl, rfl⟩
  refine ⟨hpreferred, ⟨e, he⟩, (hdata nextContext e he).1, answer, hanswer, halgorithm, ?_, rfl⟩
  exact ((hpredict "T" 1 .travel nextReport nextVehicle).2.2 answer hanswer).2 (regular "T") rfl

end Service

end Headway
