import Headway.Proofs.Service.Postconditions
import Headway.Service.Prediction

/-!
# The steps of predicting

An estimate reads the memory and answers what the chain of strategies finds. It writes at most the
error of a Kalman estimate, under its own stop path (`Service.memory_estimate`), and only Kalman
estimates carry an error (`Service.find_travel_errorIffKalman`). So an estimate of a dwell time
writes nothing, and what a walk writes under one stop path stays while it goes on
(`Service.get?_walk_succ`).
-/

namespace Headway

variable {R : Type}

/-! ## Parts of a stop prediction -/

theorem horizonTime_eq_ok {start t : Instant} {horizon : Int}
    (h : (horizonTime start horizon : Except (Failure R) Instant) = .ok t) :
    start.addMillis? horizon = some t := by
  unfold horizonTime at h
  cases hsum : start.addMillis? horizon with
  | none =>
    rw [hsum] at h
    cases h
  | some u =>
    rw [hsum] at h
    cases h
    rfl

theorem FilterErrors.get?_write_of_ne [Scalar R] (errors : FilterErrors R) {k k' : PathKey}
    (error : R) (h : k ≠ k') : Table.get? (errors.write k error) k' = Table.get? errors k' := by
  rw [FilterErrors.write, Table.alter, Table.get?_put_of_ne _ _ h]

/-- An estimate carries an error exactly if it is a Kalman estimate. -/
def Estimate.ErrorIffKalman (e : Estimate R) : Prop := e.filterError.isSome ↔ e.algorithm = .kalman

theorem Estimate.ErrorIffKalman.ne_kalman_iff {e : Estimate R} (h : e.ErrorIffKalman) :
    e.algorithm ≠ .kalman ↔ e.filterError = none := by
  rw [← Option.not_isSome_iff_eq_none]
  exact (not_congr h).symm

namespace Service

variable [Scalar R] (svc : Service R) {m : Memory R}

theorem stopPrediction_eq_ok {ctx : Context R} {travel dwell : Estimate R}
    {untilArrival untilDeparture : Int} {stop : StopPrediction R}
    (h : svc.stopPrediction ctx travel dwell untilArrival untilDeparture = .ok stop) :
    stop.travel = travel ∧ stop.dwell = dwell ∧
      ctx.report.time.addMillis? (svc.bias.adjust untilArrival) = some stop.arrival ∧
      ctx.report.time.addMillis? (svc.bias.adjust untilDeparture) = some stop.departure := by
  simp only [stopPrediction] at h
  cases harrival : horizonTime (R := R) ctx.report.time (svc.bias.adjust untilArrival) with
  | error f =>
    rw [harrival] at h
    cases h
  | ok arrival =>
    cases hdeparture : horizonTime (R := R) ctx.report.time (svc.bias.adjust untilDeparture) with
    | error f =>
      rw [harrival, hdeparture] at h
      cases h
    | ok departure =>
      rw [harrival, hdeparture] at h
      cases h
      exact ⟨rfl, rfl, horizonTime_eq_ok harrival, horizonTime_eq_ok hdeparture⟩

/-! ## Previous days -/

omit [Scalar R] in
theorem searchDays_eq_of_get? {a b : Memory R} (h : a.trips.log.get? = b.trips.log.get?)
    (tripId : String) (start : Option Int) (index n : Nat) (day : Day) (found : List Passage) :
    svc.searchDays a tripId start index n day found =
      svc.searchDays b tripId start index n day found := by
  induction n generalizing day found with
  | zero => rfl
  | succ n ih => simp only [searchDays, h, ih]

/-! ## Estimates -/

theorem remember_of_none {ctx : Context R} {e : Estimate R} (h : e.filterError = none) :
    remember m ctx e = m := by
  rw [remember, h]

theorem remember_of_some {ctx : Context R} {e : Estimate R} {error : R}
    (h : e.filterError = some error) :
    remember m ctx e = { m with filterErrors := m.filterErrors.write ctx.path error } := by
  rw [remember, h]

theorem remember_eq (m : Memory R) (ctx : Context R) (e : Estimate R) :
    ∃ errors, remember m ctx e = { m with filterErrors := errors } := by
  unfold remember
  cases e.filterError with
  | none => exact ⟨m.filterErrors, rfl⟩
  | some error => exact ⟨m.filterErrors.write ctx.path error, rfl⟩

theorem get?_remember_of_ne (m : Memory R) {ctx : Context R} (e : Estimate R) {k : PathKey}
    (h : k ≠ ctx.path) :
    Table.get? (remember m ctx e).filterErrors k = Table.get? m.filterErrors k := by
  unfold remember
  cases e.filterError with
  | none => rfl
  | some error => exact m.filterErrors.get?_write_of_ne error (Ne.symm h)

theorem memory_estimate (leg : Leg) (ctx : Context R) (m : Memory R) :
    (svc.estimate leg ctx m).memory = remember m ctx (svc.find m ctx leg).estimate := by
  simp only [estimate]
  cases svc.recordOf ctx leg (svc.find m ctx leg).estimate with
  | error _ => rfl
  | ok _ => rfl

/-- An estimate changes nothing but the record of errors. -/
theorem memory_estimate_filterErrors (leg : Leg) (ctx : Context R) (m : Memory R) :
    ∃ errors, (svc.estimate leg ctx m).memory = { m with filterErrors := errors } := by
  rw [memory_estimate]
  exact remember_eq m ctx _

theorem get?_estimate_of_ne (leg : Leg) {ctx : Context R} (m : Memory R) {k : PathKey}
    (h : k ≠ ctx.path) :
    Table.get? (svc.estimate leg ctx m).memory.filterErrors k = Table.get? m.filterErrors k := by
  rw [memory_estimate, get?_remember_of_ne m _ h]

theorem result_estimate (leg : Leg) (ctx : Context R) (m : Memory R) :
    (svc.estimate leg ctx m).result =
      (orNoLocalTime (svc.recordOf ctx leg (svc.find m ctx leg).estimate)).map
        fun _ => (svc.find m ctx leg).estimate := by
  simp only [estimate]
  cases svc.recordOf ctx leg (svc.find m ctx leg).estimate with
  | error _ => rfl
  | ok _ => rfl

/-- The prediction records of an estimate, none when they cannot be made. -/
theorem records_estimate (leg : Leg) (ctx : Context R) (m : Memory R) :
    (svc.estimate leg ctx m).records =
      match svc.recordOf ctx leg (svc.find m ctx leg).estimate with
      | .ok records => records
      | .error _ => [] := by
  simp only [estimate]
  cases svc.recordOf ctx leg (svc.find m ctx leg).estimate with
  | error _ => rfl
  | ok _ => rfl

theorem result_estimate_eq_ok {leg : Leg} {ctx : Context R} {e : Estimate R}
    (h : (svc.estimate leg ctx m).result = .ok e) : e = (svc.find m ctx leg).estimate := by
  rw [result_estimate] at h
  cases hrecord : svc.recordOf ctx leg (svc.find m ctx leg).estimate with
  | error _ =>
    rw [hrecord] at h
    cases h
  | ok _ =>
    rw [hrecord] at h
    cases h
    rfl

/-! ## Chains -/

theorem findTravel_of_attempts {ctx : Context R} {P : Estimate R → Prop}
    (hschedule : P ctx.scheduledTravel) (hattempt : ∀ s, (svc.attemptTravel m ctx s).Gives P)
    (strategies : List TravelStrategy) : P (svc.findTravel m ctx strategies).estimate := by
  induction strategies with
  | nil => exact hschedule
  | cons s rest ih =>
    unfold findTravel
    simp only
    split
    · rename_i e he
      -- after a Kalman estimate the rest of the chain only adds notices
      split
      · exact hattempt s e he
      · exact hattempt s e he
    · exact ih
    · exact ih

theorem findDwell_of_attempts {ctx : Context R} {P : Estimate R → Prop}
    (hschedule : P ctx.scheduledDwell) (hattempt : ∀ s, (svc.attemptDwell m ctx s).Gives P)
    (strategies : List DwellStrategy) : P (svc.findDwell m ctx strategies).estimate := by
  induction strategies with
  | nil => exact hschedule
  | cons s rest ih =>
    unfold findDwell
    simp only
    split
    · rename_i e he
      exact hattempt s e he
    · exact ih
    · exact ih

/-- What is found is a matter of the attempts. The error carried along a walk plays no other
part. -/
theorem find_travel_congr {a b : Memory R} {ctx : Context R} {carried : Option R}
    (h : ∀ s, svc.attemptTravel a { ctx with carriedError := carried } s =
      svc.attemptTravel b ctx s) :
    svc.find a { ctx with carriedError := carried } .travel = svc.find b ctx .travel := by
  unfold find
  induction svc.travelChain with
  | nil => rfl
  | cons s rest ih =>
    simp only [findTravel, h, ih]
    rfl

theorem find_dwell_congr {a b : Memory R} {ctx : Context R} {carried : Option R}
    (h : ∀ s, svc.attemptDwell a { ctx with carriedError := carried } s =
      svc.attemptDwell b ctx s) :
    svc.find a { ctx with carriedError := carried } .dwell = svc.find b ctx .dwell := by
  unfold find
  induction svc.dwellChain with
  | nil => rfl
  | cons s rest ih =>
    simp only [findDwell, h, ih]
    rfl

/-- A dwell estimate reads no errors, neither those in the memory nor one carried along. -/
theorem find_dwell_of_filterErrors (m : Memory R) (errors : FilterErrors R) (ctx : Context R) :
    svc.find { m with filterErrors := errors } ctx .dwell =
      svc.find m { ctx with carriedError := none } .dwell := by
  symm
  apply svc.find_dwell_congr
  intro s
  cases s with
  | dwellModel => rfl
  | historicalAverage => rfl
  | scheduleDefault => rfl

/-! ## Errors that estimates carry -/

theorem fromMean_filterError (m : Memory R) (ctx : Context R) (leg : Leg) :
    (svc.fromMean m ctx leg).Gives fun e =>
      e.filterError = none ∧ e.algorithm = .historicalAverage := by
  unfold fromMean
  refine Attempt.gives_bind_of_forall fun _ => ?_
  refine Attempt.gives_bind_of_forall fun key => ?_
  refine Attempt.gives_bind_of_forall fun mean => ?_
  refine Attempt.gives_bind_of_forall fun _ => ?_
  exact Attempt.gives_value ⟨rfl, rfl⟩

theorem fromKalman_errorIffKalman (m : Memory R) (ctx : Context R) :
    (svc.fromKalman m ctx).Gives Estimate.ErrorIffKalman := by
  unfold fromKalman
  refine Attempt.gives_bind_of_forall fun last => ?_
  refine Attempt.gives_bind_of_forall fun known => ?_
  refine Attempt.gives_bind_of_forall fun start => ?_
  refine Attempt.gives_bind_of_forall fun days => ?_
  refine Attempt.gives_bind_of_forall fun _ => ?_
  refine Attempt.gives_bind_of_forall fun estimate => ?_
  exact Attempt.gives_value (by simp [Estimate.ErrorIffKalman])

theorem find_travel_errorIffKalman (m : Memory R) (ctx : Context R) :
    (svc.find m ctx .travel).estimate.ErrorIffKalman := by
  have hschedule : ctx.scheduledTravel.ErrorIffKalman := by
    simp [Estimate.ErrorIffKalman, Context.scheduledTravel]
  apply svc.findTravel_of_attempts hschedule
  intro s
  cases s with
  | historicalAverage =>
    intro e he
    obtain ⟨herror, halgorithm⟩ := svc.fromMean_filterError m ctx .travel e he
    simp [Estimate.ErrorIffKalman, herror, halgorithm]
  | lastVehicle =>
    refine Attempt.gives_bind_of_forall fun _ => ?_
    exact Attempt.gives_value (by simp [Estimate.ErrorIffKalman])
  | kalman => exact svc.fromKalman_errorIffKalman m ctx
  | scheduleDefault => exact Attempt.gives_value hschedule

theorem find_dwell_filterError (m : Memory R) (ctx : Context R) :
    (svc.find m ctx .dwell).estimate.filterError = none := by
  apply svc.findDwell_of_attempts (P := fun e => e.filterError = none) rfl
  intro s
  cases s with
  | dwellModel =>
    refine Attempt.gives_bind_of_forall fun _ => ?_
    exact Attempt.gives_bind_of_forall fun _ => Attempt.gives_value rfl
  | historicalAverage => exact fun e he => (svc.fromMean_filterError m ctx .dwell e he).1
  | scheduleDefault => exact Attempt.gives_value rfl

theorem memory_estimate_dwell (ctx : Context R) (m : Memory R) :
    (svc.estimate .dwell ctx m).memory = m := by
  rw [memory_estimate]
  exact remember_of_none (svc.find_dwell_filterError m ctx)

/-! ## Walks -/

variable (trip : Trip) (report : Report) (vehicle : VehicleState)

/-- A walk answers its first stop, and goes on with what the travel estimate for it left. -/
theorem result_walk_succ (n index : Nat) (carried : Option R) (elapsed : Int) (m : Memory R) :
    let first := svc.estimate .travel ⟨trip, index, report, vehicle, carried⟩ m
    (svc.walk trip report vehicle (n + 1) index carried elapsed m).result =
      first.result.bind fun travel =>
        let carried := travel.filterError.or carried
        let untilArrival := saturate (elapsed + travel.millis)
        (svc.estimate .dwell ⟨trip, index, report, vehicle, carried⟩ first.memory).result.bind
          fun dwell =>
            let untilDeparture := saturate (untilArrival + dwell.millis)
            (svc.stopPrediction ⟨trip, index, report, vehicle, carried⟩ travel dwell untilArrival
              untilDeparture).bind fun stop =>
                (svc.walk trip report vehicle n (index + 1) carried untilDeparture
                  first.memory).result.map (stop :: ·) := by
  intro first
  rw [walk, Step.andThen_result]
  congr 1
  funext travel
  rw [Step.andThen_result, memory_estimate_dwell]
  congr 1
  funext dwell
  simp only
  cases svc.stopPrediction ⟨trip, index, report, vehicle, travel.filterError.or carried⟩ travel
    dwell (saturate (elapsed + travel.millis))
      (saturate (saturate (elapsed + travel.millis) + dwell.millis)) with
  | ok stop => rfl
  | error f => rfl

/-- When the first stop of a walk is answered, the walk leaves what the rest of it leaves. -/
theorem memory_walk_succ {n index : Nat} {carried : Option R} {elapsed : Int}
    {travel dwell : Estimate R} {stop : StopPrediction R} {kept : Memory R}
    (hkept : (svc.estimate .travel ⟨trip, index, report, vehicle, carried⟩ m).memory = kept)
    (htravel : (svc.estimate .travel ⟨trip, index, report, vehicle, carried⟩ m).result =
      .ok travel)
    (hdwell : (svc.estimate .dwell ⟨trip, index, report, vehicle, travel.filterError.or carried⟩
      kept).result = .ok dwell)
    (hstop : svc.stopPrediction ⟨trip, index, report, vehicle, travel.filterError.or carried⟩
      travel dwell (saturate (elapsed + travel.millis))
        (saturate (saturate (elapsed + travel.millis) + dwell.millis)) = .ok stop) :
    (svc.walk trip report vehicle (n + 1) index carried elapsed m).memory =
      (svc.walk trip report vehicle n (index + 1) (travel.filterError.or carried)
        (saturate (saturate (elapsed + travel.millis) + dwell.millis)) kept).memory := by
  subst hkept
  rw [walk, Step.andThen_of_ok htravel]
  simp only
  rw [Step.andThen_of_ok hdwell, memory_estimate_dwell, hstop]
  rfl

/-- What every travel estimate for the stop paths of a walk keeps, the walk keeps. -/
theorem memory_walk_of_estimates {I : Memory R → Prop} {first : Nat}
    (hestimate : ∀ index carried m, first ≤ index → I m →
      I (svc.estimate .travel ⟨trip, index, report, vehicle, carried⟩ m).memory)
    (n : Nat) {index : Nat} (hindex : first ≤ index) (carried : Option R) (elapsed : Int)
    (hm : I m) : I (svc.walk trip report vehicle n index carried elapsed m).memory := by
  suffices h : (svc.walk trip report vehicle n index carried elapsed m).Keeps I fun _ => True from
    h.memory
  induction n generalizing index carried elapsed m with
  | zero => exact .done hm trivial
  | succ n ih =>
    apply Step.Keeps.andThen (P := fun _ => True) ⟨hestimate index carried m hindex hm, by simp⟩
    intro travel m hm _
    apply Step.Keeps.andThen (P := fun _ => True) ⟨by rwa [memory_estimate_dwell], by simp⟩
    intro dwell m hm _
    simp only
    split
    · exact (ih (Nat.le_succ_of_le hindex) _ _ hm).map fun _ _ => trivial
    · exact .fail hm _

/-- A walk changes nothing but the record of errors. -/
theorem memory_walk_filterErrors (n index : Nat) (carried : Option R) (elapsed : Int)
    (m : Memory R) : ∃ errors, (svc.walk trip report vehicle n index carried elapsed m).memory =
      { m with filterErrors := errors } := by
  apply svc.memory_walk_of_estimates trip report vehicle _ n (Nat.le_refl index) carried elapsed
    (I := fun kept => ∃ errors, kept = { m with filterErrors := errors }) ⟨m.filterErrors, rfl⟩
  rintro i carried kept - ⟨errors, rfl⟩
  exact svc.memory_estimate_filterErrors .travel ⟨trip, i, report, vehicle, carried⟩
    { m with filterErrors := errors }

/-- A walk keeps the errors of the stop paths before it. -/
theorem get?_walk_of_lt {k : PathKey} (n : Nat) {index : Nat} (hk : k.stopPathIndex < index)
    (carried : Option R) (elapsed : Int) (m : Memory R) :
    Table.get? (svc.walk trip report vehicle n index carried elapsed m).memory.filterErrors k =
      Table.get? m.filterErrors k := by
  apply svc.memory_walk_of_estimates trip report vehicle _ n (Nat.le_refl index) carried elapsed
    (I := fun kept => Table.get? kept.filterErrors k = Table.get? m.filterErrors k) rfl
  intro i carried kept hi hkept
  rw [← hkept]
  apply get?_estimate_of_ne
  rintro rfl
  exact Nat.lt_irrefl _ (Nat.lt_of_lt_of_le hk hi)

/-- What a walk writes for its first stop path is what the travel estimate for it writes. -/
theorem get?_walk_succ {k : PathKey} (n : Nat) {index : Nat} (hk : k.stopPathIndex = index)
    (carried : Option R) (elapsed : Int) (m : Memory R) :
    Table.get? (svc.walk trip report vehicle (n + 1) index carried elapsed m).memory.filterErrors
        k =
      Table.get? (svc.estimate .travel ⟨trip, index, report, vehicle, carried⟩
        m).memory.filterErrors k := by
  generalize hentry : Table.get? (svc.estimate .travel ⟨trip, index, report, vehicle, carried⟩
    m).memory.filterErrors k = entry
  refine Step.Keeps.memory (P := fun _ => True)
    (I := fun kept => Table.get? kept.filterErrors k = entry) ?_
  apply Step.Keeps.andThen (P := fun _ => True) ⟨hentry, by simp⟩
  intro travel m hm _
  apply Step.Keeps.andThen (P := fun _ => True) ⟨by rwa [memory_estimate_dwell], by simp⟩
  intro dwell m hm _
  simp only
  split
  · refine ⟨?_, by simp⟩
    rw [Step.map, svc.get?_walk_of_lt trip report vehicle n (hk ▸ Nat.lt_succ_self _), hm]
  · exact .fail hm _

/-! ## Requests -/

omit trip report vehicle in
/-- A prediction changes nothing but the record of errors. -/
theorem memory_predict (tripId : String) (index : Nat) (leg : Leg) (report : Report)
    (vehicle : VehicleState) (m : Memory R) :
    ∃ errors, (svc.predict tripId index leg report vehicle m).memory =
      { m with filterErrors := errors } := by
  unfold predict
  cases svc.trip? tripId with
  | none => exact ⟨m.filterErrors, rfl⟩
  | some trip => exact svc.memory_estimate_filterErrors leg ⟨trip, index, report, vehicle, none⟩ m

omit trip report vehicle in
/-- So does the prediction of a whole trip. -/
theorem memory_predictTrip (request : TripRequest) (m : Memory R) :
    ∃ errors, (svc.predictTrip request m).memory = { m with filterErrors := errors } := by
  unfold predictTrip
  cases svc.trip? request.vehicle.tripId with
  | none => exact ⟨m.filterErrors, rfl⟩
  | some trip =>
    exact svc.memory_walk_filterErrors trip request.report request.vehicle (request.length trip)
      request.stopPathIndex none 0 m

end Service

end Headway
