import Headway.Proofs.Service.Fallback
import Headway.Proofs.Service.Walk

/-!
# The errors of the filter

A Kalman estimate starts from an error and leaves one. On a walk it starts from the error of the
nearest Kalman estimate before it, whatever answered in between; else from the one on record for
the trip of the last vehicle at its stop path; else from the initial one (`Service.StartsFrom`).
All else that it reads is read from the memory before the walk, since what the walk writes on its
way stands under other stop paths (`Service.travel_of_append`).

The errors that are left stand under the trip that is asked about, and only where an estimate is by
Kalman (`Service.LeavesErrors`). They are finite after every run, also when the initial error is
not: the filter fails before it gives an error that is not finite (`Service.error_chain`).
-/

namespace Headway

variable {R : Type}

/-! ## Errors carried along -/

/-- The error carried past some estimates is that of the last one that has an error, if one has. -/
theorem carriedPast_cases (carried : Option R) (estimates : List (Estimate R)) :
    (∃ earlier e between, estimates = earlier ++ e :: between ∧ e.filterError.isSome ∧
      carriedPast carried estimates = e.filterError ∧ ∀ x ∈ between, x.filterError = none) ∨
    (∀ x ∈ estimates, x.filterError = none) ∧ carriedPast carried estimates = carried := by
  induction estimates generalizing carried with
  | nil => exact Or.inr ⟨nofun, rfl⟩
  | cons first rest ih =>
    rcases ih (first.filterError.or carried) with
      ⟨earlier, e, between, rfl, hsome, hcarried, hbetween⟩ | ⟨hrest, hcarried⟩
    · exact Or.inl ⟨first :: earlier, e, between, rfl, hsome, hcarried, hbetween⟩
    · cases herror : first.filterError with
      | none =>
        refine Or.inr ⟨List.forall_mem_cons.mpr ⟨herror, hrest⟩, ?_⟩
        rw [herror] at hcarried
        simpa [carriedPast, herror] using hcarried
      | some error =>
        refine Or.inl ⟨[], first, rest, rfl, by rw [herror]; rfl, ?_, hrest⟩
        rw [herror] at hcarried ⊢
        simpa [carriedPast, herror] using hcarried

/-! ## Errors on record -/

variable [Scalar R]

/-- An entry shows an error: it holds the error, or one that is equal to it as a number. -/
def FilterError.Shows (entry : FilterError R) (error : R) : Prop :=
  entry.error = error ∨ Scalar.eq entry.error error = true

/-- All errors on record are finite. -/
def FilterErrors.Finite (errors : FilterErrors R) : Prop :=
  ∀ k entry, Table.get? errors k = some entry → Scalar.isFinite entry.error = true

namespace FilterErrors

theorem get?_write_self (errors : FilterErrors R) (k : PathKey) (error : R) :
    ∃ entry, Table.get? (errors.write k error) k = some entry ∧ entry.Shows error := by
  refine ⟨_, Table.get?_put_self _ _ _, ?_⟩
  unfold updated
  cases Table.get? errors k with
  | none => exact Or.inl rfl
  | some old =>
    simp only
    split
    · rename_i hsame
      exact Or.inr hsame
    · exact Or.inl rfl

theorem Finite.write {errors : FilterErrors R} (h : Finite errors) (k : PathKey) {error : R}
    (herror : Scalar.isFinite error = true) : Finite (errors.write k error) := by
  intro k' entry hentry
  by_cases hk : k = k'
  · subst hk
    rw [FilterErrors.write, Table.alter, Table.get?_put_self, Option.some.injEq] at hentry
    subst hentry
    unfold updated
    cases hold : Table.get? errors k with
    | none => exact herror
    | some old =>
      simp only
      split
      · exact h k old hold
      · exact herror
  · rw [get?_write_of_ne errors error hk] at hentry
    exact h k' entry hentry

end FilterErrors

/-- What some travel estimates for stop paths of a trip leave: the error of each Kalman estimate
stands under its stop path, and everything else on record is as before. -/
structure LeavesErrors (tripId : String) (travels : List (Nat × Estimate R))
    (before after : FilterErrors R) : Prop where
  written : ∀ x ∈ travels, x.2.algorithm = .kalman → ∃ error entry,
    x.2.filterError = some error ∧ Table.get? after ⟨tripId, x.1⟩ = some entry ∧ entry.Shows error
  kept : ∀ k, (∀ x ∈ travels, x.2.algorithm = .kalman → k ≠ ⟨tripId, x.1⟩) →
    Table.get? after k = Table.get? before k

namespace LeavesErrors

variable {tripId : String} {before mid after : FilterErrors R}

theorem nil : LeavesErrors tripId [] before before where
  written := nofun
  kept _ _ := rfl

/-- What is left for later stop paths stays away from what is left for the first. -/
theorem cons {index : Nat} {e : Estimate R} {rest : List (Nat × Estimate R)}
    (hfirst : LeavesErrors tripId [(index, e)] before mid)
    (hrest : LeavesErrors tripId rest mid after) (hlater : ∀ x ∈ rest, index < x.1) :
    LeavesErrors tripId ((index, e) :: rest) before after where
  written := by
    refine List.forall_mem_cons.mpr ⟨?_, hrest.written⟩
    intro hkalman
    obtain ⟨error, entry, herror, hentry, hshows⟩ :=
      hfirst.written (index, e) (List.mem_singleton_self _) hkalman
    refine ⟨error, entry, herror, ?_, hshows⟩
    rw [hrest.kept, hentry]
    intro x hx _ hsame
    exact Nat.ne_of_lt (hlater x hx) (congrArg PathKey.stopPathIndex hsame)
  kept k hk := by
    obtain ⟨hne, hothers⟩ := List.forall_mem_cons.mp hk
    rw [hrest.kept k hothers, hfirst.kept k]
    intro x hx
    rw [List.mem_singleton.mp hx]
    exact hne

end LeavesErrors

/-! ## Steps of the filter -/

theorem Kalman.isFinite_of_step {useAverage : Bool} {last : Traversal} {days : List Traversal}
    {error : R} {estimate : KalmanEstimate R}
    (h : Kalman.step useAverage last days error = .ok (some estimate)) :
    Scalar.isFinite estimate.filterError = true := by
  cases days with
  | nil => cases h
  | cons t rest =>
    obtain ⟨durations, -, h⟩ := exists_of_bind_eq_ok h
    obtain ⟨lastDuration, -, h⟩ := exists_of_bind_eq_ok h
    simp only at h
    split at h
    · rename_i hfinite
      cases h
      exact (Bool.and_eq_true_iff.mp hfinite).2
    · cases h

namespace Service

variable (svc : Service R)

/-- A travel estimate is one step of the filter from an error, over the passage of the last vehicle
and the passages of the same run on previous days. -/
def IsFilterStep (m : Memory R) (ctx : Context R) (last : Passage) (error : R)
    (travel : Estimate R) : Prop :=
  ∃ start days estimate,
    TripHistory.runStart svc.clock ctx.trip ctx.vehicle.runStart = .ok (some start) ∧
    (svc.previousPassages m ctx start).outcome = .ok (some days) ∧
    svc.settings.kalman.minDays ≤ days.length ∧
    Kalman.step svc.settings.kalman.useAverage last.traversal (days.map Passage.traversal) error =
      .ok (some estimate) ∧
    travel = ⟨Scalar.truncate estimate.result, .kalman, some estimate.filterError⟩

/-- The error from which an estimate on a walk starts: that of the nearest Kalman estimate before
it, else the one on record for a stop path, else the initial one. -/
inductive StartsFrom (errors : FilterErrors R) (before : List (Estimate R)) (k : PathKey) : R → Prop
  | carried {earlier between : List (Estimate R)} {e : Estimate R} {error : R}
      (hbefore : before = earlier ++ e :: between) (hkalman : e.algorithm = .kalman)
      (herror : e.filterError = some error) (hnearest : ∀ x ∈ between, x.algorithm ≠ .kalman) :
      StartsFrom errors before k error
  | onRecord {entry : FilterError R} (hbefore : ∀ x ∈ before, x.algorithm ≠ .kalman)
      (hentry : Table.get? errors k = some entry) : StartsFrom errors before k entry.error
  | initial (hbefore : ∀ x ∈ before, x.algorithm ≠ .kalman) (hnone : Table.get? errors k = none) :
      StartsFrom errors before k svc.settings.kalman.initialError

variable {m : Memory R} {ctx : Context R}

theorem fromKalman_eq_some {e : Estimate R} (h : (svc.fromKalman m ctx).outcome = .ok (some e)) :
    ∃ last, (svc.lastPassage m ctx).outcome = .ok (some last) ∧
      svc.IsFilterStep m ctx last (svc.startingError m ctx last) e := by
  obtain ⟨last, hlast, h⟩ := Attempt.exists_of_bind h
  obtain ⟨known, hknown, h⟩ := Attempt.exists_of_bind h
  obtain ⟨start, hstart, h⟩ := Attempt.exists_of_bind h
  obtain ⟨days, hdays, h⟩ := Attempt.exists_of_bind h
  obtain ⟨_, henough, h⟩ := Attempt.exists_of_bind h
  obtain ⟨estimate, hstep, h⟩ := Attempt.exists_of_bind h
  have hrun := Attempt.gives_ofLocal (P := (TripHistory.runStart _ _ _ = .ok ·)) (fun _ h => h)
    known hknown
  rw [Except.ok.inj hstart] at hrun
  have hmin := of_decide_eq_true (Attempt.gives_guard _ () henough)
  exact ⟨last, hlast, start, days, estimate, hrun, hdays, hmin, hstep,
    (Option.some.inj (Except.ok.inj h)).symm⟩

/-- An estimate by Kalman is the value of the filter. -/
theorem fromKalman_of_find (h : (svc.find m ctx .travel).estimate.algorithm = .kalman) :
    (svc.fromKalman m ctx).outcome = .ok (some (svc.find m ctx .travel).estimate) := by
  obtain ⟨before, s, after, -, hvalue, -⟩ := svc.find_answers m ctx .travel
  have halgorithm : Algorithm.kalman = s.algorithm :=
    h.symm.trans (svc.attemptTravel_algorithm m ctx s _ hvalue)
  cases s with
  | kalman => exact hvalue
  | _ => cases halgorithm

/-! ## Estimates leave finite errors -/

variable (m ctx)

theorem find_isFinite (leg : Leg) {error : R}
    (h : (svc.find m ctx leg).estimate.filterError = some error) :
    Scalar.isFinite error = true := by
  cases leg with
  | dwell =>
    rw [svc.find_dwell_filterError] at h
    cases h
  | travel =>
    have hkalman := (svc.find_travel_errorIffKalman m ctx).mp (Option.isSome_of_eq_some h)
    obtain ⟨last, -, start, days, estimate, -, -, -, hstep, he⟩ :=
      svc.fromKalman_eq_some (svc.fromKalman_of_find hkalman)
    rw [he] at h
    cases h
    exact Kalman.isFinite_of_step hstep

theorem finite_estimate (leg : Leg) (hm : m.filterErrors.Finite) :
    (svc.estimate leg ctx m).memory.filterErrors.Finite := by
  rw [memory_estimate]
  cases herror : (svc.find m ctx leg).estimate.filterError with
  | none =>
    rw [remember_of_none herror]
    exact hm
  | some error =>
    rw [remember_of_some herror]
    exact hm.write ctx.path (svc.find_isFinite m ctx leg herror)

theorem finite_perform (op : Operation) (hm : m.filterErrors.Finite) :
    (svc.perform m op).memory.filterErrors.Finite := by
  cases hop : op.predicts with
  | false =>
    rw [svc.filterErrors_perform m hop]
    exact hm
  | true =>
    cases op with
    | predict tripId index leg report vehicle =>
      show (svc.predict tripId index leg report vehicle m).memory.filterErrors.Finite
      unfold predict
      cases svc.trip? tripId with
      | none => exact hm
      | some trip => exact svc.finite_estimate m _ leg hm
    | predictTrip request =>
      show (svc.predictTrip request m).memory.filterErrors.Finite
      unfold predictTrip
      cases svc.trip? request.vehicle.tripId with
      | none => exact hm
      | some trip =>
        exact svc.memory_walk_of_estimates trip request.report request.vehicle
          (I := fun m => m.filterErrors.Finite)
          (fun _ _ m _ hm => svc.finite_estimate m _ .travel hm) _ (Nat.le_refl _) _ _ hm
    | _ => cases hop

theorem finite_memoryAfter (ops : List Operation) : (svc.memoryAfter ops).filterErrors.Finite := by
  apply svc.memoryAfter_of_steps (P := fun m => m.filterErrors.Finite)
  · intro k entry hentry
    cases hentry
  · exact svc.finite_perform

/-! ## What predictions leave -/

theorem leavesErrors_remember {e : Estimate R} (he : e.ErrorIffKalman) :
    LeavesErrors ctx.trip.tripId [(ctx.stopPathIndex, e)] m.filterErrors
      (remember m ctx e).filterErrors := by
  cases herror : e.filterError with
  | none =>
    have hother := he.ne_kalman_iff.mpr herror
    rw [remember_of_none herror]
    refine ⟨?_, fun _ _ => rfl⟩
    intro x hx hkalman
    rw [List.mem_singleton.mp hx] at hkalman
    exact absurd hkalman hother
  | some error =>
    have hkalman := he.mp (Option.isSome_of_eq_some herror)
    rw [remember_of_some herror]
    constructor
    · intro x hx _
      obtain ⟨entry, hentry, hshows⟩ := m.filterErrors.get?_write_self ctx.path error
      rw [List.mem_singleton.mp hx]
      exact ⟨error, entry, herror, hentry, hshows⟩
    · intro k hk
      exact m.filterErrors.get?_write_of_ne error
        (Ne.symm (hk _ (List.mem_singleton_self _) hkalman))

theorem find_errorIffKalman (leg : Leg) : (svc.find m ctx leg).estimate.ErrorIffKalman := by
  cases leg with
  | travel => exact svc.find_travel_errorIffKalman m ctx
  | dwell =>
    rw [Estimate.ErrorIffKalman, svc.find_dwell_filterError]
    simpa using svc.find_dwell_algorithm m ctx

theorem leavesErrors_estimate (leg : Leg) :
    LeavesErrors ctx.trip.tripId [(ctx.stopPathIndex, (svc.find m ctx leg).estimate)]
      m.filterErrors (svc.estimate leg ctx m).memory.filterErrors := by
  rw [memory_estimate]
  exact leavesErrors_remember m ctx (svc.find_errorIffKalman m ctx leg)

variable (trip : Trip) (report : Report) (vehicle : VehicleState)

/-- A walk keeps the error of its first travel estimate, and then it fails or does what the rest of
it does. -/
theorem walk_succ_cases (n index : Nat) (carried : Option R) (elapsed : Int) :
    let travel := (svc.find m ⟨trip, index, report, vehicle, carried⟩ .travel).estimate
    let kept := remember m ⟨trip, index, report, vehicle, carried⟩ travel
    let whole := svc.walk trip report vehicle (n + 1) index carried elapsed m
    (whole.memory = kept ∧ ∃ f, whole.result = .error f) ∨
      ∃ later stop,
        let rest := svc.walk trip report vehicle n (index + 1) (travel.filterError.or carried)
          later kept
        whole.memory = rest.memory ∧ whole.result = rest.result.map (stop :: ·) := by
  intro travel kept whole
  have hkept : (svc.estimate .travel ⟨trip, index, report, vehicle, carried⟩ m).memory = kept :=
    svc.memory_estimate .travel _ m
  cases htravel : (svc.estimate .travel ⟨trip, index, report, vehicle, carried⟩ m).result with
  | error f =>
    have hwhole : whole = _ := Step.andThen_of_error htravel _
    exact Or.inl ⟨by rw [hwhole, ← hkept], f, by rw [hwhole]⟩
  | ok found =>
    obtain rfl : found = travel := svc.result_estimate_eq_ok htravel
    have hwhole : whole = _ := Step.andThen_of_ok htravel _
    simp only [hkept] at hwhole
    cases hdwell : (svc.estimate .dwell ⟨trip, index, report, vehicle,
      travel.filterError.or carried⟩ kept).result with
    | error f =>
      rw [Step.andThen_of_error hdwell, memory_estimate_dwell] at hwhole
      exact Or.inl ⟨by rw [hwhole], f, by rw [hwhole]⟩
    | ok dwell =>
      rw [Step.andThen_of_ok hdwell, memory_estimate_dwell] at hwhole
      cases hstop : svc.stopPrediction ⟨trip, index, report, vehicle,
        travel.filterError.or carried⟩ travel dwell (saturate (elapsed + travel.millis))
          (saturate (saturate (elapsed + travel.millis) + dwell.millis)) with
      | error f =>
        simp only [hstop] at hwhole
        exact Or.inl ⟨by rw [hwhole]; rfl, f, by rw [hwhole]; rfl⟩
      | ok stop =>
        simp only [hstop] at hwhole
        exact Or.inr ⟨_, stop, by rw [hwhole]; rfl, by rw [hwhole]; rfl⟩

/-- The travel estimates along a walk, each with its stop path index. -/
def travelsAlong (n index : Nat) (carried : Option R) (m : Memory R) : List (Nat × Estimate R) :=
  (svc.estimatesAlong trip report vehicle n index carried m).map fun e =>
    (e.stopPathIndex, e.travel)

/-- A walk leaves the errors of its travel estimates, up to the last one if it fails. -/
theorem leavesErrors_walk (n index : Nat) (carried : Option R) (elapsed : Int) :
    ∃ walked ≤ n,
      LeavesErrors trip.tripId (svc.travelsAlong trip report vehicle walked index carried m)
        m.filterErrors (svc.walk trip report vehicle n index carried elapsed m).memory.filterErrors ∧
      (walked = n ∨
        ∃ f, (svc.walk trip report vehicle n index carried elapsed m).result = .error f) := by
  induction n generalizing index carried elapsed m with
  | zero => exact ⟨0, Nat.le_refl 0, .nil, Or.inl rfl⟩
  | succ n ih =>
    have hfirst := leavesErrors_remember m ⟨trip, index, report, vehicle, carried⟩
      (svc.find_travel_errorIffKalman m ⟨trip, index, report, vehicle, carried⟩)
    rcases svc.walk_succ_cases m trip report vehicle n index carried elapsed with
      ⟨hmemory, hfails⟩ | ⟨later, stop, hmemory, hresult⟩
    · exact ⟨1, Nat.succ_le_succ (Nat.zero_le n), hmemory ▸ hfirst, Or.inr hfails⟩
    · obtain ⟨walked, hwalked, hrest, hend⟩ := ih _ (index + 1) _ later
      refine ⟨walked + 1, Nat.succ_le_succ hwalked, ?_, ?_⟩
      · rw [hmemory]
        refine hfirst.cons hrest ?_
        intro x hx
        obtain ⟨e, he, rfl⟩ := List.mem_map.mp hx
        have hindex := List.mem_map_of_mem (f := StopEstimates.stopPathIndex) he
        rw [map_stopPathIndex_estimatesAlong] at hindex
        exact (List.mem_range'_1.mp hindex).1
      · rw [hresult]
        exact hend.imp (congrArg Nat.succ) fun ⟨f, hf⟩ => ⟨f, map_eq_error_iff.mpr hf⟩

variable {trip}

theorem predict_leavesErrors {tripId : String} (htrip : svc.trip? tripId = some trip) (index : Nat)
    (leg : Leg) :
    let e := (svc.find m ⟨trip, index, report, vehicle, none⟩ leg).estimate
    let step := svc.predict tripId index leg report vehicle m
    (∃ errors, step.memory = { m with filterErrors := errors } ∧
      LeavesErrors trip.tripId [(index, e)] m.filterErrors errors) ∧
    ∀ answer, step.result = .ok answer → answer = e := by
  intro e step
  have hstep : step = svc.estimate leg ⟨trip, index, report, vehicle, none⟩ m := by
    simp only [step, predict, htrip]
  obtain ⟨errors, herrors⟩ :=
    svc.memory_estimate_filterErrors leg ⟨trip, index, report, vehicle, none⟩ m
  have hleaves := svc.leavesErrors_estimate m ⟨trip, index, report, vehicle, none⟩ leg
  rw [herrors] at hleaves
  refine ⟨⟨errors, by rw [hstep, herrors], hleaves⟩, ?_⟩
  intro answer hanswer
  rw [hstep] at hanswer
  exact svc.result_estimate_eq_ok hanswer

theorem predictTrip_leavesErrors {request : TripRequest}
    (htrip : svc.trip? request.vehicle.tripId = some trip) :
    ∃ walked travels errors,
      (svc.predictTrip request m).memory = { m with filterErrors := errors } ∧
      LeavesErrors trip.tripId travels m.filterErrors errors ∧
      walked ≤ request.length trip ∧
      travels = svc.travelsAlong trip request.report request.vehicle walked
        request.stopPathIndex none m ∧
      ∀ p, (svc.predictTrip request m).result = .ok p →
        p.stops.map (fun stop => (stop.stopPathIndex, stop.travel)) = travels := by
  have hmemory : (svc.predictTrip request m).memory = (svc.walk trip request.report
      request.vehicle (request.length trip) request.stopPathIndex none 0 m).memory := by
    simp only [predictTrip, htrip]
    rfl
  obtain ⟨errors, herrors⟩ := svc.memory_walk_filterErrors trip request.report
    request.vehicle (request.length trip) request.stopPathIndex none 0 m
  obtain ⟨walked, hwalked, hleaves, hend⟩ := svc.leavesErrors_walk m trip request.report
    request.vehicle (request.length trip) request.stopPathIndex none 0
  rw [herrors] at hleaves hmemory
  refine ⟨walked, _, errors, hmemory, hleaves, hwalked, rfl, ?_⟩
  intro p hp
  rcases hend with rfl | ⟨f, hf⟩
  · rw [travelsAlong, ← svc.map_estimates_predictTrip htrip hp, List.map_map]
    rfl
  · rw [svc.result_predictTrip htrip, hf] at hp
    cases hp

/-! ## Chains of errors -/

variable {svc m} {request : TripRequest} {p : TripPrediction R}

theorem errorIffKalman_of_mem (htrip : svc.trip? request.vehicle.tripId = some trip)
    (h : (svc.predictTrip request m).result = .ok p) {stop : StopPrediction R}
    (hstop : stop ∈ p.stops) : stop.travel.ErrorIffKalman := by
  have hmem : stop.estimates ∈ svc.estimatesAlong trip request.report request.vehicle
      (request.length trip) request.stopPathIndex none m :=
    svc.map_estimates_predictTrip htrip h ▸ List.mem_map_of_mem hstop
  obtain ⟨before, after, hsplit⟩ := List.append_of_mem hmem
  have htravel : stop.travel = _ :=
    svc.travel_of_append hsplit
  rw [htravel]
  exact svc.find_travel_errorIffKalman m _

/-- Each Kalman estimate of an answered walk is a step of the filter over passages on record before
the walk, from the error that the chain gives. -/
theorem exists_filterStep (htrip : svc.trip? request.vehicle.tripId = some trip)
    (h : (svc.predictTrip request m).result = .ok p) {before after : List (StopPrediction R)}
    {stop : StopPrediction R} (hstops : p.stops = before ++ stop :: after)
    (hkalman : stop.travel.algorithm = .kalman) :
    let ctx : Context R := ⟨trip, stop.stopPathIndex, request.report, request.vehicle, none⟩
    ∃ last error, (svc.lastPassage m ctx).outcome = .ok (some last) ∧
      svc.StartsFrom m.filterErrors (before.map StopPrediction.travel)
        ⟨last.arrival.tripId, stop.stopPathIndex⟩ error ∧
      svc.IsFilterStep m ctx last error stop.travel := by
  intro ctx
  have hcarries : ∀ x ∈ before.map StopPrediction.travel, x.ErrorIffKalman := by
    rintro x hx
    obtain ⟨earlier, hearlier, rfl⟩ := List.mem_map.mp hx
    exact errorIffKalman_of_mem htrip h (hstops ▸ List.mem_append_left _ hearlier)
  have htravel : stop.travel = (svc.find m ⟨trip, stop.stopPathIndex, request.report,
      request.vehicle, carriedPast none (before.map StopPrediction.travel)⟩ .travel).estimate := by
    have hsplit := svc.map_estimates_predictTrip htrip h
    rw [hstops, List.map_append, List.map_cons] at hsplit
    have hfound := svc.travel_of_append hsplit.symm
    rwa [List.map_map] at hfound
  rcases carriedPast_cases none (before.map StopPrediction.travel) with
    ⟨earlier, e, between, hbefore, hsome, hlatest, hbetween⟩ | ⟨hnone, hlatest⟩
  · obtain ⟨error, herror⟩ := Option.isSome_iff_exists.mp hsome
    rw [hlatest, herror] at htravel
    rw [htravel] at hkalman ⊢
    obtain ⟨last, hlast, hstep⟩ := svc.fromKalman_eq_some (svc.fromKalman_of_find hkalman)
    rw [hbefore] at hcarries
    obtain ⟨-, hnearest⟩ := List.forall_mem_append.mp hcarries
    obtain ⟨he, hothers⟩ := List.forall_mem_cons.mp hnearest
    exact ⟨last, error, hlast, .carried hbefore (he.mp hsome) herror fun x hx =>
      (hothers x hx).ne_kalman_iff.mpr (hbetween x hx), hstep⟩
  · have hothers : ∀ x ∈ before.map StopPrediction.travel, x.algorithm ≠ .kalman := fun x hx =>
      (hcarries x hx).ne_kalman_iff.mpr (hnone x hx)
    rw [hlatest] at htravel
    rw [htravel] at hkalman ⊢
    obtain ⟨last, hlast, hstep⟩ := svc.fromKalman_eq_some (svc.fromKalman_of_find hkalman)
    refine ⟨last, svc.startingError m ctx last, hlast, ?_, hstep⟩
    cases hentry : Table.get? m.filterErrors ⟨last.arrival.tripId, stop.stopPathIndex⟩ with
    | some entry =>
      have herror : svc.startingError m ctx last = entry.error := by
        simp only [startingError, ctx, hentry]
      exact herror ▸ .onRecord hothers hentry
    | none =>
      have herror : svc.startingError m ctx last = svc.settings.kalman.initialError := by
        simp only [startingError, ctx, hentry]
      exact herror ▸ .initial hothers hentry

variable (svc)

/-- After every run all errors on record are finite. A Kalman estimate of an answered walk is the
step of the filter from the error of the nearest Kalman estimate before it, else from the one on
record before the walk for the trip of the last vehicle, else from the initial one. A prediction
changes nothing but the errors on record, and these only under the stop paths of the trip for which
its travel estimates are by Kalman, where the errors of these estimates are left. -/
theorem error_chain (ops : List Operation) :
    let m := svc.memoryAfter ops
    (∀ k entry, Table.get? m.filterErrors k = some entry →
      Scalar.isFinite entry.error = true) ∧
    (∀ request trip p, svc.trip? request.vehicle.tripId = some trip →
      (svc.predictTrip request m).result = .ok p →
      ∀ before stop after, p.stops = before ++ stop :: after → stop.travel.algorithm = .kalman →
        let ctx : Context R := ⟨trip, stop.stopPathIndex, request.report, request.vehicle, none⟩
        ∃ last error, (svc.lastPassage m ctx).outcome = .ok (some last) ∧
          svc.StartsFrom m.filterErrors (before.map StopPrediction.travel)
            ⟨last.arrival.tripId, stop.stopPathIndex⟩ error ∧
          svc.IsFilterStep m ctx last error stop.travel) ∧
    (∀ tripId index leg report vehicle,
      let step := svc.predict tripId index leg report vehicle m
      (svc.trip? tripId = none → step.memory = m) ∧
      ∀ trip, svc.trip? tripId = some trip →
        let e := (svc.find m ⟨trip, index, report, vehicle, none⟩ leg).estimate
        (∃ errors, step.memory = { m with filterErrors := errors } ∧
          LeavesErrors trip.tripId [(index, e)] m.filterErrors errors) ∧
        ∀ answer, step.result = .ok answer → answer = e) ∧
    ∀ request : TripRequest,
      let step := svc.predictTrip request m
      (svc.trip? request.vehicle.tripId = none → step.memory = m) ∧
      ∀ trip, svc.trip? request.vehicle.tripId = some trip → ∃ walked travels errors,
        step.memory = { m with filterErrors := errors } ∧
        LeavesErrors trip.tripId travels m.filterErrors errors ∧
        walked ≤ request.length trip ∧
        travels = svc.travelsAlong trip request.report request.vehicle walked
          request.stopPathIndex none m ∧
        ∀ p, step.result = .ok p →
          p.stops.map (fun stop => (stop.stopPathIndex, stop.travel)) = travels := by
  intro m
  refine ⟨svc.finite_memoryAfter ops, ?_, ?_, ?_⟩
  · intro request trip p htrip hp before stop after hstops hkalman
    exact exists_filterStep htrip hp hstops hkalman
  · intro tripId index leg report vehicle step
    constructor
    · intro hunknown
      simp only [step, predict, hunknown]
      rfl
    · intro trip htrip
      exact svc.predict_leavesErrors m report vehicle htrip index leg
  · intro request step
    constructor
    · intro hunknown
      simp only [step, predictTrip, hunknown]
      rfl
    · intro trip htrip
      exact svc.predictTrip_leavesErrors m htrip

/-! ### Three stops -/

/-- A trip along three stops. -/
def onward (tripId : String) : Trip :=
  ⟨tripId, "S", false, some 28800, ["A", "B", "C"], [0, 60000, 60000], [0, 0, 0]⟩

/-- Two such trips, with travel times that are filtered over two days. -/
noncomputable def filteredOnward : Service ℝ :=
  { filtered with
    settings := { filtered.settings with
      schedule := Schedule.ofTrips [onward "T", onward "U"] } }

/-- A vehicle goes from the first stop to the last and does not wait in between. -/
def passingOnward (tripId : String) (leaves passes arrives : Instant) : List Operation :=
  passing tripId leaves passes ++
    [.record arrives ⟨"1", tripId, "S", "B", 1, passes, .departure, none, none⟩,
      .record arrives ⟨"1", tripId, "S", "C", 2, arrives, .arrival, none, none⟩]

/-- Between any two stops the trip is ten milliseconds faster and slower than a minute on the first
two days, and on the third day another trip takes longer. -/
def threeDaysOnward : List Operation :=
  passingOnward "T" ((Instant.of? 28801 0).get rfl) ((Instant.of? 28860 990000000).get rfl)
      ((Instant.of? 28920 980000000).get rfl) ++
    passingOnward "T" ((Instant.of? 115201 0).get rfl) ((Instant.of? 115261 10000000).get rfl)
      ((Instant.of? 115321 20000000).get rfl) ++
    passingOnward "U" ((Instant.of? 201601 0).get rfl) ((Instant.of? 201685 0).get rfl)
      ((Instant.of? 201769 0).get rfl)

set_option maxRecDepth 2000 in
theorem estimatesAlong_onward :
    filteredOnward.estimatesAlong (onward "T") nextReport nextVehicle 3 0 none
        (filteredOnward.memoryAfter threeDaysOnward) =
      [⟨0, ⟨0, .schedule, none⟩, ⟨0, .schedule, none⟩⟩,
        ⟨1, ⟨68000, .kalman, some (200 / 3)⟩, ⟨0, .schedule, none⟩⟩,
        ⟨2, ⟨69000, .kalman, some (125 / 2)⟩, ⟨0, .schedule, none⟩⟩] := by
  have hfirst : filteredOver 100 = ⟨68000, 200 / 3⟩ := by
    rw [filteredOver_eq (by norm_num)]
    norm_num
  have hsecond : filteredOver (200 / 3) = ⟨69000, 125 / 2⟩ := by
    rw [filteredOver_eq (by norm_num)]
    norm_num
  have hmillis : Scalar.truncate (68000 : ℝ) = 68000 :=
    Scalar.truncate_eq_of_nonneg (by decide) (by decide) (by norm_num) (by norm_num)
  have hmillis' : Scalar.truncate (69000 : ℝ) = 69000 :=
    Scalar.truncate_eq_of_nonneg (by decide) (by decide) (by norm_num) (by norm_num)
  show [_, StopEstimates.mk 1 ⟨Scalar.truncate (filteredOver 100).result, .kalman,
      some (filteredOver 100).filterError⟩ _,
    ⟨2, ⟨Scalar.truncate (filteredOver (filteredOver 100).filterError).result, .kalman,
      some (filteredOver (filteredOver 100).filterError).filterError⟩, _⟩] = _
  rw [hfirst, hsecond, hmillis, hmillis']
  rfl

/-- The vehicle of the next report asks for all of its trip. -/
def onwardRequest : TripRequest := ⟨nextReport, nextVehicle, 0, none⟩

theorem error_chain_onward :
    let m := filteredOnward.memoryAfter threeDaysOnward
    ∃ p first second third, filteredOnward.trip? "T" = some (onward "T") ∧
      (filteredOnward.predictTrip onwardRequest m).result = .ok p ∧
      p.stops = [first, second, third] ∧
      second.travel = ⟨68000, .kalman, some (200 / 3)⟩ ∧
      third.travel = ⟨69000, .kalman, some (125 / 2)⟩ ∧
      let ctx : Context ℝ := ⟨onward "T", third.stopPathIndex, nextReport, nextVehicle, none⟩
      ∃ last error, (filteredOnward.lastPassage m ctx).outcome = .ok (some last) ∧
        filteredOnward.StartsFrom m.filterErrors [first.travel, second.travel]
          ⟨last.arrival.tripId, third.stopPathIndex⟩ error ∧
        filteredOnward.IsFilterStep m ctx last error third.travel := by
  intro m
  have htrip : filteredOnward.trip? onwardRequest.vehicle.tripId = some (onward "T") := rfl
  have hbucket (leg : Leg) : ¬ filteredOnward.LacksBucket (onward "T") leg nextReport := by
    rintro ⟨-, hfrequency, -⟩
    cases hfrequency
  have hwalk : (filteredOnward.walk (onward "T") nextReport nextVehicle 3 0 none 0 m).result =
      filteredOnward.predictStops (onward "T") nextReport nextVehicle 0 _ :=
    (filteredOnward.result_walk nextVehicle (hbucket .travel) (hbucket .dwell) 3 0 none 0 m).trans
      (congrArg _ estimatesAlong_onward)
  obtain ⟨first, second, third, hstops, hsecond, hthird⟩ : ∃ first second third,
      (filteredOnward.walk (onward "T") nextReport nextVehicle 3 0 none 0 m).result =
        .ok [first, second, third] ∧
      second.travel = ⟨68000, .kalman, some (200 / 3)⟩ ∧
      third.travel = ⟨69000, .kalman, some (125 / 2)⟩ := ⟨_, _, _, hwalk, rfl, rfl⟩
  have hp := (filteredOnward.result_predictTrip htrip m).trans (congrArg (Except.map _) hstops)
  obtain ⟨-, hchain, -⟩ := error_chain filteredOnward threeDaysOnward
  refine ⟨_, first, second, third, htrip, hp, rfl, hsecond, hthird, ?_⟩
  exact hchain onwardRequest (onward "T") _ htrip hp [first, second] third [] rfl
    (by rw [hthird])

end Service

end Headway
