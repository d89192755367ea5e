import Headway.Proofs.Service.Bounds
import Headway.Proofs.Service.Prediction

/-!
# Asking again

A prediction writes the errors of its Kalman estimates, and a later one may start from them. But an
estimate starts from the error on record for the trip of the last vehicle, and it writes one for the
trip that is asked about. So the same request is answered the same again, as long as the last
vehicle was on another trip (`Service.asked_again`): what the first answer wrote is not read by the
second. On a walk only the first Kalman estimate matters, since the others start from an error that
is carried along.

When the last vehicle was on the trip itself, an estimate replaces the very error from which it
started, and the second answer starts from the error in the first.
-/

namespace Headway

variable {R : Type}

theorem Attempt.bind_congr {α β : Type} {x : Attempt R α} {f g : α → Attempt R β}
    (h : ∀ a, x.outcome = .ok (some a) → f a = g a) : x >>= f = x >>= g := by
  show x.andThen f = x.andThen g
  unfold Attempt.andThen
  split
  · rename_i a ha
    rw [h a ha]
  · rfl
  · rfl

namespace Service

variable [Scalar R] (svc : Service R) {m : Memory R}

/-- An estimate that is to start from the error on record for its own stop path, and then to replace
it: a Kalman estimate for which the last vehicle was on the trip that is asked about. -/
def FeedsBack (m : Memory R) (ctx : Context R) : Prop :=
  (svc.find m ctx .travel).estimate.algorithm = .kalman ∧
    ∃ last, (svc.lastPassage m ctx).outcome = .ok (some last) ∧
      last.arrival.tripId = ctx.trip.tripId

/-- The first stop path of a walk with a Kalman estimate. -/
def firstKalman? (m : Memory R) (trip : Trip) (report : Report) (vehicle : VehicleState)
    (index n : Nat) : Option Nat :=
  (List.range' index n).find? fun i =>
    (svc.find m ⟨trip, i, report, vehicle, none⟩ .travel).estimate.algorithm = .kalman

/-! ## What an estimate reads -/

theorem result_estimate_dwell (m : Memory R) (errors : FilterErrors R) (ctx : Context R) :
    (svc.estimate .dwell ctx { m with filterErrors := errors }).result =
      (svc.estimate .dwell ctx m).result := by
  have hfind : svc.find { m with filterErrors := errors } ctx .dwell = svc.find m ctx .dwell :=
    (svc.find_dwell_of_filterErrors m errors ctx).trans
      (svc.find_dwell_of_filterErrors m m.filterErrors ctx).symm
  rw [result_estimate, result_estimate, hfind]

variable {errors : FilterErrors R} {ctx : Context R} {carried : Option R}

/-- A travel estimate reads errors only to start the filter: with another record of errors, or with
another error carried along, it is the same if the filter starts from the same error. -/
theorem find_travel_of_startingError (ctx : Context R)
    (h : ∀ last, (svc.lastPassage m ctx).outcome = .ok (some last) →
      svc.startingError { m with filterErrors := errors }
          { ctx with carriedError := carried } last =
        svc.startingError m ctx last) :
    svc.find { m with filterErrors := errors } { ctx with carriedError := carried } .travel =
      svc.find m ctx .travel := by
  have hdays (start : Option Int) : svc.previousPassages { m with filterErrors := errors }
      { ctx with carriedError := carried } start = svc.previousPassages m ctx start := by
    unfold previousPassages
    simp only [svc.searchDays_eq_of_get? (a := { m with filterErrors := errors }) (b := m) rfl]
  apply find_travel_congr
  intro s
  cases s with
  | historicalAverage => rfl
  | lastVehicle => rfl
  | kalman =>
    unfold attemptTravel fromKalman
    apply Attempt.bind_congr
    intro last hlast
    simp only [hdays, h last hlast]
  | scheduleDefault => rfl

omit [Scalar R] in
theorem startingError_congr {a b : Memory R} {last : Passage}
    (h : ctx.carriedError = none →
      Table.get? a.filterErrors ⟨last.arrival.tripId, ctx.stopPathIndex⟩ =
        Table.get? b.filterErrors ⟨last.arrival.tripId, ctx.stopPathIndex⟩) :
    svc.startingError a ctx last = svc.startingError b ctx last := by
  unfold startingError
  cases hcarried : ctx.carriedError with
  | some e => rfl
  | none => rw [h hcarried]

/-! ## One stop path -/

/-- Unless it feeds back, an estimate leaves the error from which it started, and a record with the
errors that it left for its stop path index gives the same estimate. -/
theorem find_travel_of_left (hback : ctx.carriedError = none → ¬ svc.FeedsBack m ctx)
    (hleft : ∀ k : PathKey, k.stopPathIndex = ctx.stopPathIndex →
      Table.get? errors k = Table.get? (svc.estimate .travel ctx m).memory.filterErrors k) :
    svc.find { m with filterErrors := errors } ctx .travel = svc.find m ctx .travel := by
  apply svc.find_travel_of_startingError ctx
  intro last hlast
  apply startingError_congr
  intro hfresh
  have hcarries := svc.find_travel_errorIffKalman m ctx
  rw [hleft _ rfl, memory_estimate]
  cases herror : (svc.find m ctx .travel).estimate.filterError with
  | none => rw [remember_of_none herror]
  | some error =>
    have hkalman := hcarries.mp (Option.isSome_of_eq_some herror)
    apply get?_remember_of_ne
    intro hpath
    exact hback hfresh ⟨hkalman, last, hlast, congrArg PathKey.tripId hpath⟩

theorem estimate_again {leg : Leg} (h : leg = .travel → ¬ svc.FeedsBack m ctx) :
    (svc.estimate leg ctx (svc.estimate leg ctx m).memory).result =
      (svc.estimate leg ctx m).result := by
  cases leg with
  | dwell => rw [memory_estimate_dwell]
  | travel =>
    obtain ⟨errors, hmemory⟩ := svc.memory_estimate_filterErrors .travel ctx m
    have hfind : svc.find { m with filterErrors := errors } ctx .travel = svc.find m ctx .travel :=
      svc.find_travel_of_left (fun _ => h rfl) fun k _ => by rw [hmemory]
    rw [hmemory, result_estimate, result_estimate, hfind]

variable {trip : Trip} {report : Report} {vehicle : VehicleState}

/-- After an estimate that feeds back, the same one starts from the error that it left. -/
theorem estimate_of_feedsBack {index : Nat}
    (h : svc.FeedsBack m ⟨trip, index, report, vehicle, none⟩) :
    ∃ entry, Table.get? (svc.estimate .travel ⟨trip, index, report, vehicle, none⟩
        m).memory.filterErrors ⟨trip.tripId, index⟩ = some entry ∧
      (svc.estimate .travel ⟨trip, index, report, vehicle, none⟩
          (svc.estimate .travel ⟨trip, index, report, vehicle, none⟩ m).memory).result =
        (svc.estimate .travel ⟨trip, index, report, vehicle, some entry.error⟩ m).result := by
  obtain ⟨hkalman, last, hlast, htrip⟩ := h
  have hcarries := svc.find_travel_errorIffKalman m ⟨trip, index, report, vehicle, none⟩
  obtain ⟨error, herror⟩ := Option.isSome_iff_exists.mp (hcarries.mpr hkalman)
  rw [memory_estimate, remember_of_some herror]
  generalize herrors : m.filterErrors.write (Context.path ⟨trip, index, report, vehicle, none⟩)
    error = errors
  have hentry : ∃ entry, Table.get? errors ⟨trip.tripId, index⟩ = some entry := by
    rw [← herrors]
    exact ⟨_, Table.get?_put_self _ _ _⟩
  obtain ⟨entry, hentry⟩ := hentry
  refine ⟨entry, hentry, ?_⟩
  have hfind : svc.find { m with filterErrors := errors } ⟨trip, index, report, vehicle, none⟩
      .travel = svc.find m ⟨trip, index, report, vehicle, some entry.error⟩ .travel := by
    apply svc.find_travel_of_startingError ⟨trip, index, report, vehicle, some entry.error⟩
    intro other hother
    obtain rfl : last = other := Option.some.inj (Except.ok.inj (hlast.symm.trans hother))
    simp only [startingError, htrip, hentry]
  rw [result_estimate, result_estimate, hfind]
  rfl

/-! ## Walks -/

theorem firstKalman?_succ_of_kalman {index : Nat} (n : Nat)
    (h : (svc.find m ⟨trip, index, report, vehicle, none⟩ .travel).estimate.algorithm = .kalman) :
    svc.firstKalman? m trip report vehicle index (n + 1) = some index := by
  rw [firstKalman?, List.range'_succ, List.find?_cons, decide_eq_true h]

theorem firstKalman?_succ_of_filterError {index : Nat} (n : Nat)
    (h : (svc.find m ⟨trip, index, report, vehicle, none⟩ .travel).estimate.filterError = none) :
    svc.firstKalman? m trip report vehicle index (n + 1) =
      svc.firstKalman? m trip report vehicle (index + 1) n := by
  have hcarries := svc.find_travel_errorIffKalman m ⟨trip, index, report, vehicle, none⟩
  have hother := hcarries.ne_kalman_iff.mpr h
  rw [firstKalman?, List.range'_succ, List.find?_cons, decide_eq_false hother]
  rfl

/-- With other errors, an estimate leaves the same but for the errors, and of these it changes the
one of its stop path only. -/
theorem memory_estimate_of_filterErrors (leg : Leg) (ctx : Context R) (m : Memory R)
    (errors : FilterErrors R) :
    ∃ left, (svc.estimate leg ctx { m with filterErrors := errors }).memory =
        { (svc.estimate leg ctx m).memory with filterErrors := left } ∧
      ∀ k, k ≠ ctx.path → Table.get? left k = Table.get? errors k := by
  obtain ⟨left, hleft⟩ := svc.memory_estimate_filterErrors leg ctx { m with filterErrors := errors }
  obtain ⟨other, hother⟩ := svc.memory_estimate_filterErrors leg ctx m
  refine ⟨left, by rw [hleft, hother], ?_⟩
  intro k hk
  have hkeeps := svc.get?_estimate_of_ne leg { m with filterErrors := errors } hk
  rw [hleft] at hkeeps
  exact hkeeps

/-- A walk over a memory with the errors that it would leave itself has the same answer, unless its
first Kalman estimate feeds back. -/
theorem walk_again (n : Nat) {index : Nat} {carried : Option R} (elapsed : Int)
    (errors : FilterErrors R)
    (hback : carried = none → ∀ i, svc.firstKalman? m trip report vehicle index n = some i →
      ¬ svc.FeedsBack m ⟨trip, i, report, vehicle, none⟩)
    (hleft : ∀ k : PathKey, index ≤ k.stopPathIndex →
      Table.get? errors k = Table.get?
        (svc.walk trip report vehicle n index carried elapsed m).memory.filterErrors k) :
    (svc.walk trip report vehicle n index carried elapsed
        { m with filterErrors := errors }).result =
      (svc.walk trip report vehicle n index carried elapsed m).result := by
  -- what the walk leaves at an index is what its estimate there leaves, so the two walks find the
  -- same at the first stop path, and the rest of them differs again in the errors only
  induction n generalizing index carried elapsed m errors with
  | zero => rfl
  | succ n ih =>
    have hfind : svc.find { m with filterErrors := errors }
        ⟨trip, index, report, vehicle, carried⟩ .travel =
          svc.find m ⟨trip, index, report, vehicle, carried⟩ .travel := by
      apply svc.find_travel_of_left
      · intro (hfresh : carried = none) hfeeds
        subst hfresh
        exact hback rfl index (svc.firstKalman?_succ_of_kalman n hfeeds.1) hfeeds
      · intro k hk
        rw [hleft k hk.ge, svc.get?_walk_succ trip report vehicle n hk]
    have hresult : (svc.estimate .travel ⟨trip, index, report, vehicle, carried⟩
        { m with filterErrors := errors }).result =
          (svc.estimate .travel ⟨trip, index, report, vehicle, carried⟩ m).result := by
      rw [result_estimate, result_estimate, hfind]
    obtain ⟨left, hmemory, hkeeps⟩ := svc.memory_estimate_of_filterErrors .travel
      ⟨trip, index, report, vehicle, carried⟩ m errors
    generalize hkept : (svc.estimate .travel ⟨trip, index, report, vehicle, carried⟩ m).memory =
      kept at hmemory
    rw [result_walk_succ, result_walk_succ, hresult, hmemory, hkept]
    cases htravel : (svc.estimate .travel ⟨trip, index, report, vehicle, carried⟩ m).result with
    | error f => simp only [Except.bind]
    | ok travel =>
      simp only [Except.bind]
      rw [result_estimate_dwell]
      cases hdwell : (svc.estimate .dwell ⟨trip, index, report, vehicle,
        travel.filterError.or carried⟩ kept).result with
      | error f => rfl
      | ok dwell =>
        simp only
        cases hstop : svc.stopPrediction ⟨trip, index, report, vehicle,
          travel.filterError.or carried⟩ travel dwell (saturate (elapsed + travel.millis))
            (saturate (saturate (elapsed + travel.millis) + dwell.millis)) with
        | error f => rfl
        | ok stop =>
          congr 1
          apply ih
          · -- nothing is carried on only after an estimate that wrote nothing
            intro hfresh i hfirst
            obtain ⟨hnone, rfl⟩ := Option.or_eq_none_iff.mp hfresh
            rw [svc.result_estimate_eq_ok htravel] at hnone
            rw [memory_estimate, remember_of_none hnone] at hkept
            subst hkept
            apply hback rfl i
            rw [svc.firstKalman?_succ_of_filterError n hnone]
            exact hfirst
          · intro k hk
            have hpath : k ≠ Context.path ⟨trip, index, report, vehicle, carried⟩ := by
              rintro rfl
              exact absurd hk (Nat.not_succ_le_self index)
            rw [hkeeps k hpath, hleft k (Nat.le_of_succ_le hk),
              svc.memory_walk_succ trip report vehicle hkept htravel hdwell hstop]

/-! ## Requests -/

/-- The same request has the same answer again, unless its estimate starts from the error that it
replaces. Then the second answer is the one that starts from the error in the first. On a walk, the
first Kalman estimate decides. -/
theorem asked_again (m : Memory R) :
    (∀ tripId index leg report vehicle,
      (leg = .travel → ∀ trip, svc.trip? tripId = some trip →
        ¬ svc.FeedsBack m ⟨trip, index, report, vehicle, none⟩) →
      (svc.predict tripId index leg report vehicle
          (svc.predict tripId index leg report vehicle m).memory).result =
        (svc.predict tripId index leg report vehicle m).result) ∧
    (∀ tripId index report vehicle trip, svc.trip? tripId = some trip →
      svc.FeedsBack m ⟨trip, index, report, vehicle, none⟩ →
      ∃ entry, Table.get? (svc.predict tripId index .travel report vehicle m).memory.filterErrors
          ⟨trip.tripId, index⟩ = some entry ∧
        (svc.predict tripId index .travel report vehicle
            (svc.predict tripId index .travel report vehicle m).memory).result =
          (svc.estimate .travel ⟨trip, index, report, vehicle, some entry.error⟩ m).result) ∧
    ∀ request : TripRequest,
      (∀ trip, svc.trip? request.vehicle.tripId = some trip →
        ∀ index, svc.firstKalman? m trip request.report request.vehicle request.stopPathIndex
            (request.length trip) = some index →
          ¬ svc.FeedsBack m ⟨trip, index, request.report, request.vehicle, none⟩) →
      (svc.predictTrip request (svc.predictTrip request m).memory).result =
        (svc.predictTrip request m).result := by
  refine ⟨?_, ?_, ?_⟩
  · intro tripId index leg report vehicle h
    unfold predict
    cases htrip : svc.trip? tripId with
    | none => rfl
    | some trip => exact svc.estimate_again fun hleg => h hleg trip htrip
  · intro tripId index report vehicle trip htrip h
    unfold predict
    rw [htrip]
    exact svc.estimate_of_feedsBack h
  · intro request h
    unfold predictTrip
    cases htrip : svc.trip? request.vehicle.tripId with
    | none => rfl
    | some trip =>
      obtain ⟨errors, hmemory⟩ := svc.memory_walk_filterErrors trip request.report request.vehicle
        (request.length trip) request.stopPathIndex none 0 m
      have hagain := svc.walk_again (request.length trip) 0 errors
        (fun _ => h trip htrip) fun k _ => by rw [hmemory]
      simp only [Step.map]
      rw [hmemory, hagain]

/-! ### Two trips between two stops -/

/-- A trip from one stop to another. -/
def regular (tripId : String) : Trip :=
  ⟨tripId, "S", false, some 28800, ["A", "B"], [0, 60000], [0, 0]⟩

/-- Two such trips, with travel times that are filtered over two days. -/
noncomputable def filtered : Service ℝ :=
  { shuttle with
    settings := { shuttle.settings with
      kalman := { shuttle.settings.kalman with minDays := 2, maxDays := 2 }
      strategy := { travel := .kalman }
      schedule := Schedule.ofTrips [regular "T", regular "U"] } }

/-- A vehicle goes from stop to stop. -/
def passing (tripId : String) (leaves arrives : Instant) : List Operation :=
  [.record arrives ⟨"1", tripId, "S", "A", 0, leaves, .departure, none, none⟩,
    .record arrives ⟨"1", tripId, "S", "B", 1, arrives, .arrival, none, none⟩]

/-- The same trip on two days, ten milliseconds faster and slower than a minute, and on the third
day a trip that takes longer. -/
def threeDays (last : String) : List Operation :=
  passing "T" ((Instant.of? 28800 0).get rfl) ((Instant.of? 28859 990000000).get rfl) ++
    passing "T" ((Instant.of? 115200 0).get rfl) ((Instant.of? 115260 10000000).get rfl) ++
      passing last ((Instant.of? 201600 0).get rfl) ((Instant.of? 201684 0).get rfl)

/-- Half an hour later another vehicle sends a report. -/
def nextReport : Report := ⟨"2", (Instant.of? 203400 0).get rfl⟩

/-- It is on the first of the trips. -/
def nextVehicle : VehicleState := ⟨"2", "T", none, none⟩

/-- The travel time between the stops is asked for. -/
noncomputable def nextTravel (m : Memory ℝ) : Step ℝ (Estimate ℝ) :=
  filtered.predict "T" 1 .travel nextReport nextVehicle m

/-- The stop path between the stops, with no error carried along. -/
noncomputable def nextContext : Context ℝ := ⟨regular "T", 1, nextReport, nextVehicle, none⟩

theorem asked_again_filtered :
    (¬ filtered.FeedsBack (filtered.memoryAfter (threeDays "U")) nextContext ∧
        ∃ e, (nextTravel (filtered.memoryAfter (threeDays "U"))).result = .ok e ∧
          e.algorithm = .kalman ∧
          (nextTravel (nextTravel (filtered.memoryAfter (threeDays "U"))).memory).result =
            .ok e) ∧
      (filtered.FeedsBack (filtered.memoryAfter (threeDays "T")) nextContext ∧
        ∃ entry, Table.get? (nextTravel (filtered.memoryAfter
            (threeDays "T"))).memory.filterErrors ⟨"T", 1⟩ = some entry ∧
          (nextTravel (nextTravel (filtered.memoryAfter (threeDays "T"))).memory).result =
            (filtered.estimate .travel { nextContext with carriedError := some entry.error }
              (filtered.memoryAfter (threeDays "T"))).result) ∧
      filtered.firstKalman? (filtered.memoryAfter (threeDays "U")) (regular "T") nextReport
          nextVehicle 0 2 = some 1 ∧
        (filtered.predictTrip ⟨nextReport, nextVehicle, 0, none⟩
            (filtered.predictTrip ⟨nextReport, nextVehicle, 0, none⟩
              (filtered.memoryAfter (threeDays "U"))).memory).result =
          (filtered.predictTrip ⟨nextReport, nextVehicle, 0, none⟩
            (filtered.memoryAfter (threeDays "U"))).result := by
  obtain ⟨hpredict, -, hwalk⟩ := asked_again filtered (filtered.memoryAfter (threeDays "U"))
  obtain ⟨-, hback, -⟩ := asked_again filtered (filtered.memoryAfter (threeDays "T"))
  -- the last vehicle was on the other trip
  have hother : ¬ filtered.FeedsBack (filtered.memoryAfter (threeDays "U")) nextContext := by
    rintro ⟨-, last, hlast, hsame⟩
    cases hlast
    exact absurd hsame (by decide)
  have hsame : filtered.FeedsBack (filtered.memoryAfter (threeDays "T")) nextContext :=
    ⟨rfl, _, rfl, rfl⟩
  refine ⟨⟨hother, _, rfl, rfl, ?_⟩, ⟨hsame, ?_⟩, rfl, ?_⟩
  · apply hpredict "T" 1 .travel nextReport nextVehicle
    rintro - trip htrip
    cases htrip
    exact hother
  · exact hback "T" 1 nextReport nextVehicle (regular "T") rfl hsame
  · apply hwalk
    intro trip htrip index hfirst
    cases htrip
    cases hfirst
    exact hother

/-- The filter over the two days, for the trip that takes longer. -/
noncomputable def filteredOver (error : ℝ) : KalmanEstimate ℝ :=
  Kalman.estimate true [(59990 : Int), (60010 : Int)] (60010 : Int) (84000 : Int) error

theorem filteredOver_eq {error : ℝ} (h : 0 ≤ error) :
    filteredOver error =
      ⟨100 / (error + 200) * 84000 + (error + 100) / (error + 200) * 60000,
        100 * ((error + 100) / (error + 200))⟩ := by
  have hpos : error + 2 * 100 ≠ 0 := by positivity
  have hpos' : error + 200 ≠ 0 := by positivity
  have hmean : Scalar.mean [((59990 : Int) : ℝ), (60010 : Int)] = 60000 := by
    rw [Scalar.mean_real]
    norm_num
  have hvariance : Kalman.variance [((59990 : Int) : ℝ), (60010 : Int)] 60000 = 100 := by
    simp only [Kalman.variance, Scalar.sum_real, Scalar.square_real, Scalar.count_real, List.map]
    norm_num
  have hgain : Kalman.gain error 100 = (error + 100) / (error + 200) := by
    rw [Kalman.gain_real, if_neg hpos]
    norm_num
  have hrest : 1 - (error + 100) / (error + 200) = 100 / (error + 200) := by
    field_simp
    ring
  rw [filteredOver, Kalman.estimate_real, hmean, hvariance, hgain, hrest]
  norm_num

/-- When the last vehicle was on the trip itself, the same request is answered otherwise. -/
theorem answer_changes :
    filtered.Checked Zone.named? ∧ (∃ day, filtered.clock.serviceDay nextReport.time = .ok day) ∧
      (nextTravel (filtered.memoryAfter (threeDays "T"))).result =
        .ok ⟨68000, .kalman, some (200 / 3)⟩ ∧
      (nextTravel (nextTravel (filtered.memoryAfter (threeDays "T"))).memory).result =
        .ok ⟨69000, .kalman, some (125 / 2)⟩ := by
  have hfirst : filteredOver 100 = ⟨68000, 200 / 3⟩ := by
    rw [filteredOver_eq (by norm_num)]
    norm_num
  have hsecond : filteredOver (200 / 3) = ⟨69000, 125 / 2⟩ := by
    rw [filteredOver_eq (by norm_num)]
    norm_num
  have hmillis : Scalar.truncate (68000 : ℝ) = 68000 :=
    Scalar.truncate_eq_of_nonneg (by decide) (by decide) (by norm_num) (by norm_num)
  have hmillis' : Scalar.truncate (69000 : ℝ) = 69000 :=
    Scalar.truncate_eq_of_nonneg (by decide) (by decide) (by norm_num) (by norm_num)
  refine ⟨⟨?_, rfl⟩, ⟨_, rfl⟩, ?_, ?_⟩
  · rw [Settings.check_eq_ok_iff]
    simp only [Settings.faults, filtered, shuttle, shuttle_fraction]
    decide
  · show Except.ok (Estimate.mk (Scalar.truncate (filteredOver 100).result) .kalman
      (some (filteredOver 100).filterError)) = _
    rw [hfirst, hmillis]
  · show Except.ok (Estimate.mk
      (Scalar.truncate (filteredOver (filteredOver 100).filterError).result) .kalman
      (some (filteredOver (filteredOver 100).filterError).filterError)) = _
    rw [hfirst, hsecond, hmillis']

end Service

end Headway
