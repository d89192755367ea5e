import Headway.Proofs.Service.Answers
import Headway.Proofs.Service.Repeating

/-!
# Estimates along a walk

A walk does two things at once. Along the stop paths it makes estimates, where each travel estimate
leaves its error to the next ones; and it adds the estimates up to times. The estimates do not
depend on the times, so they can be told without them (`Service.estimatesAlong`): unless a
prediction record lacks a bucket, a walk answers what its estimates add up to
(`Service.result_walk`), and the stops of every answered walk have these estimates
(`Service.map_estimates_walk`).

Of the errors that a walk leaves, dwell estimates read nothing, so each of them is the one that the
memory gives before the walk (`Service.dwell_of_mem_estimatesAlong`).
-/

namespace Headway

variable {R : Type}

/-- The estimates for a stop path. -/
structure StopEstimates (R : Type) where
  stopPathIndex : Nat
  travel : Estimate R
  dwell : Estimate R

/-- The estimates for a stop, without the times that they lead to. -/
def StopPrediction.estimates (stop : StopPrediction R) : StopEstimates R :=
  ⟨stop.stopPathIndex, stop.travel, stop.dwell⟩

/-- The error that is carried along past some travel estimates. -/
def carriedPast (carried : Option R) (estimates : List (Estimate R)) : Option R :=
  estimates.foldl (fun carried e => e.filterError.or carried) carried

/-- A sequence that answers has an answer from its first part. -/
theorem exists_of_bind_eq_ok {ε α β : Type} {x : Except ε α} {f : α → Except ε β} {b : β}
    (h : x.bind f = .ok b) : ∃ a, x = .ok a ∧ f a = .ok b := by
  cases x with
  | error e => cases h
  | ok a => exact ⟨a, rfl, h⟩

theorem exists_of_map_eq_ok {ε α β : Type} {x : Except ε α} {f : α → β} {b : β}
    (h : x.map f = .ok b) : ∃ a, x = .ok a ∧ f a = b := by
  cases x with
  | error e => cases h
  | ok a => exact ⟨a, rfl, Except.ok.inj h⟩

theorem map_eq_error_iff {ε α β : Type} {x : Except ε α} {f : α → β} {e : ε} :
    x.map f = .error e ↔ x = .error e := by
  cases x with
  | error other =>
    show Except.error other = Except.error e ↔ Except.error other = Except.error e
    rw [Except.error.injEq, Except.error.injEq]
  | ok a => exact ⟨nofun, nofun⟩

/-- A memory differs from an earlier one at most by errors of the stop paths before an index. -/
structure DiffersBefore (index : Nat) (earlier later : Memory R) : Prop where
  errors : ∃ errors, later = { earlier with filterErrors := errors }
  same : ∀ k : PathKey, index ≤ k.stopPathIndex →
    Table.get? later.filterErrors k = Table.get? earlier.filterErrors k

namespace DiffersBefore

variable {index : Nat} {m kept : Memory R}

theorem refl (m : Memory R) : DiffersBefore index m m := ⟨⟨m.filterErrors, rfl⟩, fun _ _ => rfl⟩

variable [Scalar R]

/-- An estimate leaves its error under its own stop path. -/
theorem remember (ctx : Context R) (h : DiffersBefore ctx.stopPathIndex m kept) (e : Estimate R) :
    DiffersBefore (ctx.stopPathIndex + 1) m (Service.remember kept ctx e) := by
  obtain ⟨⟨errors, rfl⟩, hsame⟩ := h
  constructor
  · obtain ⟨left, hleft⟩ := Service.remember_eq { m with filterErrors := errors } ctx e
    exact ⟨left, hleft⟩
  · intro k hk
    have hne : k ≠ ctx.path := by
      rintro rfl
      exact Nat.not_succ_le_self _ hk
    rw [Service.get?_remember_of_ne _ e hne]
    exact hsame k (Nat.le_of_succ_le hk)

theorem find_travel (svc : Service R) (ctx : Context R)
    (h : DiffersBefore ctx.stopPathIndex m kept) :
    svc.find kept ctx .travel = svc.find m ctx .travel := by
  obtain ⟨⟨errors, rfl⟩, hsame⟩ := h
  apply svc.find_travel_of_startingError ctx
  intro last _
  apply svc.startingError_congr
  exact fun _ => hsame _ (Nat.le_refl _)

theorem find_dwell (svc : Service R) (ctx : Context R) (h : DiffersBefore index m kept) :
    svc.find kept ctx .dwell = svc.find m { ctx with carriedError := none } .dwell := by
  obtain ⟨⟨errors, rfl⟩, -⟩ := h
  exact svc.find_dwell_of_filterErrors m errors ctx

end DiffersBefore

namespace Service

variable [Scalar R] (svc : Service R) (trip : Trip) (report : Report) (vehicle : VehicleState)

/-- The estimates for a number of stop paths from one on. A travel estimate leaves its error in the
memory and carries it along. -/
def estimatesAlong : Nat → Nat → Option R → Memory R → List (StopEstimates R)
  | 0, _, _, _ => []
  | n + 1, index, carried, m =>
    let ctx : Context R := ⟨trip, index, report, vehicle, carried⟩
    let travel := (svc.find m ctx .travel).estimate
    let carried := travel.filterError.or carried
    let kept := remember m ctx travel
    let dwell := (svc.find kept ⟨trip, index, report, vehicle, carried⟩ .dwell).estimate
    ⟨index, travel, dwell⟩ :: estimatesAlong n (index + 1) carried kept

/-- The predictions for stops with given estimates, after the time passed so far. The first time
outside the calendar ends them. -/
def predictStops : Int → List (StopEstimates R) →
    Except (Failure R) (List (StopPrediction R))
  | _, [] => .ok []
  | elapsed, e :: rest =>
    let untilArrival := saturate (elapsed + e.travel.millis)
    let untilDeparture := saturate (untilArrival + e.dwell.millis)
    (svc.stopPrediction ⟨trip, e.stopPathIndex, report, vehicle, none⟩ e.travel e.dwell
      untilArrival untilDeparture).bind fun stop =>
        (predictStops untilDeparture rest).map (stop :: ·)

variable {trip report}

/-! ## Walks by their estimates -/

theorem result_estimate_of_not_lacksBucket {leg : Leg} (ctx : Context R) (m : Memory R)
    (h : ¬ svc.LacksBucket ctx.trip leg ctx.report) :
    (svc.estimate leg ctx m).result = .ok (svc.find m ctx leg).estimate := by
  obtain ⟨records, hrecords⟩ := recordOf_of_not_lacksBucket h (svc.find m ctx leg).estimate
  rw [result_estimate, hrecords]
  rfl

theorem result_walk (htravel : ¬ svc.LacksBucket trip .travel report)
    (hdwell : ¬ svc.LacksBucket trip .dwell report) (n index : Nat) (carried : Option R)
    (elapsed : Int) (m : Memory R) :
    (svc.walk trip report vehicle n index carried elapsed m).result =
      svc.predictStops trip report vehicle elapsed
        (svc.estimatesAlong trip report vehicle n index carried m) := by
  induction n generalizing index carried elapsed m with
  | zero => rfl
  | succ n ih =>
    rw [result_walk_succ, memory_estimate,
      svc.result_estimate_of_not_lacksBucket ⟨trip, index, report, vehicle, carried⟩ m htravel]
    simp only [Except.bind]
    rw [svc.result_estimate_of_not_lacksBucket ⟨trip, index, report, vehicle, _⟩ _ hdwell]
    simp only [ih]
    rfl

variable (trip report)

theorem estimates_stopPrediction {index : Nat} {carried : Option R} {travel dwell : Estimate R}
    {untilArrival untilDeparture : Int} {stop : StopPrediction R}
    (h : svc.stopPrediction ⟨trip, index, report, vehicle, carried⟩ travel dwell untilArrival
      untilDeparture = .ok stop) : stop.estimates = ⟨index, travel, dwell⟩ := by
  rcases svc.stopPrediction_ok_or_outOfRange ⟨trip, index, report, vehicle, carried⟩ travel dwell
      untilArrival untilDeparture with ⟨other, hother, hindex, rfl, rfl⟩ | ⟨ms, hother, -⟩
  · rw [hother] at h
    obtain rfl := Except.ok.inj h
    exact congrArg (StopEstimates.mk · _ _) hindex
  · rw [hother] at h
    cases h

theorem map_estimates_predictStops {elapsed : Int} {es : List (StopEstimates R)}
    {stops : List (StopPrediction R)}
    (h : svc.predictStops trip report vehicle elapsed es = .ok stops) :
    stops.map StopPrediction.estimates = es := by
  induction es generalizing elapsed stops with
  | nil =>
    cases h
    rfl
  | cons e rest ih =>
    obtain ⟨stop, hstop, hrest⟩ := exists_of_bind_eq_ok h
    obtain ⟨others, hothers, rfl⟩ := exists_of_map_eq_ok hrest
    rw [List.map_cons, ih hothers, svc.estimates_stopPrediction trip report vehicle hstop]

/-- The stops of an answered walk have the estimates along it. -/
theorem map_estimates_walk {n index : Nat} {carried : Option R} {elapsed : Int} {m : Memory R}
    {stops : List (StopPrediction R)}
    (h : (svc.walk trip report vehicle n index carried elapsed m).result = .ok stops) :
    stops.map StopPrediction.estimates =
      svc.estimatesAlong trip report vehicle n index carried m := by
  by_cases hlacks : svc.LacksBucket trip .travel report ∨ svc.LacksBucket trip .dwell report
  · cases n with
    | zero =>
      cases h
      rfl
    | succ n =>
      rw [svc.walk_of_lacksBucket vehicle hlacks] at h
      cases h
  · obtain ⟨htravel, hdwell⟩ := not_or.mp hlacks
    rw [svc.result_walk vehicle htravel hdwell] at h
    exact svc.map_estimates_predictStops trip report vehicle h

/-! ## Parts of the estimates -/

/-- A shorter walk has the first of the estimates. -/
theorem take_estimatesAlong {k n : Nat} (h : k ≤ n) (index : Nat) (carried : Option R)
    (m : Memory R) :
    (svc.estimatesAlong trip report vehicle n index carried m).take k =
      svc.estimatesAlong trip report vehicle k index carried m := by
  induction k generalizing n index carried m with
  | zero => rw [List.take_zero, estimatesAlong]
  | succ k ih =>
    obtain ⟨n, rfl⟩ := Nat.exists_eq_succ_of_ne_zero (Nat.ne_of_gt (Nat.lt_of_lt_of_le
      (Nat.succ_pos k) h))
    rw [estimatesAlong, estimatesAlong, List.take_succ_cons, ih (Nat.le_of_succ_le_succ h)]

theorem map_stopPathIndex_estimatesAlong (n index : Nat) (carried : Option R) (m : Memory R) :
    (svc.estimatesAlong trip report vehicle n index carried m).map StopEstimates.stopPathIndex =
      List.range' index n := by
  induction n generalizing index carried m with
  | zero => rfl
  | succ n ih => rw [estimatesAlong, List.map_cons, ih, List.range'_succ]

variable {trip report vehicle} {m : Memory R} {index : Nat}

/-- The dwell estimates of a walk are those that the memory gives before it. -/
theorem dwell_of_mem_estimatesAlong {n : Nat} {carried : Option R} {e : StopEstimates R}
    (he : e ∈ svc.estimatesAlong trip report vehicle n index carried m) :
    e.dwell = (svc.find m ⟨trip, e.stopPathIndex, report, vehicle, none⟩ .dwell).estimate := by
  suffices h : ∀ kept, DiffersBefore index m kept →
      e ∈ svc.estimatesAlong trip report vehicle n index carried kept →
      e.dwell = (svc.find m ⟨trip, e.stopPathIndex, report, vehicle, none⟩ .dwell).estimate from
    h m (.refl m) he
  clear he
  induction n generalizing index carried with
  | zero =>
    intro kept _ he
    cases he
  | succ n ih =>
    intro kept hkept he
    have hleft := hkept.remember ⟨trip, index, report, vehicle, carried⟩
      (svc.find kept ⟨trip, index, report, vehicle, carried⟩ .travel).estimate
    rw [estimatesAlong] at he
    rcases List.mem_cons.mp he with rfl | he
    · simp only [hleft.find_dwell svc]
    · exact ih _ hleft he

/-- A travel estimate starts from the error that is carried along past the stop paths before it, and
else it is the one that the memory gives before the walk. -/
theorem travel_of_append {n : Nat} {carried : Option R} {before after : List (StopEstimates R)}
    {e : StopEstimates R}
    (h : svc.estimatesAlong trip report vehicle n index carried m = before ++ e :: after) :
    e.travel = (svc.find m ⟨trip, e.stopPathIndex, report, vehicle,
      carriedPast carried (before.map StopEstimates.travel)⟩ .travel).estimate := by
  suffices hleft : ∀ kept, DiffersBefore index m kept →
      svc.estimatesAlong trip report vehicle n index carried kept = before ++ e :: after →
      e.travel = (svc.find m ⟨trip, e.stopPathIndex, report, vehicle,
        carriedPast carried (before.map StopEstimates.travel)⟩ .travel).estimate from
    hleft m (.refl m) h
  clear h
  induction n generalizing index carried before with
  | zero =>
    intro kept _ h
    simp [estimatesAlong] at h
  | succ n ih =>
    intro kept hkept h
    have hleft := hkept.remember ⟨trip, index, report, vehicle, carried⟩
      (svc.find kept ⟨trip, index, report, vehicle, carried⟩ .travel).estimate
    rw [estimatesAlong] at h
    cases before with
    | nil =>
      obtain ⟨rfl, -⟩ := List.cons.inj h
      rw [hkept.find_travel svc ⟨trip, index, report, vehicle, carried⟩]
      rfl
    | cons first before =>
      obtain ⟨rfl, hrest⟩ := List.cons.inj h
      have hlater := ih _ hleft hrest
      exact hlater

variable (trip report vehicle)

/-! ## Parts of the times -/

theorem predictStops_take {elapsed : Int} {es : List (StopEstimates R)}
    {stops : List (StopPrediction R)}
    (h : svc.predictStops trip report vehicle elapsed es = .ok stops) (k : Nat) :
    svc.predictStops trip report vehicle elapsed (es.take k) = .ok (stops.take k) := by
  induction es generalizing elapsed stops k with
  | nil =>
    cases h
    rw [List.take_nil, List.take_nil, predictStops]
  | cons e rest ih =>
    cases k with
    | zero => rfl
    | succ k =>
      obtain ⟨stop, hstop, hrest⟩ := exists_of_bind_eq_ok h
      obtain ⟨others, hothers, rfl⟩ := exists_of_map_eq_ok hrest
      rw [List.take_succ_cons, List.take_succ_cons, predictStops, hstop]
      simp only [Except.bind, ih hothers k]
      rfl

theorem predictStops_of_take_error {elapsed : Int} {es : List (StopEstimates R)} {k : Nat}
    {f : Failure R}
    (h : svc.predictStops trip report vehicle elapsed (es.take k) = .error f) :
    svc.predictStops trip report vehicle elapsed es = .error f := by
  induction es generalizing elapsed k with
  | nil =>
    rw [List.take_nil] at h
    exact h
  | cons e rest ih =>
    cases k with
    | zero => cases h
    | succ k =>
      rw [List.take_succ_cons, predictStops] at h
      rw [predictStops]
      cases hstop : svc.stopPrediction ⟨trip, e.stopPathIndex, report, vehicle, none⟩ e.travel
          e.dwell (saturate (elapsed + e.travel.millis))
            (saturate (saturate (elapsed + e.travel.millis) + e.dwell.millis)) with
      | error other =>
        rw [hstop] at h
        exact h
      | ok stop =>
        rw [hstop] at h
        simp only [Except.bind] at h
        cases hrest : svc.predictStops trip report vehicle
            (saturate (saturate (elapsed + e.travel.millis) + e.dwell.millis)) (rest.take k) with
        | ok stops =>
          rw [hrest] at h
          cases h
        | error other =>
          rw [hrest] at h
          cases h
          simp only [Except.bind, ih hrest]
          rfl

/-! ## Requests -/

omit trip report vehicle

variable {request : TripRequest} {trip : Trip}

theorem result_predictTrip (htrip : svc.trip? request.vehicle.tripId = some trip) (m : Memory R) :
    (svc.predictTrip request m).result =
      (svc.walk trip request.report request.vehicle (request.length trip) request.stopPathIndex
        none 0 m).result.map fun stops =>
          ⟨trip.tripId, request.vehicle.vehicleId, request.report.time, stops⟩ := by
  rw [predictTrip, htrip]
  rfl

variable {m : Memory R} {p : TripPrediction R}

/-- The stops of an answer have the estimates along the walk. -/
theorem map_estimates_predictTrip (htrip : svc.trip? request.vehicle.tripId = some trip)
    (h : (svc.predictTrip request m).result = .ok p) :
    p.stops.map StopPrediction.estimates =
      svc.estimatesAlong trip request.report request.vehicle (request.length trip)
        request.stopPathIndex none m := by
  rw [svc.result_predictTrip htrip] at h
  obtain ⟨stops, hstops, rfl⟩ := exists_of_map_eq_ok h
  exact svc.map_estimates_walk trip request.report request.vehicle hstops

theorem not_lacksBucket_of_mem (htrip : svc.trip? request.vehicle.tripId = some trip)
    (h : (svc.predictTrip request m).result = .ok p) {stop : StopPrediction R}
    (hstop : stop ∈ p.stops) :
    ¬ svc.LacksBucket trip .travel request.report ∧
      ¬ svc.LacksBucket trip .dwell request.report := by
  have hlength : request.length trip ≠ 0 := by
    intro hzero
    have hestimates := svc.map_estimates_predictTrip htrip h
    rw [hzero, estimatesAlong, List.map_eq_nil_iff] at hestimates
    rw [hestimates] at hstop
    cases hstop
  rw [← not_or]
  intro hlacks
  rw [svc.predictTrip_of_lacksBucket htrip hlength hlacks m] at h
  cases h

end Service

end Headway
