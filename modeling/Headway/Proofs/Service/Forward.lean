import Headway.Proofs.Bias
import Headway.Proofs.Service.Bounds
import Headway.Proofs.Service.Prediction

/-!
# Predicted times run forward

On a walk each time is the report's, moved by the corrected sum of the estimates before it
(`Service.walk_times`). When no estimate is negative the sums do not fall, so the order of the times
is a matter of the correction alone.

Without a correction, and with one that lengthens, a predicted trip runs forward: no time lies
before the report's or before an earlier one. With any other correction two times keep their order
where the correction leaves room between the sums (`predicted_times_run_forward`). It does not
always: with the standard exponential correction a vehicle may leave a stop before it arrives there
(`departure_before_arrival`).
-/

namespace Headway

variable {R : Type}

/-! ## Sums of estimates -/

namespace TripPrediction

/-- The times of a prediction in the order of the stops, after the time of the report. -/
def times (p : TripPrediction R) : List Instant :=
  p.generatedAt :: p.stops.flatMap fun stop => [stop.arrival, stop.departure]

/-- No estimate is negative. -/
def Nonneg (p : TripPrediction R) : Prop :=
  ∀ stop ∈ p.stops, 0 ≤ stop.travel.millis ∧ 0 ≤ stop.dwell.millis

/-- The times of a list of stops, each with the sum of the estimates before it. -/
def sums : Int → List (StopPrediction R) → List (Int × Instant)
  | _, [] => []
  | elapsed, stop :: rest =>
    let untilArrival := saturate (elapsed + stop.travel.millis)
    let untilDeparture := saturate (untilArrival + stop.dwell.millis)
    (untilArrival, stop.arrival) :: (untilDeparture, stop.departure) :: sums untilDeparture rest

/-- The times of a prediction, each with the sum of the estimates before it. -/
def moments (p : TripPrediction R) : List (Int × Instant) := (0, p.generatedAt) :: sums 0 p.stops

theorem map_snd_sums (elapsed : Int) (stops : List (StopPrediction R)) :
    (sums elapsed stops).map Prod.snd =
      stops.flatMap fun stop => [stop.arrival, stop.departure] := by
  induction stops generalizing elapsed with
  | nil => rfl
  | cons stop rest ih => simp only [sums, List.map_cons, ih, List.flatMap_cons, List.cons_append,
      List.nil_append]

theorem map_snd_moments (p : TripPrediction R) : p.moments.map Prod.snd = p.times := by
  rw [moments, List.map_cons, map_snd_sums, times]

theorem le_saturate_add {elapsed millis : Int} (helapsed : elapsed ≤ greatestMillis)
    (hmillis : 0 ≤ millis) : elapsed ≤ saturate (elapsed + millis) := by
  simp only [saturate, leastMillis, greatestMillis] at *
  omega

/-- Sums of estimates that are not negative start from what has passed and do not fall. -/
theorem pairwise_sums {elapsed : Int} (helapsed : elapsed ≤ greatestMillis)
    {stops : List (StopPrediction R)}
    (h : ∀ stop ∈ stops, 0 ≤ stop.travel.millis ∧ 0 ≤ stop.dwell.millis) :
    (∀ x ∈ sums elapsed stops, elapsed ≤ x.1) ∧
      (sums elapsed stops).Pairwise fun x y => x.1 ≤ y.1 := by
  induction stops generalizing elapsed with
  | nil => exact ⟨by simp [sums], .nil⟩
  | cons stop rest ih =>
    obtain ⟨htravel, hdwell⟩ := h stop List.mem_cons_self
    have harrival := le_saturate_add helapsed htravel
    have hdeparture := le_saturate_add
      (saturate_le_greatestMillis (elapsed + stop.travel.millis)) hdwell
    obtain ⟨hlater, hpairs⟩ := ih (saturate_le_greatestMillis _) fun next hnext =>
      h next (List.mem_cons_of_mem _ hnext)
    constructor
    · intro x hx
      simp only [sums, List.mem_cons] at hx
      rcases hx with rfl | rfl | hx
      · exact harrival
      · exact harrival.trans hdeparture
      · exact (harrival.trans hdeparture).trans (hlater x hx)
    · refine List.pairwise_cons.mpr ⟨fun x hx => ?_, List.pairwise_cons.mpr ⟨hlater, hpairs⟩⟩
      rcases List.mem_cons.mp hx with rfl | hx
      · exact hdeparture
      · exact hdeparture.trans (hlater x hx)

/-- The sums along a prediction are not negative and do not fall. -/
theorem Nonneg.pairwise_moments {p : TripPrediction R} (h : p.Nonneg) :
    p.moments.Pairwise fun x y => 0 ≤ x.1 ∧ x.1 ≤ y.1 := by
  obtain ⟨hnonneg, hpairs⟩ := pairwise_sums (by decide : (0 : Int) ≤ greatestMillis) h
  refine List.pairwise_cons.mpr ⟨fun y hy => ⟨le_refl _, hnonneg y hy⟩, ?_⟩
  exact hpairs.imp_of_mem fun hx _ hle => ⟨hnonneg _ hx, hle⟩

end TripPrediction

/-! ## Times of a walk -/

namespace Service

variable [Scalar R] (svc : Service R) {m : Memory R}

/-- Every time on a walk is the report's, moved by the corrected sum of the estimates before it. -/
theorem walk_times (trip : Trip) (report : Report) (vehicle : VehicleState) (n index : Nat)
    (carried : Option R) (elapsed : Int) (m : Memory R) :
    (svc.walk trip report vehicle n index carried elapsed m).Keeps (fun _ => True) fun stops =>
      ∀ x ∈ TripPrediction.sums elapsed stops,
        report.time.addMillis? (svc.bias.adjust x.1) = some x.2 := by
  induction n generalizing index carried elapsed m with
  | zero => exact .done trivial (by simp [TripPrediction.sums])
  | succ n ih =>
    apply Step.Keeps.andThen (I := fun _ => True) (P := fun _ => True) ⟨trivial, fun _ _ => trivial⟩
    intro travel m _ _
    apply Step.Keeps.andThen (I := fun _ => True) (P := fun _ => True) ⟨trivial, fun _ _ => trivial⟩
    intro dwell m _ _
    simp only
    split
    · rename_i stop hstop
      obtain ⟨htravel, hdwell, harrival, hdeparture⟩ := svc.stopPrediction_eq_ok hstop
      refine (ih _ _ _ m).map ?_
      intro stops hstops x hx
      simp only [TripPrediction.sums, htravel, hdwell, List.mem_cons] at hx
      rcases hx with rfl | rfl | hx
      · exact harrival
      · exact hdeparture
      · exact hstops x hx
    · exact .fail trivial _

theorem predictTrip_times {request : TripRequest} {p : TripPrediction R}
    (h : (svc.predictTrip request m).result = .ok p) :
    p.generatedAt = request.report.time ∧ ∀ x ∈ TripPrediction.sums 0 p.stops,
      request.report.time.addMillis? (svc.bias.adjust x.1) = some x.2 := by
  unfold predictTrip at h
  cases htrip : svc.trip? request.vehicle.tripId with
  | none =>
    rw [htrip] at h
    cases h
  | some trip =>
    rw [htrip] at h
    refine (Step.Keeps.map (svc.walk_times trip request.report request.vehicle
      (request.length trip) request.stopPathIndex none 0 m) (Q := fun p =>
        p.generatedAt = request.report.time ∧ ∀ x ∈ TripPrediction.sums 0 p.stops,
          request.report.time.addMillis? (svc.bias.adjust x.1) = some x.2) ?_).result p h
    intro stops hstops
    exact ⟨rfl, hstops⟩

/-- Two predicted times stand in the order of their corrected sums. -/
theorem pairwise_moments_of_adjust (hzero : svc.bias.adjust 0 = 0) {request : TripRequest}
    {p : TripPrediction R} (h : (svc.predictTrip request m).result = .ok p) :
    p.moments.Pairwise fun x y =>
      svc.bias.adjust x.1 ≤ svc.bias.adjust y.1 → x.2 ≤ y.2 := by
  obtain ⟨hstart, htimes⟩ := svc.predictTrip_times h
  have hall : ∀ x ∈ p.moments,
      request.report.time.addMillis? (svc.bias.adjust x.1) = some x.2 := by
    intro x hx
    rcases List.mem_cons.mp hx with rfl | hx
    · rw [hzero, hstart]
      exact Instant.addMillis?_zero _
    · exact htimes x hx
  apply List.pairwise_of_forall_mem_list
  intro x hx y hy hle
  exact Instant.addMillis?_mono (hall x hx) (hall y hy) hle

end Service

/-! ## Order -/

theorem TripPrediction.pairwise_times {p : TripPrediction R}
    (h : p.moments.Pairwise fun x y => x.2 ≤ y.2) : p.times.Pairwise (· ≤ ·) := by
  rw [← p.map_snd_moments, List.pairwise_map]
  exact h

/-- When no estimate is negative, a predicted trip runs forward without a correction, and with one
that lengthens. With any correction the sums do not fall, and two times keep their order where the
correction leaves room between their sums. -/
theorem predicted_times_run_forward :
    (∀ {R : Type} [Scalar R] (svc : Service R) (m : Memory R) (request : TripRequest)
      (p : TripPrediction R), (svc.predictTrip request m).result = .ok p → p.Nonneg →
        svc.bias = .none → p.times.Pairwise (· ≤ ·)) ∧
    ∀ (svc : Service ℝ) (m : Memory ℝ) (request : TripRequest) (p : TripPrediction ℝ),
      (svc.predictTrip request m).result = .ok p → p.Nonneg →
        (svc.bias.Lengthens → p.times.Pairwise (· ≤ ·)) ∧
        p.moments.Pairwise fun x y =>
          x.1 ≤ y.1 ∧ (svc.bias.LeavesRoom x.1 y.1 → x.2 ≤ y.2) := by
  constructor
  · intro R _ svc m request p hp hnonneg hbias
    have hadjust (ms : Int) : svc.bias.adjust ms = ms := by
      rw [hbias]
      rfl
    have htimes := svc.pairwise_moments_of_adjust (hadjust 0) hp
    apply TripPrediction.pairwise_times
    refine (htimes.and hnonneg.pairwise_moments).imp ?_
    rintro x y ⟨htime, -, hle⟩
    exact htime (by rw [hadjust, hadjust]; exact hle)
  · intro svc m request p hp hnonneg
    have htimes := svc.pairwise_moments_of_adjust svc.bias.adjust_zero hp
    have hboth := htimes.and hnonneg.pairwise_moments
    constructor
    · intro hlengthens
      apply TripPrediction.pairwise_times
      refine hboth.imp ?_
      rintro x y ⟨htime, hzero, hle⟩
      exact htime (Bias.adjust_le_adjust hle (hlengthens.leavesRoom hzero hle))
    · refine hboth.imp ?_
      rintro x y ⟨htime, -, hle⟩
      exact ⟨hle, fun hroom => htime (Bias.adjust_le_adjust hle hroom)⟩

/-! ### A trip of a minute -/

namespace Service

/-- A trip of a minute, less a millisecond, with a wait of one at its end. -/
def brief : Trip := ⟨"T", "S", false, some 0, ["A"], [59999], [1]⟩

/-- The standard constants of the corrections, in a given direction. -/
noncomputable def corrected (adjuster : BiasKind) (direction : Int) : Service ℝ :=
  { shuttle with
    settings := { shuttle.settings with
      bias :=
        { adjuster
          exponential := ⟨(11 : Int) / (10 : Int), 1 / (2 : Int), -1 / (2 : Int), direction⟩
          linear := ⟨(6 : Int) / (10000 : Int), direction⟩ }
      schedule := Schedule.ofTrips [brief] } }

/-- The whole trip is asked for. -/
def briefRequest : TripRequest := ⟨⟨"1", shuttleLeaves⟩, ⟨"1", "T", none, none⟩, 0, none⟩

/-- The prediction for the stop of the trip, given the corrected times and where they lead to. -/
def briefStop (a d : Int) (arrival departure : Instant) : StopPrediction ℝ where
  stopPathIndex := 0
  stopId := some "A"
  travel := ⟨59999, .schedule, none⟩
  dwell := ⟨1, .schedule, none⟩
  arrivalHorizon := a
  departureHorizon := d
  arrival := arrival
  departure := departure

theorem corrected_predicts {adjuster : BiasKind} {direction a d : Int} (arrival departure : Instant)
    (ha : (corrected adjuster direction).bias.adjust 59999 = a)
    (hd : (corrected adjuster direction).bias.adjust 60000 = d)
    (harrival : shuttleLeaves.addMillis? a = some arrival)
    (hdeparture : shuttleLeaves.addMillis? d = some departure) :
    ((corrected adjuster direction).predictTrip briefRequest
        (Memory.new (corrected adjuster direction).settings)).result =
      .ok ⟨"T", "1", shuttleLeaves, [briefStop a d arrival departure]⟩ := by
  have hstop : (corrected adjuster direction).stopPrediction
      ⟨brief, 0, briefRequest.report, briefRequest.vehicle, none⟩ ⟨59999, .schedule, none⟩
      ⟨1, .schedule, none⟩ 59999 60000 = .ok (briefStop a d arrival departure) := by
    unfold stopPrediction
    rw [ha, hd]
    simp only [horizonTime, briefRequest, harrival, hdeparture]
    rfl
  have hwalk : ((corrected adjuster direction).walk brief briefRequest.report
      briefRequest.vehicle 1 0 none 0 (Memory.new (corrected adjuster direction).settings)).result =
        .ok [briefStop a d arrival departure] := by
    rw [result_walk_succ]
    show (((corrected adjuster direction).stopPrediction
      ⟨brief, 0, briefRequest.report, briefRequest.vehicle, none⟩ ⟨59999, .schedule, none⟩
      ⟨1, .schedule, none⟩ 59999 60000).bind fun stop => .ok [stop]) = _
    rw [hstop]
    rfl
  show ((corrected adjuster direction).walk brief briefRequest.report briefRequest.vehicle
      1 0 none 0 (Memory.new (corrected adjuster direction).settings)).result.map _ = _
  rw [hwalk]
  rfl

theorem nonneg_brief (a d : Int) (arrival departure : Instant) :
    TripPrediction.Nonneg ⟨"T", "1", shuttleLeaves, [briefStop a d arrival departure]⟩ := by
  intro stop hstop
  rw [List.mem_singleton.mp hstop]
  exact ⟨show (0 : Int) ≤ 59999 by decide, show (0 : Int) ≤ 1 by decide⟩

/-- The percentage changes from the last millisecond of a minute to the first of the next. -/
theorem corrected_adjust (direction : Int) :
    (corrected .exponential direction).bias.adjust 59999 =
        Scalar.truncate (59999 * (1 + (direction : ℝ) / 100)) ∧
      (corrected .exponential direction).bias.adjust 60000 =
        Scalar.truncate (60000 * (1 + (direction : ℝ) * (105 / 100) / 100)) := by
  have hbias : (corrected .exponential direction).bias = .exponential
      ⟨(11 : Int) / (10 : Int), 1 / (2 : Int), -1 / (2 : Int), direction⟩ := rfl
  constructor
  · rw [hbias, Bias.adjust_real (by simp), Bias.stretch_exponential,
      show (Int.tdiv 59999 1000).tdiv 60 = 0 from rfl]
    congr 1
    norm_num
  · rw [hbias, Bias.adjust_real (by simp), Bias.stretch_exponential,
      show (Int.tdiv 60000 1000).tdiv 60 = 1 from rfl]
    congr 1
    norm_num

/-- The percentage of the linear correction counts whole tenths of a second. -/
theorem linear_adjust (direction ms : Int) :
    (corrected .linear direction).bias.adjust ms =
      Scalar.truncate (ms * (1 + (direction : ℝ) * ((ms.tdiv 100 : Int) * (6 / 10000)) / 100)) := by
  have hbias : (corrected .linear direction).bias =
      .linear ⟨(6 : Int) / (10000 : Int), direction⟩ := rfl
  rw [hbias, Bias.adjust_real (by simp), Bias.stretch_linear]
  push_cast
  rfl

/-- Shortened by the linear correction, the trip still leaves room between its times. -/
theorem linear_leavesRoom {arrival departure : Instant} {a d : Int} :
    (TripPrediction.moments ⟨"T", "1", shuttleLeaves, [briefStop a d arrival departure]⟩).Pairwise
      fun x y => (corrected .linear (-1)).bias.LeavesRoom x.1 y.1 := by
  have hbias : (corrected .linear (-1)).bias = .linear ⟨(6 : Int) / (10000 : Int), -1⟩ := rfl
  have hmoments : TripPrediction.moments
      ⟨"T", "1", shuttleLeaves, [briefStop a d arrival departure]⟩ =
        [(0, shuttleLeaves), (59999, arrival), (60000, departure)] := rfl
  rw [hmoments, hbias]
  simp only [List.pairwise_cons, Bias.LeavesRoom, Bias.stretch_linear]
  norm_num [show Int.tdiv 59999 100 = 599 from rfl, show Int.tdiv 60000 100 = 600 from rfl]

theorem brief_runs_forward :
    (∃ p, ((corrected .none 1).predictTrip briefRequest
          (Memory.new (corrected .none 1).settings)).result = .ok p ∧
        p.Nonneg ∧ (corrected .none 1).bias = .none ∧ p.times.Pairwise (· ≤ ·)) ∧
      (∃ p, ((corrected .exponential 1).predictTrip briefRequest
          (Memory.new (corrected .exponential 1).settings)).result = .ok p ∧
        p.Nonneg ∧ (corrected .exponential 1).bias.Lengthens ∧ p.times.Pairwise (· ≤ ·)) ∧
      ∃ p, ((corrected .linear (-1)).predictTrip briefRequest
          (Memory.new (corrected .linear (-1)).settings)).result = .ok p ∧
        p.Nonneg ∧ ¬ (corrected .linear (-1)).bias.Lengthens ∧
        (p.moments.Pairwise fun x y => (corrected .linear (-1)).bias.LeavesRoom x.1 y.1) ∧
        p.times.Pairwise (· ≤ ·) := by
  obtain ⟨hplain, hcorrected⟩ := predicted_times_run_forward
  refine ⟨?_, ?_, ?_⟩
  · have hp : ((corrected .none 1).predictTrip briefRequest _).result = _ :=
      corrected_predicts ((Instant.of? 99 999000000).get rfl) ((Instant.of? 100 0).get rfl)
        rfl rfl rfl rfl
    have hnonneg := nonneg_brief 59999 60000 ((Instant.of? 99 999000000).get rfl)
      ((Instant.of? 100 0).get rfl)
    exact ⟨_, hp, hnonneg, rfl, hplain _ _ _ _ hp hnonneg rfl⟩
  · have hlengthens : (corrected .exponential 1).bias.Lengthens := by
      show (1 : ℝ) ≤ (11 : Int) / (10 : Int) ∧ (0 : ℝ) ≤ (1 : Int) * (1 / (2 : Int)) ∧
        (0 : ℝ) ≤ (1 : Int) * (1 / (2 : Int) - -1 / (2 : Int))
      norm_num
    obtain ⟨ha, hd⟩ := corrected_adjust 1
    have harrival : (corrected .exponential 1).bias.adjust 59999 = 60598 := by
      rw [ha]
      apply Scalar.truncate_eq_of_nonneg (by decide) (by decide) <;> norm_num
    have hdeparture : (corrected .exponential 1).bias.adjust 60000 = 60630 := by
      rw [hd]
      apply Scalar.truncate_eq_of_nonneg (by decide) (by decide) <;> norm_num
    have hp := corrected_predicts ((Instant.of? 100 598000000).get rfl)
      ((Instant.of? 100 630000000).get rfl) harrival hdeparture rfl rfl
    have hnonneg := nonneg_brief 60598 60630 ((Instant.of? 100 598000000).get rfl)
      ((Instant.of? 100 630000000).get rfl)
    exact ⟨_, hp, hnonneg, hlengthens, (hcorrected _ _ _ _ hp hnonneg).1 hlengthens⟩
  · have hshortens : ¬ (corrected .linear (-1)).bias.Lengthens := by
      show ¬ (0 : ℝ) ≤ (-1 : Int) * ((6 : Int) / (10000 : Int))
      norm_num
    have harrival : (corrected .linear (-1)).bias.adjust 59999 = 59783 := by
      rw [linear_adjust, show Int.tdiv 59999 100 = 599 from rfl]
      apply Scalar.truncate_eq_of_nonneg (by decide) (by decide) <;> norm_num
    have hdeparture : (corrected .linear (-1)).bias.adjust 60000 = 59784 := by
      rw [linear_adjust, show Int.tdiv 60000 100 = 600 from rfl]
      apply Scalar.truncate_eq_of_nonneg (by decide) (by decide) <;> norm_num
    have hp := corrected_predicts ((Instant.of? 99 783000000).get rfl)
      ((Instant.of? 99 784000000).get rfl) harrival hdeparture rfl rfl
    have hnonneg := nonneg_brief 59783 59784 ((Instant.of? 99 783000000).get rfl)
      ((Instant.of? 99 784000000).get rfl)
    obtain ⟨-, htimes⟩ := hcorrected _ _ _ _ hp hnonneg
    refine ⟨_, hp, hnonneg, hshortens, linear_leavesRoom, TripPrediction.pairwise_times ?_⟩
    refine (htimes.and linear_leavesRoom).imp ?_
    rintro x y ⟨⟨-, hle⟩, hroom⟩
    exact hle hroom

/-- With the standard direction the vehicle leaves before it arrives. -/
theorem departure_before_arrival :
    (corrected .exponential (-1)).Checked Zone.named? ∧
      ∃ p, ((corrected .exponential (-1)).predictTrip briefRequest
          (Memory.new (corrected .exponential (-1)).settings)).result = .ok p ∧
        p.Nonneg ∧ ∃ stop ∈ p.stops, stop.departure < stop.arrival := by
  obtain ⟨ha, hd⟩ := corrected_adjust (-1)
  have harrival : (corrected .exponential (-1)).bias.adjust 59999 = 59399 := by
    rw [ha]
    apply Scalar.truncate_eq_of_nonneg (by decide) (by decide) <;> norm_num
  have hdeparture : (corrected .exponential (-1)).bias.adjust 60000 = 59370 := by
    rw [hd]
    apply Scalar.truncate_eq_of_nonneg (by decide) (by decide) <;> norm_num
  have hp := corrected_predicts ((Instant.of? 99 399000000).get rfl)
    ((Instant.of? 99 370000000).get rfl) harrival hdeparture rfl rfl
  refine ⟨⟨?_, rfl⟩, _, hp, nonneg_brief _ _ _ _, _, List.mem_singleton_self _, ?_⟩
  · rw [Settings.check_eq_ok_iff]
    simp only [Settings.faults, corrected, shuttle, shuttle_fraction]
    decide
  · show (Instant.of? 99 370000000).get rfl < (Instant.of? 99 399000000).get rfl
    decide

end Service

end Headway
