import Headway.Proofs.Service.Limits

/-!
# Prediction records

Where records are kept, an estimate of a kind that is to be recorded gives one, and any other gives
none (`Service.records_estimate_of_bucket`). What a Kalman estimate is compared with gives none
either: the comparison is part of the search and only adds notices.

A walk gives the records of the estimates along it, travel before dwell, up to and with the stop at
which it fails (`Service.exists_records_walk`). How far it gets is told by the answers under smaller
limits (`Service.Walked`). `Service.one_record_per_estimate` puts this together for requests.
-/

namespace Headway

variable {R : Type}

/-- A walk of `n` stops goes along so many of them: all of them when it is answered, and else those
up to the one at which it fails, without which it is answered. -/
def EndsAfter {α : Type} (answer : Nat → Except (Failure R) α) (n walked : Nat) : Prop :=
  (walked = n ∧ ∃ a, answer n = .ok a) ∨
    ∃ k f, walked = k + 1 ∧ walked ≤ n ∧ (∃ a, answer k = .ok a) ∧ answer walked = .error f

/-- With one more stop in front, a walk ends one stop later. -/
theorem EndsAfter.succ {α β : Type} {answer : Nat → Except (Failure R) α}
    {longer : Nat → Except (Failure R) β} {n walked : Nat} {f : α → β}
    (h : EndsAfter answer n walked) (hlonger : ∀ k, longer (k + 1) = (answer k).map f) :
    EndsAfter longer (n + 1) (walked + 1) := by
  rcases h with ⟨rfl, a, ha⟩ | ⟨k, e, rfl, hle, ⟨a, ha⟩, he⟩
  · refine Or.inl ⟨rfl, f a, ?_⟩
    rw [hlonger, ha]
    rfl
  · refine Or.inr ⟨k + 1, e, rfl, Nat.succ_le_succ hle, ⟨f a, ?_⟩, ?_⟩
    · rw [hlonger, ha]
      rfl
    · rw [hlonger, he]
      rfl

namespace Service

/-! ## The records of estimates -/

section Estimates

variable (svc : Service R) (trip : Trip) (report : Report) (vehicle : VehicleState) (bucket : Int)

/-- The records that are to be made of an estimate, for a report in a bucket. -/
def recordsFor (index : Nat) (leg : Leg) (e : Estimate R) : List PredictionRecord :=
  if svc.recordsLeg leg then
    [{ vehicleId := vehicle.vehicleId
       generatedAt := report.time
       millis := e.millis
       tripId := trip.tripId
       stopPathIndex := index
       algorithm := e.algorithm
       leg
       bucket := if trip.byFrequency then some bucket else none }]
  else []

/-- The records that are to be made of the estimates for a stop path. -/
def recordsOfStop (e : StopEstimates R) : List PredictionRecord :=
  svc.recordsFor trip report vehicle bucket e.stopPathIndex .travel e.travel ++
    svc.recordsFor trip report vehicle bucket e.stopPathIndex .dwell e.dwell

variable {svc report bucket} (hkept : svc.recorder = .kept)
  (hbucket : svc.clock.bucket report.time = .ok bucket)

include hkept hbucket

theorem recordOf_of_bucket (index : Nat) (carried : Option R) (leg : Leg) (e : Estimate R) :
    svc.recordOf ⟨trip, index, report, vehicle, carried⟩ leg e =
      .ok (svc.recordsFor trip report vehicle bucket index leg e) := by
  unfold recordOf recordsFor
  split
  · cases trip.byFrequency with
    | false => rfl
    | true =>
      rw [if_pos rfl, hbucket]
      rfl
  · rfl

theorem records_estimate_of_bucket [Scalar R] (index : Nat) (carried : Option R) (leg : Leg)
    (m : Memory R) :
    (svc.estimate leg ⟨trip, index, report, vehicle, carried⟩ m).records =
      svc.recordsFor trip report vehicle bucket index leg
        (svc.find m ⟨trip, index, report, vehicle, carried⟩ leg).estimate := by
  rw [records_estimate, recordOf_of_bucket trip vehicle hkept hbucket]

omit hkept in
theorem not_lacksBucket_of_bucket (leg : Leg) : ¬ svc.LacksBucket trip leg report := by
  rintro ⟨-, -, hlocal⟩
  rw [ServiceClock.bucket, ServiceClock.toLocal, hlocal] at hbucket
  cases hbucket

end Estimates

/-! ## The records of walks -/

section Walks

variable [Scalar R] {svc : Service R} (trip : Trip) {report : Report} (vehicle : VehicleState)

/-- When the estimates for the first stop of a walk can be made, their records come first. -/
theorem records_walk_succ {index : Nat} {carried : Option R} {m kept : Memory R}
    {travel dwell : Estimate R}
    (hmemory : (svc.estimate .travel ⟨trip, index, report, vehicle, carried⟩ m).memory = kept)
    (htravel : (svc.estimate .travel ⟨trip, index, report, vehicle, carried⟩ m).result =
      .ok travel)
    (hdwell : (svc.estimate .dwell ⟨trip, index, report, vehicle, travel.filterError.or carried⟩
      kept).result = .ok dwell) (n : Nat) (elapsed : Int) :
    (svc.walk trip report vehicle (n + 1) index carried elapsed m).records =
      (svc.estimate .travel ⟨trip, index, report, vehicle, carried⟩ m).records ++
        ((svc.estimate .dwell ⟨trip, index, report, vehicle, travel.filterError.or carried⟩
            kept).records ++
          match svc.stopPrediction ⟨trip, index, report, vehicle, travel.filterError.or carried⟩
            travel dwell (saturate (elapsed + travel.millis))
            (saturate (saturate (elapsed + travel.millis) + dwell.millis)) with
          | .ok _ =>
            (svc.walk trip report vehicle n (index + 1) (travel.filterError.or carried)
              (saturate (saturate (elapsed + travel.millis) + dwell.millis)) kept).records
          | .error _ => []) := by
  subst hmemory
  rw [walk, Step.andThen_of_ok htravel]
  simp only
  rw [Step.andThen_of_ok hdwell, memory_estimate_dwell]
  cases svc.stopPrediction ⟨trip, index, report, vehicle, travel.filterError.or carried⟩ travel
    dwell (saturate (elapsed + travel.millis))
      (saturate (saturate (elapsed + travel.millis) + dwell.millis)) with
  | ok stop => rfl
  | error f => rfl

variable {bucket : Int} (hkept : svc.recorder = .kept)
  (hbucket : svc.clock.bucket report.time = .ok bucket)

include hkept hbucket

/-- The first stop path of a walk gives its records. Then the walk fails, or goes on in the same way
whatever its length. -/
theorem records_walk_succ_cases (index : Nat) (carried : Option R) (elapsed : Int) (m : Memory R) :
    let travel := (svc.find m ⟨trip, index, report, vehicle, carried⟩ .travel).estimate
    let kept := remember m ⟨trip, index, report, vehicle, carried⟩ travel
    let dwell := (svc.find kept ⟨trip, index, report, vehicle, travel.filterError.or carried⟩
      .dwell).estimate
    let first := svc.recordsOfStop trip report vehicle bucket ⟨index, travel, dwell⟩
    (∃ f, ∀ n,
      let whole := svc.walk trip report vehicle (n + 1) index carried elapsed m
      whole.records = first ∧ whole.result = .error f) ∨
    ∃ later stop, ∀ n,
      let whole := svc.walk trip report vehicle (n + 1) index carried elapsed m
      let rest := svc.walk trip report vehicle n (index + 1) (travel.filterError.or carried) later
        kept
      whole.records = first ++ rest.records ∧ whole.result = rest.result.map (stop :: ·) := by
  intro travel kept dwell first
  have hmemory : (svc.estimate .travel ⟨trip, index, report, vehicle, carried⟩ m).memory = kept :=
    svc.memory_estimate .travel _ m
  have htravel : (svc.estimate .travel ⟨trip, index, report, vehicle, carried⟩ m).result =
      .ok travel :=
    svc.result_estimate_of_not_lacksBucket _ m (not_lacksBucket_of_bucket trip hbucket .travel)
  have hdwell : (svc.estimate .dwell ⟨trip, index, report, vehicle, travel.filterError.or carried⟩
      kept).result = .ok dwell :=
    svc.result_estimate_of_not_lacksBucket _ kept (not_lacksBucket_of_bucket trip hbucket .dwell)
  have hrecords (n : Nat) := records_walk_succ trip vehicle hmemory htravel hdwell n elapsed
  rw [records_estimate_of_bucket trip vehicle hkept hbucket,
    records_estimate_of_bucket trip vehicle hkept hbucket] at hrecords
  have hresult (n : Nat) := svc.result_walk_succ trip report vehicle n index carried elapsed m
  simp only [htravel, hmemory, hdwell, Except.bind] at hresult
  -- both estimates are made before the times are told, so a stop that fails has its records too
  cases hstop : svc.stopPrediction ⟨trip, index, report, vehicle, travel.filterError.or carried⟩
      travel dwell (saturate (elapsed + travel.millis))
      (saturate (saturate (elapsed + travel.millis) + dwell.millis)) with
  | error f =>
    refine Or.inl ⟨f, fun n => ⟨?_, ?_⟩⟩
    · rw [hrecords, hstop]
      simp only [List.append_nil]
      rfl
    · rw [hresult, hstop]
  | ok stop =>
    refine Or.inr ⟨saturate (saturate (elapsed + travel.millis) + dwell.millis), stop,
      fun n => ⟨?_, ?_⟩⟩
    · rw [hrecords, hstop, ← List.append_assoc]
      rfl
    · rw [hresult, hstop]

/-- A walk gives the records of the estimates along it, up to the stop path at which it ends. -/
theorem exists_records_walk (n index : Nat) (carried : Option R) (elapsed : Int) (m : Memory R) :
    ∃ walked,
      (svc.walk trip report vehicle n index carried elapsed m).records =
        (svc.estimatesAlong trip report vehicle walked index carried m).flatMap
          (svc.recordsOfStop trip report vehicle bucket) ∧
      EndsAfter (fun k => (svc.walk trip report vehicle k index carried elapsed m).result) n
        walked := by
  induction n generalizing index carried elapsed m with
  | zero => exact ⟨0, rfl, Or.inl ⟨rfl, [], rfl⟩⟩
  | succ n ih =>
    rcases records_walk_succ_cases trip vehicle hkept hbucket index carried elapsed m with
      ⟨f, hfails⟩ | ⟨later, stop, hgoes⟩
    · refine ⟨1, ?_, Or.inr ⟨0, f, rfl, Nat.succ_le_succ (Nat.zero_le n), ⟨[], rfl⟩, ?_⟩⟩
      · rw [(hfails n).1, estimatesAlong, estimatesAlong, List.flatMap_cons, List.flatMap_nil,
          List.append_nil]
      · exact (hfails 0).2
    · obtain ⟨walked, hrecords, hends⟩ := ih (index + 1) _ later _
      refine ⟨walked + 1, ?_, hends.succ fun k => (hgoes k).2⟩
      rw [(hgoes n).1, hrecords, estimatesAlong, List.flatMap_cons]

end Walks

/-! ## Requests -/

variable [Scalar R] {svc : Service R} {trip : Trip} {m : Memory R}

/-- So many stops are walked for a request: all of them when it is answered, with the estimates
along the walk; and else those up to the first that cannot be answered, before which a smaller limit
would have ended the walk. -/
def Walked (svc : Service R) (trip : Trip) (request : TripRequest) (m : Memory R)
    (walked : Nat) : Prop :=
  let estimates (n : Nat) :=
    svc.estimatesAlong trip request.report request.vehicle n request.stopPathIndex none m
  (∃ p, (svc.predictTrip request m).result = .ok p ∧ walked = request.length trip ∧
      p.stops.map StopPrediction.estimates = estimates walked) ∨
    ∃ k f p, walked = k + 1 ∧ walked ≤ request.length trip ∧
      (svc.predictTrip request m).result = .error f ∧
      (svc.predictTrip (request.withLimit (some k)) m).result = .ok p ∧
      p.stops.map StopPrediction.estimates = estimates k ∧
      (svc.predictTrip (request.withLimit (some walked)) m).result = .error f

/-- A request walks as many stops as the walk that it asks for. -/
theorem walked_of_endsAfter {request : TripRequest} {walked : Nat}
    (htrip : svc.trip? request.vehicle.tripId = some trip)
    (h : EndsAfter (fun k => (svc.walk trip request.report request.vehicle k
      request.stopPathIndex none 0 m).result) (request.length trip) walked) :
    svc.Walked trip request m walked := by
  have hwhole := svc.result_predictTrip htrip m
  rcases h with ⟨rfl, stops, hstops⟩ | ⟨k, f, rfl, hle, ⟨stops, hstops⟩, hf⟩
  · simp only at hstops
    rw [hstops] at hwhole
    exact Or.inl ⟨_, hwhole, rfl, svc.map_estimates_predictTrip htrip hwhole⟩
  · have hshorter := svc.result_predictTrip_withLimit htrip (Nat.le_of_succ_le hle) m
    have hfails := svc.result_predictTrip_withLimit htrip hle m
    simp only at hstops hf
    rw [hstops] at hshorter
    rw [hf] at hfails
    rw [(svc.result_walk_of_le trip request.report request.vehicle hle _ none 0 m).2 f hf] at hwhole
    exact Or.inr ⟨k, f, _, rfl, hle, hwhole, hshorter,
      svc.map_estimates_walk trip request.report request.vehicle hstops, hfails⟩

/-- Where records are kept, and the time of the report has a local time, every estimate of a kind
that is to be recorded gives one record, in the order in which the estimates are made: the one that
is asked for, or travel and dwell for each stop that is walked. There are no other records, and none
for a trip that the schedule does not have. -/
theorem one_record_per_estimate (hkept : svc.recorder = .kept) {report : Report} {l : Instant}
    (hlocal : svc.clock.zone.local? report.time = some l) (vehicle : VehicleState)
    (m : Memory R) :
    ∃ bucket, svc.clock.bucket report.time = .ok bucket ∧
      (∀ tripId index leg,
        let step := svc.predict tripId index leg report vehicle m
        (svc.trip? tripId = none → step.records = []) ∧
        ∀ trip, svc.trip? tripId = some trip → ∃ e, step.result = .ok e ∧
          step.records = svc.recordsFor trip report vehicle bucket index leg e) ∧
      ∀ index limit,
        let request : TripRequest := ⟨report, vehicle, index, limit⟩
        let step := svc.predictTrip request m
        (svc.trip? vehicle.tripId = none → step.records = []) ∧
        ∀ trip, svc.trip? vehicle.tripId = some trip →
          ∃ walked, svc.Walked trip request m walked ∧
            step.records = (svc.estimatesAlong trip report vehicle walked index none m).flatMap
              (svc.recordsOfStop trip report vehicle bucket) := by
  have hbucket : svc.clock.bucket report.time = .ok (svc.clock.bucketOfLocal l) := by
    rw [ServiceClock.bucket, ServiceClock.toLocal, hlocal]
    rfl
  refine ⟨_, hbucket, ?_, ?_⟩
  · intro tripId index leg step
    constructor
    · intro hunknown
      simp only [step, predict, hunknown]
      rfl
    · intro trip htrip
      have hstep : step = svc.estimate leg ⟨trip, index, report, vehicle, none⟩ m := by
        simp only [step, predict, htrip]
      refine ⟨(svc.find m ⟨trip, index, report, vehicle, none⟩ leg).estimate, ?_, ?_⟩
      · rw [hstep]
        exact svc.result_estimate_of_not_lacksBucket _ m
          (not_lacksBucket_of_bucket trip hbucket leg)
      · rw [hstep]
        exact records_estimate_of_bucket trip vehicle hkept hbucket index none leg m
  · intro index limit request step
    constructor
    · intro hunknown
      simp only [step, predictTrip, request, hunknown]
      rfl
    · intro trip htrip
      have hrecords : step.records =
          (svc.walk trip report vehicle (request.length trip) index none 0 m).records := by
        simp only [step, predictTrip, request, htrip]
        rfl
      obtain ⟨walked, hwalk, hends⟩ := exists_records_walk trip vehicle hkept hbucket
        (request.length trip) index none 0 m
      exact ⟨walked, walked_of_endsAfter htrip hends, hrecords.trans hwalk⟩

/-! ### A walk that fails at its second stop -/

/-- Everything is recorded, of a trip by frequency that takes longer than 64 bits can tell. -/
noncomputable def shuttleStudy : Service ℝ :=
  { shuttle with
    settings := { shuttle.settings with
      strategy := { recordTravel := true, recordDwell := true }
      schedule := Schedule.ofTrips
        [⟨"F", "S", true, none, ["A", "B"], [60000, greatestMillis], [0, 0]⟩] } }

/-- The rest of that trip. -/
def studyRest : TripRequest := ⟨⟨"2", shuttleArrives⟩, ⟨"2", "F", none, none⟩, 0, none⟩

theorem one_record_per_estimate_study :
    let step := shuttleStudy.predictTrip studyRest (shuttleStudy.memoryAfter [])
    (∃ f, step.result = .error f) ∧
      step.records = [
        ⟨"2", shuttleArrives, 60000, "F", 0, .schedule, .travel, some (-10800)⟩,
        ⟨"2", shuttleArrives, 0, "F", 0, .schedule, .dwell, some (-10800)⟩,
        ⟨"2", shuttleArrives, greatestMillis, "F", 1, .schedule, .travel, some (-10800)⟩,
        ⟨"2", shuttleArrives, 0, "F", 1, .schedule, .dwell, some (-10800)⟩] := by
  intro step
  have hlocal : shuttleStudy.clock.zone.local? studyRest.report.time = some shuttleArrives := rfl
  have hkept : shuttleStudy.recorder = .kept := rfl
  obtain ⟨bucket, hbucket, -, htrip⟩ :=
    one_record_per_estimate hkept hlocal studyRest.vehicle (shuttleStudy.memoryAfter [])
  have hearly : shuttleStudy.clock.bucketOfLocal shuttleArrives = -10800 := by decide +kernel
  obtain rfl : -10800 = bucket := hearly.symm.trans (Except.ok.inj hbucket)
  obtain ⟨walked, hwalked, hrecords⟩ := (htrip 0 none).2 _ rfl
  have htwo : walked = 2 := by
    rcases hwalked with ⟨p, hp, -⟩ | ⟨k, f, p, rfl, hle, -, -, -, hf⟩
    · cases hp
    · have hle : k + 1 ≤ 2 := hle
      cases k with
      | zero => cases hf
      | succ k => omega
  subst htwo
  exact ⟨⟨_, rfl⟩, hrecords⟩

end Service

end Headway
