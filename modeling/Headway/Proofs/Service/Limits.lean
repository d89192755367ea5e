import Headway.Proofs.Service.Walk

/-!
# Walks with a limit

A limit only cuts a walk. A walk with a smaller limit has the first stops of one with a greater
limit, and what ends it ends the longer walk in the same way (`Service.limits_cut_walks`). The first
travel estimate of a walk and all its dwell estimates are those of single predictions.

The other travel estimates need not be: they may start from an error that is carried along.
-/

namespace Headway

variable {R : Type}

/-- A limit allows no more than another one. Without a limit everything is allowed. -/
def NoLonger : Option Nat → Option Nat → Prop
  | _, none => True
  | none, some _ => False
  | some k, some n => k ≤ n

/-- The first members of a list, as many as a limit allows. -/
def cut {α : Type} : Option Nat → List α → List α
  | none, xs => xs
  | some k, xs => xs.take k

namespace TripRequest

variable (request : TripRequest) (trip : Trip)

/-- The same request with another limit. -/
def withLimit (limit : Option Nat) : TripRequest := { request with maxStopPaths := limit }

/-- The first stop path behind the walk, if the walk does not start there or later. -/
def walkEnd : Nat :=
  match request.maxStopPaths with
  | some limit => min trip.stopPathCount (request.stopPathIndex + limit)
  | none => trip.stopPathCount

theorem length_eq_walkEnd_sub :
    request.length trip = request.walkEnd trip - request.stopPathIndex := by
  unfold length walkEnd
  cases request.maxStopPaths with
  | none => rfl
  | some limit =>
    simp only
    omega

variable {limit other : Option Nat}

theorem length_withLimit_le (h : NoLonger limit other) :
    (request.withLimit limit).length trip ≤ (request.withLimit other).length trip := by
  unfold length withLimit
  cases other with
  | none =>
    cases limit with
    | none => exact Nat.le_refl _
    | some k => exact Nat.min_le_left _ _
  | some n =>
    cases limit with
    | none => cases h
    | some k => exact Nat.le_min.mpr ⟨Nat.min_le_left _ _, Nat.le_trans (Nat.min_le_right _ _) h⟩

theorem length_withLimit_of_le {k : Nat} (h : k ≤ request.length trip) :
    (request.withLimit (some k)).length trip = k := by
  have hlimit : NoLonger request.maxStopPaths none := trivial
  exact Nat.min_eq_right (h.trans (request.length_withLimit_le trip hlimit))

theorem cut_eq_take {α : Type} {xs : List α} (h : NoLonger limit other)
    (hlength : xs.length = (request.withLimit other).length trip) :
    cut limit xs = xs.take ((request.withLimit limit).length trip) := by
  have hrest : xs.length ≤ trip.stopPathCount - request.stopPathIndex := by
    have hall : NoLonger other none := trivial
    rw [hlength]
    exact request.length_withLimit_le trip hall
  cases limit with
  | none => exact (List.take_of_length_le hrest).symm
  | some k =>
    show xs.take k = xs.take (min (trip.stopPathCount - request.stopPathIndex) k)
    rw [Nat.min_comm, ← List.take_take, List.take_of_length_le hrest]

end TripRequest

namespace Service

variable [Scalar R] (svc : Service R)

theorem result_walk_of_le (trip : Trip) (report : Report) (vehicle : VehicleState) {k n : Nat}
    (h : k ≤ n) (index : Nat) (carried : Option R) (elapsed : Int) (m : Memory R) :
    (∀ stops, (svc.walk trip report vehicle n index carried elapsed m).result = .ok stops →
      (svc.walk trip report vehicle k index carried elapsed m).result = .ok (stops.take k)) ∧
    ∀ f, (svc.walk trip report vehicle k index carried elapsed m).result = .error f →
      (svc.walk trip report vehicle n index carried elapsed m).result = .error f := by
  by_cases hlacks : svc.LacksBucket trip .travel report ∨ svc.LacksBucket trip .dwell report
  · -- the first record ends every walk that has a stop
    cases k with
    | zero =>
      have hnone : (svc.walk trip report vehicle 0 index carried elapsed m).result = .ok [] := rfl
      rw [hnone]
      refine ⟨fun _ _ => rfl, ?_⟩
      intro f hf
      cases hf
    | succ k =>
      obtain ⟨n, rfl⟩ := Nat.exists_eq_succ_of_ne_zero (Nat.ne_zero_of_lt h)
      rw [svc.walk_of_lacksBucket vehicle hlacks, svc.walk_of_lacksBucket vehicle hlacks]
      refine ⟨?_, fun _ hf => hf⟩
      intro stops hstops
      cases hstops
  · obtain ⟨htravel, hdwell⟩ := not_or.mp hlacks
    rw [svc.result_walk vehicle htravel hdwell, svc.result_walk vehicle htravel hdwell,
      ← svc.take_estimatesAlong trip report vehicle h]
    exact ⟨fun _ hstops => svc.predictStops_take trip report vehicle hstops k,
      fun _ hf => svc.predictStops_of_take_error trip report vehicle hf⟩

variable {request : TripRequest} {trip : Trip} {m : Memory R} {p : TripPrediction R}

theorem map_stopPathIndex_predictTrip (htrip : svc.trip? request.vehicle.tripId = some trip)
    (h : (svc.predictTrip request m).result = .ok p) :
    p.stops.map StopPrediction.stopPathIndex =
      List.range' request.stopPathIndex (request.length trip) := by
  have hindices := congrArg (List.map StopEstimates.stopPathIndex)
    (svc.map_estimates_predictTrip htrip h)
  rw [map_stopPathIndex_estimatesAlong, List.map_map] at hindices
  exact hindices

theorem length_predictTrip (htrip : svc.trip? request.vehicle.tripId = some trip)
    (h : (svc.predictTrip request m).result = .ok p) :
    p.stops.length = request.length trip := by
  have hindices := congrArg List.length (svc.map_stopPathIndex_predictTrip htrip h)
  rwa [List.length_map, List.length_range'] at hindices

theorem result_predictTrip_withLimit (htrip : svc.trip? request.vehicle.tripId = some trip)
    {k : Nat} (h : k ≤ request.length trip) (m : Memory R) :
    (svc.predictTrip (request.withLimit (some k)) m).result =
      (svc.walk trip request.report request.vehicle k request.stopPathIndex none 0 m).result.map
        fun stops => ⟨trip.tripId, request.vehicle.vehicleId, request.report.time, stops⟩ := by
  have hknown : svc.trip? (request.withLimit (some k)).vehicle.tripId = some trip := htrip
  rw [svc.result_predictTrip hknown, request.length_withLimit_of_le trip h]
  rfl

theorem result_predict (htrip : svc.trip? request.vehicle.tripId = some trip)
    (h : (svc.predictTrip request m).result = .ok p) {stop : StopPrediction R}
    (hstop : stop ∈ p.stops) (leg : Leg) :
    (svc.predict request.vehicle.tripId stop.stopPathIndex leg request.report request.vehicle
        m).result =
      .ok (svc.find m ⟨trip, stop.stopPathIndex, request.report, request.vehicle, none⟩
        leg).estimate := by
  obtain ⟨htravel, hdwell⟩ := svc.not_lacksBucket_of_mem htrip h hstop
  rw [predict, htrip]
  cases leg with
  | travel => exact svc.result_estimate_of_not_lacksBucket _ m htravel
  | dwell => exact svc.result_estimate_of_not_lacksBucket _ m hdwell

/-- An answered walk goes through the stop paths from the start to the limit or the end of the trip.
Its first travel estimate and its dwell estimates are those of single predictions from the same
memory. A walk with a smaller limit has the first of its stops; and a walk that fails fails in the
same way with a greater limit. -/
theorem limits_cut_walks (htrip : svc.trip? request.vehicle.tripId = some trip) (m : Memory R) :
    (∀ p, (svc.predictTrip request m).result = .ok p →
      p.stops.map StopPrediction.stopPathIndex =
          List.range' request.stopPathIndex (request.walkEnd trip - request.stopPathIndex) ∧
        (∀ stop, p.stops.head? = some stop →
          (svc.predict request.vehicle.tripId stop.stopPathIndex .travel request.report
            request.vehicle m).result = .ok stop.travel) ∧
        ∀ stop ∈ p.stops,
          (svc.predict request.vehicle.tripId stop.stopPathIndex .dwell request.report
            request.vehicle m).result = .ok stop.dwell) ∧
    ∀ limit other, NoLonger limit other →
      (∀ p, (svc.predictTrip (request.withLimit other) m).result = .ok p →
        (svc.predictTrip (request.withLimit limit) m).result =
          .ok { p with stops := cut limit p.stops }) ∧
      ∀ f, (svc.predictTrip (request.withLimit limit) m).result = .error f →
        (svc.predictTrip (request.withLimit other) m).result = .error f := by
  constructor
  · intro p hp
    have hestimates := svc.map_estimates_predictTrip htrip hp
    refine ⟨?_, ?_, ?_⟩
    · rw [← request.length_eq_walkEnd_sub]
      exact svc.map_stopPathIndex_predictTrip htrip hp
    · intro stop hfirst
      obtain ⟨rest, hstops⟩ := List.head?_eq_some_iff.mp hfirst
      rw [hstops, List.map_cons, ← List.nil_append (stop.estimates :: _)] at hestimates
      have htravel := svc.travel_of_append hestimates.symm
      rw [svc.result_predict htrip hp (hstops ▸ List.mem_cons_self)]
      exact congrArg Except.ok htravel.symm
    · intro stop hstop
      have hdwell := svc.dwell_of_mem_estimatesAlong
        (hestimates ▸ List.mem_map_of_mem hstop)
      rw [svc.result_predict htrip hp hstop]
      exact congrArg Except.ok hdwell.symm
  · intro limit other hlimits
    have hknown (limit : Option Nat) :
        svc.trip? (request.withLimit limit).vehicle.tripId = some trip := htrip
    have hle := request.length_withLimit_le trip hlimits
    obtain ⟨hok, herror⟩ := svc.result_walk_of_le trip request.report request.vehicle hle
      request.stopPathIndex none 0 m
    constructor
    · intro p hp
      have hlength := svc.length_predictTrip (hknown other) hp
      rw [svc.result_predictTrip (hknown other)] at hp
      obtain ⟨stops, hstops, rfl⟩ := exists_of_map_eq_ok hp
      rw [svc.result_predictTrip (hknown limit),
        request.cut_eq_take trip hlimits hlength]
      exact congrArg (Except.map _) (hok stops hstops)
    · intro f hf
      rw [svc.result_predictTrip (hknown limit),
        map_eq_error_iff] at hf
      rw [svc.result_predictTrip (hknown other), map_eq_error_iff]
      exact herror f hf

/-! ### A walk of two stops -/

theorem limits_cut_walks_shuttle :
    ∃ trip p first second, shuttle.trip? shuttleRest.vehicle.tripId = some trip ∧
      (shuttle.predictTrip shuttleRest (shuttle.memoryAfter [])).result = .ok p ∧
      p.stops = [first, second] ∧ NoLonger (some 1) none ∧
      (shuttle.predictTrip (shuttleRest.withLimit (some 1)) (shuttle.memoryAfter [])).result =
        .ok { p with stops := [first] } := by
  have htrip : shuttle.trip? shuttleRest.vehicle.tripId =
      some ⟨"T", "S", false, some 0, ["A", "B"], [0, 90000], [0, 0]⟩ := rfl
  obtain ⟨p, first, second, hp, hstops⟩ : ∃ p first second,
      (shuttle.predictTrip shuttleRest (shuttle.memoryAfter [])).result = .ok p ∧
        p.stops = [first, second] := ⟨_, _, _, rfl, rfl⟩
  obtain ⟨-, hlimits⟩ := limits_cut_walks shuttle htrip (shuttle.memoryAfter [])
  have hcut := (hlimits (some 1) none trivial).1 p hp
  rw [hstops] at hcut
  exact ⟨_, p, first, second, htrip, hp, hstops, trivial, hcut⟩

end Service

end Headway
