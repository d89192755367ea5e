import Headway.Proofs.Service.Prediction

/-!
# Means of too few samples do not show

A mean that rests on fewer samples than the settings ask for is passed over by the estimators, as if
its segment had none. So a prediction cannot tell a memory from the same memory without its sparse
means: the answer, the notices, the prediction records and the filter errors are the same
(`Service.sparse_means_do_not_show`).

Only one estimator reads means at all (`Service.fromMean_withoutSparse`). From there on every step
commutes with the loss of the sparse means, down a chain and its comparison with the rest of it, and
along a walk.
-/

namespace Headway

variable {R : Type}

/-! ## Without sparse means -/

/-- The store without the means that rest on fewer samples than a number. -/
def MeanStore.withoutSparse (s : MeanStore R) (least : Nat) : MeanStore R :=
  { s with entries := s.entries.retain fun _ e => least ≤ e.mean.count }

theorem MeanStore.get?_withoutSparse (s : MeanStore R) (least : Nat) (k : SegmentKey) :
    (s.withoutSparse least).get? k = (s.get? k).filter fun mean => least ≤ mean.count := by
  simp only [get?, withoutSparse, Table.get?_retain]
  cases s.entries.get? k with
  | none => rfl
  | some e =>
    by_cases hlive : s.retention.isLive e.lastDay = true <;>
      by_cases hcount : least ≤ e.mean.count <;> simp [Option.filter, hlive, hcount]

/-- The means without those that rest on fewer samples than a number. -/
def SegmentMeans.withoutSparse (means : SegmentMeans R) (least : Nat) : SegmentMeans R :=
  { means with store := means.store.withoutSparse least }

namespace Memory

/-- The memory without the means, of either sort, that rest on fewer samples than a number. -/
def withoutSparse (m : Memory R) (least : Nat) : Memory R :=
  { m with
    scheduleMeans := m.scheduleMeans.withoutSparse least
    frequencyMeans := m.frequencyMeans.withoutSparse least }

theorem means_withoutSparse (m : Memory R) (least : Nat) (byFrequency : Bool) :
    (m.withoutSparse least).means byFrequency = (m.means byFrequency).withoutSparse least := by
  cases byFrequency with
  | false => rfl
  | true => rfl

end Memory

/-! ## Attempts and steps -/

/-- To take no value that fails a condition is as good as to stop at the condition later. -/
theorem Attempt.ofOption_filter_bind {α β : Type} (x : Option α) (p : α → Bool)
    (f : α → Attempt R β) :
    (do
      let a ← ofOption (x.filter p)
      guard (p a)
      f a) =
    (do
      let a ← ofOption x
      guard (p a)
      f a) := by
  cases x with
  | none => rfl
  | some a =>
    cases hp : p a with
    | true => rw [Option.filter_some, if_pos hp]
    | false =>
      rw [Option.filter_some, if_neg (by simp [hp])]
      show _ = (guard (p a)).andThen _
      rw [hp]
      rfl

namespace Step

variable {α β : Type}

/-- Replaces the memory that a step leaves. -/
def mapMemory (f : Memory R → Memory R) (s : Step R α) : Step R α := { s with memory := f s.memory }

/-- What commutes with both parts of a sequence commutes with the sequence. -/
theorem mapMemory_andThen {f : Memory R → Memory R} (s : Step R α)
    {g : α → Memory R → Step R β} (h : ∀ a m, g a (f m) = (g a m).mapMemory f) :
    (s.mapMemory f).andThen g = (s.andThen g).mapMemory f := by
  unfold andThen mapMemory
  cases s.result with
  | error e => rfl
  | ok a => simp only [h, mapMemory]

/-- Two steps are answered alike, with the same notices and prediction records, and they leave the
same filter errors. -/
structure Alike (s t : Step R α) : Prop where
  result : s.result = t.result
  notices : s.notices = t.notices
  records : s.records = t.records
  filterErrors : s.memory.filterErrors = t.memory.filterErrors

theorem alike_mapMemory_withoutSparse (s : Step R α) (least : Nat) :
    Alike (s.mapMemory fun m => m.withoutSparse least) s := ⟨rfl, rfl, rfl, rfl⟩

end Step

namespace Service

variable [Scalar R] (svc : Service R)

/-- The memory without the means that the settings find too sparse. -/
def withoutSparse (m : Memory R) : Memory R := m.withoutSparse svc.settings.averages.minDays

/-! ## Estimates -/

theorem fromMean_withoutSparse (m : Memory R) (ctx : Context R) (leg : Leg) :
    svc.fromMean (svc.withoutSparse m) ctx leg = svc.fromMean m ctx leg := by
  simp only [fromMean, withoutSparse, Memory.means_withoutSparse, SegmentMeans.withoutSparse,
    MeanStore.get?_withoutSparse]
  simp only [Attempt.ofOption_filter_bind]

theorem fromKalman_withoutSparse (m : Memory R) (ctx : Context R) :
    svc.fromKalman (svc.withoutSparse m) ctx = svc.fromKalman m ctx := by
  have hdays (start : Option Int) : svc.previousPassages (svc.withoutSparse m) ctx start =
      svc.previousPassages m ctx start := by
    unfold previousPassages
    simp only [svc.searchDays_eq_of_get? (a := svc.withoutSparse m) (b := m) rfl]
  unfold fromKalman
  simp only [hdays]
  rfl

theorem find_withoutSparse (m : Memory R) (ctx : Context R) (leg : Leg) :
    svc.find (svc.withoutSparse m) ctx leg = svc.find m ctx leg := by
  cases leg with
  | travel =>
    apply svc.find_travel_congr
    intro s
    cases s with
    | historicalAverage => exact svc.fromMean_withoutSparse m ctx .travel
    | lastVehicle => rfl
    | kalman => exact svc.fromKalman_withoutSparse m ctx
    | scheduleDefault => rfl
  | dwell =>
    apply svc.find_dwell_congr
    intro s
    cases s with
    | dwellModel => rfl
    | historicalAverage => exact svc.fromMean_withoutSparse m ctx .dwell
    | scheduleDefault => rfl

theorem remember_withoutSparse (m : Memory R) (ctx : Context R) (e : Estimate R) :
    remember (svc.withoutSparse m) ctx e = svc.withoutSparse (remember m ctx e) := by
  unfold remember
  cases e.filterError with
  | none => rfl
  | some error => rfl

theorem estimate_withoutSparse (leg : Leg) (ctx : Context R) (m : Memory R) :
    svc.estimate leg ctx (svc.withoutSparse m) =
      (svc.estimate leg ctx m).mapMemory svc.withoutSparse := by
  unfold estimate
  simp only [find_withoutSparse, remember_withoutSparse]
  apply Step.mapMemory_andThen (Step.notify _ _)
  intro _ m
  apply Step.mapMemory_andThen (Step.ofLocal m _)
  intro records m
  rfl

/-! ## Requests -/

theorem predict_withoutSparse (tripId : String) (index : Nat) (leg : Leg) (report : Report)
    (vehicle : VehicleState) (m : Memory R) :
    svc.predict tripId index leg report vehicle (svc.withoutSparse m) =
      (svc.predict tripId index leg report vehicle m).mapMemory svc.withoutSparse := by
  unfold predict
  cases svc.trip? tripId with
  | none => rfl
  | some trip => exact svc.estimate_withoutSparse leg ⟨trip, index, report, vehicle, none⟩ m

theorem walk_withoutSparse (trip : Trip) (report : Report) (vehicle : VehicleState)
    (n index : Nat) (carried : Option R) (elapsed : Int) (m : Memory R) :
    svc.walk trip report vehicle n index carried elapsed (svc.withoutSparse m) =
      (svc.walk trip report vehicle n index carried elapsed m).mapMemory svc.withoutSparse := by
  -- by induction on the stop paths left, with whatever was carried and passed so far
  induction n generalizing index carried elapsed m with
  | zero => rfl
  | succ n ih =>
    unfold walk
    rw [estimate_withoutSparse]
    apply Step.mapMemory_andThen
    intro travel m
    simp only [estimate_withoutSparse]
    apply Step.mapMemory_andThen
    intro dwell m
    split
    · rw [ih]
      rfl
    · rfl

theorem predictTrip_withoutSparse (request : TripRequest) (m : Memory R) :
    svc.predictTrip request (svc.withoutSparse m) =
      (svc.predictTrip request m).mapMemory svc.withoutSparse := by
  unfold predictTrip
  cases svc.trip? request.vehicle.tripId with
  | none => rfl
  | some trip =>
    simp only [walk_withoutSparse]
    rfl

/-- Without the means that rest on fewer samples than the settings ask for, every request is
answered the same, with the same notices and prediction records, and it leaves the same filter
errors. What it leaves besides is again the same but for those means. -/
theorem sparse_means_do_not_show (m : Memory R) :
    let least := svc.settings.averages.minDays
    (∀ tripId index leg report vehicle,
      (svc.predict tripId index leg report vehicle (m.withoutSparse least)).Alike
          (svc.predict tripId index leg report vehicle m) ∧
        (svc.predict tripId index leg report vehicle (m.withoutSparse least)).memory =
          (svc.predict tripId index leg report vehicle m).memory.withoutSparse least) ∧
    ∀ request : TripRequest,
      (svc.predictTrip request (m.withoutSparse least)).Alike (svc.predictTrip request m) ∧
        (svc.predictTrip request (m.withoutSparse least)).memory =
          (svc.predictTrip request m).memory.withoutSparse least := by
  intro least
  constructor
  · intro tripId index leg report vehicle
    have hsame := svc.predict_withoutSparse tripId index leg report vehicle m
    rw [show m.withoutSparse least = svc.withoutSparse m from rfl, hsame]
    exact ⟨Step.alike_mapMemory_withoutSparse _ least, rfl⟩
  · intro request
    have hsame := svc.predictTrip_withoutSparse request m
    rw [show m.withoutSparse least = svc.withoutSparse m from rfl, hsame]
    exact ⟨Step.alike_mapMemory_withoutSparse _ least, rfl⟩

end Service

end Headway
