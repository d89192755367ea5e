import Headway.Proofs.Service.Agreement
import Headway.Proofs.Service.Prediction
import Headway.Proofs.Service.Run
import Mathlib.Data.List.Forall2

/-!
# Evictions do not show

However many evictions stand between the other operations of a run, and wherever they stand, every
other operation is answered the same, with the same notices and prediction records
(`Service.evictions_do_not_show`). Listings of keys are compared without their order.

The memories of the run with evictions and of the run without them agree at every point. So the
proof goes through the operations one by one: predictions read nothing in which memories that agree
differ, and recording keeps the agreement.
-/

namespace Headway

variable {R : Type}

namespace Service

variable (svc : Service R) {a b : Memory R}

/-! ## Recording -/

theorem fileAtStop_agrees (h : a.Agrees b) (now : Instant) (e : Event) :
    (svc.fileAtStop now e a).Agrees (svc.fileAtStop now e b) := by
  rw [fileAtStop_eq, fileAtStop_eq]
  apply (Step.Agrees.ofLocal h _).andThen
  intro day a b h
  exact .done (h.file_stops now.day e day) _

theorem fileInTrip_agrees (h : a.Agrees b) (now : Instant) (trip : Trip) (e : Event) :
    (svc.fileInTrip now trip e a).Agrees (svc.fileInTrip now trip e b) := by
  rw [fileInTrip_eq, fileInTrip_eq]
  apply (Step.Agrees.ofLocal h _).andThen
  intro known a b h
  cases known with
  | none => exact ⟨h, rfl, rfl, rfl⟩
  | some start =>
    apply (Step.Agrees.ofLocal h _).andThen
    intro day a b h
    exact .done (h.file_trips now.day e start day) _

theorem completionOf_congr (h : a.Agrees b) (e : Event) (run : Option TripKey) :
    svc.completionOf a e run = svc.completionOf b e run := by
  unfold completionOf
  rw [show a.trips.log.get? = b.trips.log.get? from funext h.trips.get?]

theorem hold_agrees (h : a.Agrees b) (e : Event) (predictions : List ArrivalPrediction) :
    (svc.hold e predictions a).Agrees (svc.hold e predictions b) := by
  have hhold : svc.settings.holding.hold? svc.clock e predictions a.stops a.holds =
      svc.settings.holding.hold? svc.clock e predictions b.stops b.holds := by
    unfold HoldingSettings.hold? HoldingSettings.reference?
    rw [show EventLog.get? a.stops = EventLog.get? b.stops from funext h.stops.get?, h.holds]
  unfold hold
  rw [hhold]
  apply (Step.Agrees.ofLocal h _).andThen
  intro hold a b h
  cases hold with
  | none => exact .done h _
  | some held =>
    apply Step.Agrees.done
    exact { h with holds := congrArg (Holds.add · held) h.holds }

theorem lastPassage_congr (h : a.Agrees b) (ctx : Context R) :
    svc.lastPassage a ctx = svc.lastPassage b ctx := by
  unfold lastPassage
  rw [show EventLog.get? a.stops = EventLog.get? b.stops from funext h.stops.get?]

variable [Scalar R]

theorem takeMean_agrees (h : a.Agrees b) (now : Instant) (trip : Trip) (e : Event)
    (run : Option TripKey) :
    (svc.takeMean now trip e run a).Agrees (svc.takeMean now trip e run b) := by
  rw [takeMean_eq, takeMean_eq, svc.completionOf_congr h]
  apply (Step.Agrees.notify h _).andThen
  intro _ a b h
  cases svc.completionOf _ e run with
  | nothing => exact .done h _
  | rejected reason => exact .done h _
  | sample millis =>
    simp only
    rw [(h.means trip.byFrequency).space]
    apply (Step.Agrees.ofLocal h _).andThen
    intro key a b h
    apply (Step.Agrees.ofLocal h _).andThen
    intro day a b h
    obtain ⟨hmemory, hupdated⟩ := h.takeSample now.day trip.byFrequency key millis day
    rw [hupdated]
    exact .done hmemory _

theorem takeDwell_agrees (h : a.Agrees b) (e : Event) :
    (svc.takeDwell e a).Agrees (svc.takeDwell e b) := by
  have hlesson : DwellTraining.lessonOf svc.clock svc.settings.filters e a.stops =
      DwellTraining.lessonOf svc.clock svc.settings.filters e b.stops := by
    unfold DwellTraining.lessonOf
    rw [show EventLog.get? a.stops = EventLog.get? b.stops from funext h.stops.get?]
  unfold takeDwell
  rw [hlesson]
  apply (Step.Agrees.ofLocal h _).andThen
  intro lesson a b h
  apply Step.Agrees.notify
  exact { h with
    dwellModels := congrArg (DwellModels.learn · svc.settings.dwell e lesson) h.dwellModels }

theorem record_agrees (h : a.Agrees b) (now : Instant) (e : Event) :
    (svc.record now e a).Agrees (svc.record now e b) := by
  unfold record
  split
  · exact ⟨h, rfl, rfl, rfl⟩
  · apply (svc.fileAtStop_agrees h now e).andThen
    intro stopKey a b h
    cases svc.trip? e.tripId with
    | none => exact (Step.Agrees.notify h _).map _
    | some trip =>
      apply (svc.fileInTrip_agrees h now trip e).andThen
      intro tripKey a b h
      apply (svc.takeMean_agrees h now trip e tripKey).andThen
      intro updated a b h
      apply (svc.takeDwell_agrees h e).andThen
      intro _ a b h
      apply Step.Agrees.done
      exact { h with holds := congrArg (svc.settings.holding.afterEvent e) h.holds }

/-! ## Predictions -/

theorem fromMean_congr (h : a.Agrees b) (ctx : Context R) (leg : Leg) :
    svc.fromMean a ctx leg = svc.fromMean b ctx leg := by
  have hm := h.means ctx.trip.byFrequency
  simp only [fromMean, hm.space, hm.store.get?]

theorem fromKalman_congr (h : a.Agrees b) (ctx : Context R) :
    svc.fromKalman a ctx = svc.fromKalman b ctx := by
  have hdays (start : Option Int) :
      svc.previousPassages a ctx start = svc.previousPassages b ctx start := by
    simp only [previousPassages, svc.searchDays_eq_of_get? (funext h.trips.get?)]
  have herror : svc.startingError a ctx = svc.startingError b ctx := by
    unfold startingError
    rw [h.filterErrors]
  simp only [fromKalman, svc.lastPassage_congr h, hdays, herror]

theorem attemptTravel_congr (h : a.Agrees b) (ctx : Context R) (s : TravelStrategy) :
    svc.attemptTravel a ctx s = svc.attemptTravel b ctx s := by
  cases s with
  | historicalAverage => exact svc.fromMean_congr h ctx .travel
  | lastVehicle => simp only [attemptTravel, fromLastVehicle, svc.lastPassage_congr h]
  | kalman => exact svc.fromKalman_congr h ctx
  | scheduleDefault => rfl

theorem attemptDwell_congr (h : a.Agrees b) (ctx : Context R) (s : DwellStrategy) :
    svc.attemptDwell a ctx s = svc.attemptDwell b ctx s := by
  cases s with
  | dwellModel => simp only [attemptDwell, fromDwellModel, h.dwellModels]
  | historicalAverage => exact svc.fromMean_congr h ctx .dwell
  | scheduleDefault => rfl

theorem find_congr (h : a.Agrees b) (ctx : Context R) (leg : Leg) :
    svc.find a ctx leg = svc.find b ctx leg := by
  cases leg with
  | travel => exact svc.find_travel_congr (svc.attemptTravel_congr h ctx)
  | dwell => exact svc.find_dwell_congr (svc.attemptDwell_congr h ctx)

theorem remember_agrees (h : a.Agrees b) (ctx : Context R) (e : Estimate R) :
    (remember a ctx e).Agrees (remember b ctx e) := by
  unfold remember
  cases e.filterError with
  | none => exact h
  | some error =>
    exact { h with filterErrors := congrArg (FilterErrors.write · ctx.path error) h.filterErrors }

theorem estimate_agrees (h : a.Agrees b) (leg : Leg) (ctx : Context R) :
    (svc.estimate leg ctx a).Agrees (svc.estimate leg ctx b) := by
  unfold estimate
  simp only [svc.find_congr h]
  apply (Step.Agrees.notify (remember_agrees h ctx _) _).andThen
  intro _ a b h
  apply (Step.Agrees.ofLocal h _).andThen
  intro records a b h
  exact ⟨h, rfl, rfl, rfl⟩

theorem predict_agrees (h : a.Agrees b) (tripId : String) (index : Nat) (leg : Leg)
    (report : Report) (vehicle : VehicleState) :
    (svc.predict tripId index leg report vehicle a).Agrees
      (svc.predict tripId index leg report vehicle b) := by
  unfold predict
  cases svc.trip? tripId with
  | none => exact (Step.Agrees.notify h _).map _
  | some trip => exact svc.estimate_agrees h leg _

theorem walk_agrees (h : a.Agrees b) (trip : Trip) (report : Report) (vehicle : VehicleState)
    (n index : Nat) (carried : Option R) (elapsed : Int) :
    (svc.walk trip report vehicle n index carried elapsed a).Agrees
      (svc.walk trip report vehicle n index carried elapsed b) := by
  induction n generalizing index carried elapsed a b with
  | zero => exact .done h _
  | succ n ih =>
    apply (svc.estimate_agrees h .travel _).andThen
    intro travel a b h
    apply (svc.estimate_agrees h .dwell _).andThen
    intro dwell a b h
    simp only
    split
    · exact (ih h _ _ _).map _
    · exact .fail h _

theorem predictTrip_agrees (h : a.Agrees b) (request : TripRequest) :
    (svc.predictTrip request a).Agrees (svc.predictTrip request b) := by
  unfold predictTrip
  cases svc.trip? request.vehicle.tripId with
  | none => exact .fail h _
  | some trip => exact (svc.walk_agrees h trip _ _ _ _ _ _).map _

end Service

/-! ## Runs -/

/-- What the caller of an operation gets. -/
structure Response (R : Type) where
  notices : List (Notice R)
  records : List PredictionRecord
  result : Except (Failure R) (Reply R)

/-- Two responses say the same: they are equal, up to the order in which keys are listed. -/
inductive Response.Alike : Response R → Response R → Prop where
  | same (x : Response R) : Alike x x
  | listing (notices : List (Notice R)) (records : List PredictionRecord)
      {xs ys : List SegmentKey} (h : xs.Perm ys) :
      Alike ⟨notices, records, .ok (.meanKeys xs)⟩ ⟨notices, records, .ok (.meanKeys ys)⟩

/-- What the caller gets of a step. -/
def Step.response (s : Step R (Reply R)) : Response R := ⟨s.notices, s.records, s.result⟩

theorem Step.Agrees.alike {s t : Step R (Reply R)} (h : s.Agrees t) :
    s.response.Alike t.response := by
  have hsame : s.response = t.response := by
    unfold Step.response
    rw [h.notices, h.records, h.result]
  rw [hsame]
  exact .same _

namespace Service

variable [Scalar R] (svc : Service R) {a b : Memory R}

/-- What the callers get in a run on a memory, the callers of evictions aside. -/
def heard (m : Memory R) : List Operation → List (Response R)
  | [] => []
  | op :: rest =>
    let s := svc.perform m op
    if op.isEvict then heard s.memory rest else s.response :: heard s.memory rest

theorem perform_evict_agrees (h : a.Agrees b) : (svc.perform a .evict).memory.Agrees b :=
  h.evict_left

theorem perform_agrees (h : a.Agrees b) (op : Operation) (hop : op.isEvict = false) :
    (svc.perform a op).memory.Agrees (svc.perform b op).memory ∧
      (svc.perform a op).response.Alike (svc.perform b op).response := by
  -- all but the listing of means are answered from what agrees in the two memories
  have hsteps {s t : Step R (Reply R)} (hst : s.Agrees t) :
      s.memory.Agrees t.memory ∧ s.response.Alike t.response := ⟨hst.memory, hst.alike⟩
  have hanswer {x y : Reply R} (hxy : x = y) :
      (Step.done a x).memory.Agrees (Step.done b y).memory ∧
        (Step.done a x).response.Alike (Step.done b y).response := by
    rw [hxy]
    exact hsteps (.done h y)
  cases op with
  | record now e => exact hsteps ((svc.record_agrees h now e).map _)
  | predict tripId index leg report vehicle =>
    exact hsteps ((svc.predict_agrees h tripId index leg report vehicle).map _)
  | predictTrip request => exact hsteps ((svc.predictTrip_agrees h request).map _)
  | hold e predictions => exact hsteps ((svc.hold_agrees h e predictions).map _)
  | evict => cases hop
  | mean k => exact hanswer (congrArg Reply.mean (h.meanOf? k))
  | meanKeys byFrequency =>
    have hmeans := (h.means byFrequency).store
    have hperm : (a.means byFrequency).store.keys.Perm (b.means byFrequency).store.keys :=
      (List.perm_ext_iff_of_nodup (MeanStore.nodup_keys _) (MeanStore.nodup_keys _)).mpr
        hmeans.mem_keys
    exact ⟨h, .listing [] [] hperm⟩
  | tripHistory k => exact hanswer (congrArg Reply.tripHistory (h.trips.get? k))
  | filterError k => exact hanswer (by rw [h.filterErrors])
  | filterErrorKeys => exact hanswer (by rw [h.filterErrors])

theorem heard_alike (h : a.Agrees b) (ops : List Operation) :
    List.Forall₂ Response.Alike (svc.heard a ops)
      (svc.heard b (ops.filter fun op => !op.isEvict)) := by
  induction ops generalizing a b with
  | nil => exact .nil
  | cons op rest ih =>
    cases hop : op.isEvict with
    | true =>
      -- only the run with evictions moves, and its memory still agrees with the other one
      have hevict : op = .evict := by
        cases op with
        | evict => rfl
        | _ => cases hop
      subst hevict
      exact ih (svc.perform_evict_agrees h)
    | false =>
      obtain ⟨hmemory, halike⟩ := svc.perform_agrees h op hop
      rw [List.filter_cons_of_pos (by rw [hop]; rfl), heard, heard, hop]
      exact .cons halike (ih hmemory)

/-- Evictions change no answer, no notice and no prediction record of any other operation, wherever
they stand in a run and whatever memory the run starts with. -/
theorem evictions_do_not_show (m : Memory R) (ops : List Operation) :
    List.Forall₂ Response.Alike (svc.heard m ops)
      (svc.heard m (ops.filter fun op => !op.isEvict)) :=
  svc.heard_alike (.refl m) ops

end Service

end Headway
