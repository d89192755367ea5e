import Headway.Proofs.Holding.Behind
import Headway.Proofs.Holding.Reference
import Headway.Proofs.Holding.Release
import Headway.Proofs.Service.Holding
import Headway.Proofs.Service.Refusal

/-!
# Arrivals at control stops

A vehicle that arrives at a control stop is put on hold by the predictions and the departure ahead.

The order of the predictions and those for the vehicle itself make no difference, as long as the
vehicle has at most one and that is the first of the earliest (`Service.hold_against_others`).
Further ones count like those for other vehicles (`Service.own_prediction_counts`).

After every run the hold is against the departure ahead, for no less than no time and no more than
the limit, and nothing else is touched. No other event puts a vehicle on hold
(`Service.held_against_reference`). But where nobody waits and the arrival has no service day, there
is no answer at all (`Service.arrival_without_local_time`). All that is asked of the settings is a
limit that is not negative, which the check demands (`Settings.maxHolding_nonneg`), and a planned
headway that does not lead out of 64 bits.

By plan the vehicle leaves no earlier than the planned headway after the departure ahead, or at the
limit, if that departure is not after the arrival (`Service.planned_headway_kept`). Against the
release of a vehicle that is still to leave it may go too early, and even first, and at the end of
the calendar it goes at once (`Service.released_too_early`).
-/

namespace Headway

theorem HoldingSettings.HoldsAtControlStops.keyed {s : HoldingSettings} {holds : Holds}
    (h : s.HoldsAtControlStops holds) : holds.Keyed := fun k held hheld => (h k held hheld).1

theorem Settings.maxHolding_nonneg {R : Type} [Scalar R] {s : Settings R}
    {zones : String → Option Zone} (h : s.check zones = .ok ()) : 0 ≤ s.holding.maxHolding := by
  rw [Settings.check_eq_ok_iff, Settings.faults, List.append_eq_nil_iff] at h
  exact of_decide_eq_true (Settings.demand_eq_nil_iff.mp h.2)

namespace Service

variable {R : Type} (svc : Service R) {e : Event} {predictions : List ArrivalPrediction}
  {m : Memory R}

/-! ## One arrival -/

theorem hold_of_not_holdsAt (h : svc.settings.holding.holdsAt e = false) :
    Step.Yields (svc.hold e predictions m) m none := by
  refine .andThen (.ofLocal m (a := none) ?_) (.done m none)
  rw [HoldingSettings.hold?, h]
  rfl

theorem hold_of_reference (h : svc.settings.holding.holdsAt e = true) {reference : Option Instant}
    (href : HoldingSettings.reference? svc.clock e m.stops m.holds = .ok reference) :
    Step.Yields (svc.hold e predictions m)
      { m with holds := m.holds.add (svc.settings.holding.holdFrom e predictions reference) }
      (some (svc.settings.holding.holdFrom e predictions reference)) := by
  refine .andThen (.ofLocal m (a := some _) ?_) (.done _ _)
  rw [HoldingSettings.hold?, h, href]
  rfl

theorem hold_of_noLocalTime (h : svc.settings.holding.holdsAt e = true) {cause : NoLocalTime}
    (href : HoldingSettings.reference? svc.clock e m.stops m.holds = .error cause) :
    (svc.hold e predictions m).memory = m ∧
      (svc.hold e predictions m).result = .error (.noLocalTime cause) := by
  have hhold : svc.settings.holding.hold? svc.clock e predictions m.stops m.holds =
      .error cause := by
    rw [HoldingSettings.hold?, h, href]
    rfl
  rw [hold, hhold]
  exact ⟨rfl, rfl⟩

theorem result_hold : (svc.hold e predictions m).result =
    orNoLocalTime (svc.settings.holding.hold? svc.clock e predictions m.stops m.holds) := by
  unfold hold
  cases svc.settings.holding.hold? svc.clock e predictions m.stops m.holds with
  | error cause => rfl
  | ok held =>
    cases held with
    | none => rfl
    | some held => rfl

theorem hold_congr {other : List ArrivalPrediction}
    (h : HoldingSettings.arrivalsBehind e predictions = HoldingSettings.arrivalsBehind e other) :
    svc.hold e predictions m = svc.hold e other m := by
  have hfrom (reference : Option Instant) : svc.settings.holding.holdFrom e predictions reference =
      svc.settings.holding.holdFrom e other reference := by
    rw [HoldingSettings.holdFrom, HoldingSettings.holdFrom, h]
  unfold hold HoldingSettings.hold?
  simp only [hfrom]

/-! ### A departure and an arrival behind it -/

theorem control_checked : control.Checked Zone.named? := by
  refine ⟨?_, rfl⟩
  rw [Settings.check_eq_ok_iff]
  simp only [Settings.faults, control, shuttle, shuttle_fraction]
  decide

/-- A vehicle leaves the control stop, and its departure is recorded. -/
def departs (time now : Instant) : Operation :=
  .record now ⟨"0", "U", "S", "A", 0, time, .departure, none, none⟩

/-- It leaves a minute before the next one arrives. -/
def aheadDeparts : Operation := departs shuttleLeaves shuttleArrives

/-- Another vehicle arrives at the control stop. -/
def arrivesBehind (vehicleId : String) : Event :=
  ⟨vehicleId, "U", "S", "A", 0, shuttleArrives, .arrival, none, none⟩

/-- When it may leave by plan. -/
def laterRelease : Instant := (Instant.of? 580 0).get rfl

/-- When the next vehicle is to arrive. -/
def nextArrival : Instant := (Instant.of? 640 0).get rfl

/-- When the one after it is to arrive. -/
def furtherArrival : Instant := (Instant.of? 1240 0).get rfl

theorem hold_arrivesBehind (predictions : List ArrivalPrediction) :
    Step.Yields
      (control.hold (arrivesBehind "1") predictions (control.memoryAfter [aheadDeparts]))
      { control.memoryAfter [aheadDeparts] with
        holds := (control.memoryAfter [aheadDeparts]).holds.add
          (control.settings.holding.holdFrom (arrivesBehind "1") predictions
            (some shuttleLeaves)) }
      (some (control.settings.holding.holdFrom (arrivesBehind "1") predictions
        (some shuttleLeaves))) :=
  control.hold_of_reference rfl rfl

/-! ## Predictions for the vehicle itself -/

/-- Two lists that predict the same times for other vehicles lead to the same hold, if the arriving
vehicle has no prediction in them, or only one that is the first of the earliest. In general the
hold depends on the times that count, and these are the times for others exactly in this case. -/
theorem hold_against_others (e : Event) (m : Memory R) :
    (∀ p q, e.OwnIsFirst p → e.OwnIsFirst q →
      ((e.others p).map ArrivalPrediction.time).Perm ((e.others q).map ArrivalPrediction.time) →
        svc.hold e p m = svc.hold e q m) ∧
    (∀ p q, ((e.counted p).map ArrivalPrediction.time).Perm
        ((e.counted q).map ArrivalPrediction.time) → svc.hold e p m = svc.hold e q m) ∧
    ∀ p, ((e.counted p).map ArrivalPrediction.time).Perm
      ((e.others p).map ArrivalPrediction.time) ↔ e.OwnIsFirst p := by
  refine ⟨fun p q hp hq hsame => ?_, fun p q hsame => ?_, fun p => Event.counted_perm_others_iff⟩
  · have hp := Event.counted_perm_others_iff.mpr hp
    have hq := Event.counted_perm_others_iff.mpr hq
    exact svc.hold_congr (Event.arrivalsBehind_congr ((hp.trans hsame).trans hq.symm))
  · exact svc.hold_congr (Event.arrivalsBehind_congr hsame)

theorem hold_against_others_control :
    (arrivesBehind "1").OwnIsFirst
        [⟨"3", furtherArrival⟩, ⟨"1", shuttleArrives⟩, ⟨"2", nextArrival⟩] ∧
      ∃ h, (control.hold (arrivesBehind "1")
          [⟨"3", furtherArrival⟩, ⟨"1", shuttleArrives⟩, ⟨"2", nextArrival⟩]
          (control.memoryAfter [aheadDeparts])).result = .ok (some h) ∧
        h.hasReference = true ∧ h.predictionsUsed = 2 := by
  obtain ⟨hothers, -, -⟩ := hold_against_others control (arrivesBehind "1")
    (control.memoryAfter [aheadDeparts])
  have hown : (arrivesBehind "1").OwnIsFirst
      [⟨"3", furtherArrival⟩, ⟨"1", shuttleArrives⟩, ⟨"2", nextArrival⟩] := by decide
  have hsorted : (arrivesBehind "1").OwnIsFirst [⟨"2", nextArrival⟩, ⟨"3", furtherArrival⟩] := by
    decide
  have hbehind : HoldingSettings.arrivalsBehind (arrivesBehind "1")
      [⟨"2", nextArrival⟩, ⟨"3", furtherArrival⟩] = [nextArrival.millis, furtherArrival.millis] :=
    Event.arrivalsBehind_of_mergeSort (List.mergeSort_of_pairwise (by decide))
  refine ⟨hown, ?_⟩
  rw [hothers _ _ hown hsorted (by decide)]
  refine ⟨_, (hold_arrivesBehind _).result, rfl, ?_⟩
  rw [HoldingSettings.holdFrom, hbehind]
  rfl

/-- A later prediction for the arriving vehicle itself makes it leave earlier. -/
theorem own_prediction_counts :
    control.Checked Zone.named? ∧ control.settings.holding.holdsAt (arrivesBehind "1") = true ∧
      (((arrivesBehind "1").others [⟨"2", nextArrival⟩, ⟨"1", furtherArrival⟩]).map
        ArrivalPrediction.time).Perm
          (((arrivesBehind "1").others [⟨"2", nextArrival⟩]).map ArrivalPrediction.time) ∧
      ∃ h other,
        (control.hold (arrivesBehind "1") [⟨"2", nextArrival⟩, ⟨"1", furtherArrival⟩]
          (control.memoryAfter [aheadDeparts])).result = .ok (some h) ∧
        (control.hold (arrivesBehind "1") [⟨"2", nextArrival⟩]
          (control.memoryAfter [aheadDeparts])).result = .ok (some other) ∧
        h.release < other.release ∧ h.predictionsUsed ≠ other.predictionsUsed := by
  have htwo : HoldingSettings.arrivalsBehind (arrivesBehind "1")
      [⟨"2", nextArrival⟩, ⟨"1", furtherArrival⟩] = [nextArrival.millis, furtherArrival.millis] :=
    Event.arrivalsBehind_of_mergeSort (List.mergeSort_of_pairwise (by decide))
  have hone : HoldingSettings.arrivalsBehind (arrivesBehind "1") [⟨"2", nextArrival⟩] =
      [nextArrival.millis] :=
    Event.arrivalsBehind_of_mergeSort (List.mergeSort_of_pairwise (by decide))
  refine ⟨control_checked, rfl, by decide, _, _, (hold_arrivesBehind _).result,
    (hold_arrivesBehind _).result, ?_, ?_⟩
  · rw [HoldingSettings.holdFrom, HoldingSettings.holdFrom, htwo, hone]
    decide
  · rw [HoldingSettings.holdFrom, HoldingSettings.holdFrom, htwo, hone]
    decide

variable [Scalar R]

/-! ## The departure ahead -/

theorem reference?_memoryAfter_iff {ops : List Operation} {reference : Option Instant} :
    HoldingSettings.reference? svc.clock e (svc.memoryAfter ops).stops
        (svc.memoryAfter ops).holds = .ok reference ↔
      IsReference svc.clock e (svc.memoryAfter ops).stops (svc.memoryAfter ops).holds reference :=
  HoldingSettings.reference?_eq_ok_iff (svc.holdsAtControlStops_memoryAfter ops).keyed

/-- After every run an arrival at a control stop is held against the departure ahead of it, unless
nobody waits and it has no service day; then the call fails and changes nothing. The hold is stored
under its stop and vehicle and all else stays. It lies within the limit, and without a departure
ahead the vehicle may leave at once. Other events change nothing and are answered with no hold.
With a planned headway that fits, no difference on the way leaves 64 bits. -/
theorem held_against_reference (hlimit : 0 ≤ svc.settings.holding.maxHolding)
    (hplan : svc.settings.holding.PlanFits) (ops : List Operation) (e : Event)
    (hleap : e.time.isLeap = false) (predictions : List ArrivalPrediction) :
    (svc.settings.holding.holdsAt e = false →
      Step.Yields (svc.hold e predictions (svc.memoryAfter ops)) (svc.memoryAfter ops) none) ∧
    (svc.settings.holding.holdsAt e = true →
      (∃ cause, (∀ h, ¬ e.WaitsAhead (svc.memoryAfter ops).holds h) ∧
        svc.clock.serviceDay e.time = .error cause ∧
        (svc.hold e predictions (svc.memoryAfter ops)).memory = svc.memoryAfter ops ∧
        (svc.hold e predictions (svc.memoryAfter ops)).result = .error (.noLocalTime cause)) ∨
      ∃ reference h,
        IsReference svc.clock e (svc.memoryAfter ops).stops (svc.memoryAfter ops).holds reference ∧
        h = svc.settings.holding.holdFrom e predictions reference ∧
        h.key = ⟨e.stopId, e.vehicleId⟩ ∧ h.hasReference = reference.isSome ∧
        (reference = none → h.release = e.time ∧ h.millis = 0) ∧
        (∀ r, reference = some r →
          leastMillis ≤ svc.settings.holding.plannedHeadway - (e.millis - r.millis).natAbs ∧
            svc.settings.holding.plannedHeadway - (e.millis - r.millis).natAbs ≤ greatestMillis) ∧
        (0 ≤ h.millis ∧ h.millis ≤ svc.settings.holding.maxHolding) ∧
        ∃ holds, Step.Yields (svc.hold e predictions (svc.memoryAfter ops))
            { svc.memoryAfter ops with holds := holds } (some h) ∧
          Table.get? holds ⟨e.stopId, e.vehicleId⟩ = some h ∧
          ∀ k : HoldKey, k ≠ ⟨e.stopId, e.vehicleId⟩ →
            Table.get? holds k = Table.get? (svc.memoryAfter ops).holds k) ∧
    ∀ holds, (∀ k, Table.get? holds k = Table.get? (svc.memoryAfter ops).holds k) →
      (svc.hold e predictions { svc.memoryAfter ops with holds := holds }).result =
        (svc.hold e predictions (svc.memoryAfter ops)).result := by
  have hkeyed := (svc.holdsAtControlStops_memoryAfter ops).keyed
  generalize svc.memoryAfter ops = m at hkeyed ⊢
  refine ⟨svc.hold_of_not_holdsAt, fun hholds => ?_, fun holds hsame => ?_⟩
  · cases href : HoldingSettings.reference? svc.clock e m.stops m.holds with
    | error cause =>
      obtain ⟨hnobody, hday⟩ := (HoldingSettings.reference?_eq_error_iff hkeyed).mp href
      exact Or.inl ⟨cause, hnobody, hday, svc.hold_of_noLocalTime hholds href⟩
    | ok reference =>
      refine Or.inr ⟨reference, _, (HoldingSettings.reference?_eq_ok_iff hkeyed).mp href, rfl, rfl,
        rfl, ?_, fun r _ => HoldingSettings.planned_sub_bounds hplan e.time r,
        svc.settings.holding.millis_holdFrom predictions reference hleap hlimit, _,
        svc.hold_of_reference hholds href, ?_, ?_⟩
      · rintro rfl
        exact svc.settings.holding.release_holdFrom_none predictions hlimit
      · exact Table.get?_put_self _ _ _
      · exact fun k hk => Table.get?_put_of_ne _ _ (Ne.symm hk)
  · have href : HoldingSettings.reference? svc.clock e m.stops holds =
        HoldingSettings.reference? svc.clock e m.stops m.holds :=
      HoldingSettings.reference?_congr hkeyed hsame
    rw [result_hold, result_hold, HoldingSettings.hold?, HoldingSettings.hold?, href]

theorem held_against_reference_control :
    control.Checked Zone.named? ∧ control.settings.holding.PlanFits ∧
      (arrivesBehind "1").time.isLeap = false ∧
      Step.Yields (control.hold { arrivesBehind "1" with kind := .departure } []
        (control.memoryAfter [aheadDeparts])) (control.memoryAfter [aheadDeparts]) none ∧
      ∃ h holds, h.hasReference = true ∧ 0 ≤ h.millis ∧
        Step.Yields (control.hold (arrivesBehind "1") [] (control.memoryAfter [aheadDeparts]))
          { control.memoryAfter [aheadDeparts] with holds := holds } (some h) ∧
        Table.get? holds ⟨"A", "1"⟩ = some h := by
  have hlimit := Settings.maxHolding_nonneg control_checked.1
  have hplan : control.settings.holding.PlanFits := by decide
  obtain ⟨hother, -, -⟩ := held_against_reference control hlimit hplan [aheadDeparts]
    { arrivesBehind "1" with kind := .departure } rfl []
  obtain ⟨-, hheld, -⟩ := held_against_reference control hlimit hplan [aheadDeparts]
    (arrivesBehind "1") rfl []
  refine ⟨control_checked, hplan, rfl, hother rfl, ?_⟩
  rcases hheld rfl with ⟨cause, -, hday, -⟩ | ⟨reference, h, hreference, -, -, hknown, -, -,
    ⟨hle, -⟩, holds, hyields, hget, -⟩
  · cases hday
  · -- the departure on record is the one ahead
    have href := control.reference?_memoryAfter_iff.mpr hreference
    have hsome : reference = some shuttleLeaves := Except.ok.inj (href.symm.trans rfl)
    rw [hsome] at hknown
    exact ⟨h, holds, hknown, hle, hyields, hget⟩

/-- The shuttle in the east, with a control stop. -/
noncomputable def easternControl : Service ℝ :=
  { eastern with settings := { eastern.settings with holding := { controlStops := ["A"] } } }

/-- At the end of the calendar an arrival where nobody waits is not put on hold. -/
theorem arrival_without_local_time :
    easternControl.Checked Zone.named? ∧
      easternControl.settings.holding.holdsAt (easternArrival lastSecond lastSecond) = true ∧
      (easternArrival lastSecond lastSecond).time.isLeap = false ∧
      (∃ f, (easternControl.hold (easternArrival lastSecond lastSecond) []
        (easternControl.memoryAfter [])).result = .error f) ∧
      Table.get? (easternControl.hold (easternArrival lastSecond lastSecond) []
        (easternControl.memoryAfter [])).memory.holds ⟨"A", "1"⟩ = none := by
  refine ⟨⟨?_, rfl⟩, rfl, rfl, ⟨_, rfl⟩, rfl⟩
  rw [Settings.check_eq_ok_iff]
  simp only [Settings.faults, easternControl, eastern, shuttle, shuttle_fraction]
  decide

/-! ## The planned headway -/

/-- With at most one arrival behind it a vehicle is held by plan. Outside leap seconds, and unless
the calendar ends before, its release is no earlier than the planned headway after the departure
ahead or, if that is earlier, than the limit, exactly if that departure is not after the arrival or
the limit is reached. A departure on record is not after the arrival, nor is a release that has
passed. -/
theorem planned_headway_kept (hlimit : 0 ≤ svc.settings.holding.maxHolding)
    (hplan : 0 ≤ svc.settings.holding.plannedHeadway) (ops : List Operation) {e : Event}
    (hholds : svc.settings.holding.holdsAt e = true) (hleap : e.time.isLeap = false)
    {predictions : List ArrivalPrediction}
    (hfew : (HoldingSettings.arrivalsBehind e predictions).length ≤ 1) {r : Instant}
    (hreference : IsReference svc.clock e (svc.memoryAfter ops).stops (svc.memoryAfter ops).holds
      (some r)) (hr : r.isLeap = false) :
    ∃ h wait, (svc.hold e predictions (svc.memoryAfter ops)).result = .ok (some h) ∧
      wait = min (Holding.byPlan e.millis r.millis svc.settings.holding.plannedHeadway)
        svc.settings.holding.maxHolding ∧
      ((e.time.addMillis? wait = none ∧ h.release = e.time) ∨
        h.release.millis = e.millis + wait ∧
        (min (r.millis + svc.settings.holding.plannedHeadway)
            (e.millis + svc.settings.holding.maxHolding) ≤ h.release.millis ↔
          r.millis ≤ e.millis ∨ wait = svc.settings.holding.maxHolding)) ∧
      ((∀ other, e.WaitsAhead (svc.memoryAfter ops).holds other → other.release ≤ e.time) →
        r.millis ≤ e.millis) := by
  have hkeyed := (svc.holdsAtControlStops_memoryAfter ops).keyed
  generalize svc.memoryAfter ops = m at hkeyed hreference ⊢
  have href := HoldingSettings.reference?_of_isReference hkeyed hreference
  have hwait := svc.settings.holding.wait_of_few e predictions hfew r
  refine ⟨_, _, (svc.hold_of_reference hholds href).result, hwait, ?_, fun hpassed => ?_⟩
  · rcases svc.settings.holding.release_holdFrom predictions (some r) hleap with
      hend | ⟨hmillis, -⟩
    · exact Or.inl hend
    · refine Or.inr ⟨hmillis, ?_⟩
      rw [hmillis, hwait, Holding.headway_kept_iff hplan hlimit, min_eq_right_iff]
  · -- what is on record and what has passed is not after the arrival
    refine Instant.millis_le_millis ?_ hr
    cases hreference with
    | release hwaits hfirst =>
      rw [Instant.latest, if_pos (hpassed _ hwaits)]
      exact Instant.le_refl _
    | departure hnobody hday hevents hdeparted hlast => exact hdeparted.2.2.2

theorem planned_headway_kept_control :
    control.Checked Zone.named? ∧
      IsReference control.clock (arrivesBehind "1") (control.memoryAfter [aheadDeparts]).stops
        (control.memoryAfter [aheadDeparts]).holds (some shuttleLeaves) ∧
      ∃ h, (control.hold (arrivesBehind "1") [] (control.memoryAfter [aheadDeparts])).result =
          .ok (some h) ∧
        shuttleLeaves.millis + control.settings.holding.plannedHeadway ≤ h.release.millis := by
  have hreference : IsReference control.clock (arrivesBehind "1")
      (control.memoryAfter [aheadDeparts]).stops (control.memoryAfter [aheadDeparts]).holds
      (some shuttleLeaves) :=
    control.reference?_memoryAfter_iff.mp rfl
  have hfew : (HoldingSettings.arrivalsBehind (arrivesBehind "1") []).length ≤ 1 := by
    rw [Event.arrivalsBehind_nil]
    decide
  obtain ⟨h, wait, hresult, hwait, hrelease, hpassed⟩ :=
    planned_headway_kept control (Settings.maxHolding_nonneg control_checked.1) (by decide)
      [aheadDeparts] rfl rfl hfew hreference rfl
  refine ⟨control_checked, hreference, h, hresult, ?_⟩
  rcases hrelease with ⟨hend, -⟩ | ⟨-, hkept⟩
  · rw [hwait] at hend
    cases hend
  · exact (min_eq_left (by decide)).symm.le.trans (hkept.mpr (Or.inl (by decide)))

/-- A vehicle is released no earlier than the planned headway after the departure ahead or, if that
is earlier, than the limit. -/
def SpacesByPlan (svc : Service ℝ) (e : Event) (predictions : List ArrivalPrediction)
    (m : Memory ℝ) : Prop :=
  ∀ r h, r.isLeap = false → IsReference svc.clock e m.stops m.holds (some r) →
    (svc.hold e predictions m).result = .ok (some h) →
      min (r.millis + svc.settings.holding.plannedHeadway)
        (e.millis + svc.settings.holding.maxHolding) ≤ h.release.millis

/-- A vehicle that is held while another one still waits is to leave seven minutes before that one,
and nine before the limit. -/
theorem release_before_waiting :
    ∃ r h, r.isLeap = false ∧
      IsReference control.clock (arrivesBehind "2")
        (control.memoryAfter [aheadDeparts, .hold (arrivesBehind "1") []]).stops
        (control.memoryAfter [aheadDeparts, .hold (arrivesBehind "1") []]).holds (some r) ∧
      (control.hold (arrivesBehind "2") []
        (control.memoryAfter [aheadDeparts, .hold (arrivesBehind "1") []])).result =
          .ok (some h) ∧
      h.release < r ∧
      h.release.millis < min (r.millis + control.settings.holding.plannedHeadway)
        ((arrivesBehind "2").millis + control.settings.holding.maxHolding) := by
  -- the first vehicle waits until eight minutes after its arrival
  have hfirst : control.settings.holding.holdFrom (arrivesBehind "1") [] (some shuttleLeaves) =
      ⟨"1", "A", "U", "S", shuttleArrives, laterRelease, true, 0⟩ := by
    rw [HoldingSettings.holdFrom, Event.arrivalsBehind_nil]
    rfl
  have hmemory : control.memoryAfter [aheadDeparts, .hold (arrivesBehind "1") []] =
      { control.memoryAfter [aheadDeparts] with
        holds := Holds.add (control.memoryAfter [aheadDeparts]).holds
          ⟨"1", "A", "U", "S", shuttleArrives, laterRelease, true, 0⟩ } := by
    rw [← hfirst]
    exact (hold_arrivesBehind []).memory
  have hreference : HoldingSettings.reference? control.clock (arrivesBehind "2")
      (control.memoryAfter [aheadDeparts, .hold (arrivesBehind "1") []]).stops
      (control.memoryAfter [aheadDeparts, .hold (arrivesBehind "1") []]).holds =
        .ok (some laterRelease) := by
    rw [hmemory]
    rfl
  -- by plan the second vehicle may then leave one minute after the arrival
  have hsecond : (control.settings.holding.holdFrom (arrivesBehind "2") []
      (some laterRelease)).release = (Instant.of? 160 0).get rfl := by
    rw [HoldingSettings.holdFrom, Event.arrivalsBehind_nil]
    rfl
  refine ⟨laterRelease, _, rfl, ?_, (control.hold_of_reference rfl hreference).result, ?_, ?_⟩
  · exact control.reference?_memoryAfter_iff.mp hreference
  · rw [hsecond]
    decide
  · rw [hsecond]
    decide

/-- At the end of the calendar a vehicle is to leave at once, although one has just left. -/
theorem release_at_end :
    IsReference control.clock { arrivesBehind "1" with time := lastSecond }
        (control.memoryAfter [departs lastSecond lastSecond]).stops
        (control.memoryAfter [departs lastSecond lastSecond]).holds (some lastSecond) ∧
      ∃ h, (control.hold { arrivesBehind "1" with time := lastSecond } []
          (control.memoryAfter [departs lastSecond lastSecond])).result = .ok (some h) ∧
        h.release.millis < min (lastSecond.millis + control.settings.holding.plannedHeadway)
          (lastSecond.millis + control.settings.holding.maxHolding) := by
  have hreference : HoldingSettings.reference? control.clock
      { arrivesBehind "1" with time := lastSecond }
      (control.memoryAfter [departs lastSecond lastSecond]).stops
      (control.memoryAfter [departs lastSecond lastSecond]).holds = .ok (some lastSecond) := rfl
  have hrelease : (control.settings.holding.holdFrom
      { arrivesBehind "1" with time := lastSecond } [] (some lastSecond)).release =
        lastSecond := by
    rw [HoldingSettings.holdFrom, Event.arrivalsBehind_nil]
    rfl
  refine ⟨?_, _, (control.hold_of_reference rfl hreference).result, ?_⟩
  · exact control.reference?_memoryAfter_iff.mp hreference
  · rw [hrelease]
    decide

/-- Neither of these two arrivals is spaced by plan. -/
theorem released_too_early :
    control.Checked Zone.named? ∧ 0 ≤ control.settings.holding.plannedHeadway ∧
      (∀ e : Event, (HoldingSettings.arrivalsBehind e []).length ≤ 1) ∧
      control.settings.holding.holdsAt (arrivesBehind "2") = true ∧
      (arrivesBehind "2").time.isLeap = false ∧
      ¬ control.SpacesByPlan (arrivesBehind "2") []
        (control.memoryAfter [aheadDeparts, .hold (arrivesBehind "1") []]) ∧
      control.settings.holding.holdsAt { arrivesBehind "1" with time := lastSecond } = true ∧
      lastSecond.isLeap = false ∧
      ¬ control.SpacesByPlan { arrivesBehind "1" with time := lastSecond } []
        (control.memoryAfter [departs lastSecond lastSecond]) := by
  refine ⟨control_checked, by decide, fun e => ?_, rfl, rfl, fun hspaces => ?_, rfl, rfl,
    fun hspaces => ?_⟩
  · rw [Event.arrivalsBehind_nil]
    decide
  · obtain ⟨r, h, hr, hreference, hresult, -, hearly⟩ := release_before_waiting
    exact absurd (hspaces r h hr hreference hresult) (not_le.mpr hearly)
  · obtain ⟨hreference, h, hresult, hearly⟩ := release_at_end
    exact absurd (hspaces lastSecond h rfl hreference hresult) (not_le.mpr hearly)

end Service

end Headway
