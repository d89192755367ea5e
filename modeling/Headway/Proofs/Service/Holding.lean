import Headway.Proofs.Service.Bounds
import Headway.Proofs.Service.Intake
import Headway.Proofs.Service.Prediction

/-!
# Holds and departures

After every run the vehicles on hold are at control stops, each under its own stop and vehicle
(`Service.holdsAtControlStops_memoryAfter`). A recorded departure of a known trip ends the hold of
its vehicle at its stop, and no recorded departure ends another one
(`Service.departures_end_holds`).

An unknown trip is held like any other. But its events are filed under their stops and go no
further, so that its hold outlives the departure (`Service.hold_outlives_departure`).
-/

namespace Headway

/-! ## Tables of holds -/

theorem HoldingSettings.get?_afterEvent (s : HoldingSettings) (e : Event) (holds : Holds)
    (k : HoldKey) :
    Table.get? (s.afterEvent e holds) k =
      if e.isDeparture ∧ s.isControlStop e.stopId ∧ k = ⟨e.stopId, e.vehicleId⟩ then none
      else Table.get? holds k := by
  unfold HoldingSettings.afterEvent
  by_cases hleaves : e.isDeparture ∧ s.isControlStop e.stopId
  · obtain ⟨hdeparture, hcontrol⟩ := hleaves
    rw [if_pos (by simp [hdeparture, hcontrol]), Table.get?_erase]
    by_cases hk : k = ⟨e.stopId, e.vehicleId⟩
    · rw [if_pos hk.symm, if_pos ⟨hdeparture, hcontrol, hk⟩]
    · rw [if_neg (Ne.symm hk), if_neg fun h => hk h.2.2]
  · rw [if_neg (by simpa using hleaves), if_neg fun h => hleaves ⟨h.1, h.2.1⟩]

theorem HoldingSettings.hold?_eq_some {s : HoldingSettings} {clock : ServiceClock} {e : Event}
    {predictions : List ArrivalPrediction} {stops : StopHistory} {holds : Holds} {h : Hold}
    (hh : s.hold? clock e predictions stops holds = .ok (some h)) :
    s.isControlStop h.stopId = true := by
  unfold HoldingSettings.hold? at hh
  split at hh
  · rename_i hholds
    cases href : reference? clock e stops holds with
    | error cause =>
      rw [href] at hh
      cases hh
    | ok reference =>
      rw [href] at hh
      cases hh
      simp only [HoldingSettings.holdsAt, Bool.and_eq_true] at hholds
      exact hholds.2
  · cases hh

/-- Every hold stands under its own stop and vehicle, and the stop is a control stop. -/
def HoldingSettings.HoldsAtControlStops (s : HoldingSettings) (holds : Holds) : Prop :=
  ∀ k h, Table.get? holds k = some h → h.key = k ∧ s.isControlStop k.stopId = true

namespace HoldingSettings.HoldsAtControlStops

variable {s : HoldingSettings} {holds : Holds}

theorem afterEvent (h : s.HoldsAtControlStops holds) (e : Event) :
    s.HoldsAtControlStops (s.afterEvent e holds) := by
  intro k held hheld
  rw [get?_afterEvent] at hheld
  split at hheld
  · cases hheld
  · exact h k held hheld

theorem add (h : s.HoldsAtControlStops holds) {held : Hold}
    (hcontrol : s.isControlStop held.stopId = true) :
    s.HoldsAtControlStops (holds.add held) := by
  intro k other hother
  rw [Holds.add, Table.get?_put] at hother
  split at hother
  · rename_i hk
    cases hother
    subst hk
    exact ⟨rfl, hcontrol⟩
  · exact h k other hother

end HoldingSettings.HoldsAtControlStops

namespace Service

variable {R : Type} [Scalar R] (svc : Service R) {m : Memory R}

/-! ## Recording -/

/-- A recorded event of a known trip ends the hold that it is to end. Any other record, and one that
fails, leaves the holds alone. -/
theorem holds_record (now : Instant) (e : Event) (m : Memory R) :
    ((svc.trip? e.tripId).isSome ∧ (svc.record now e m).memory.holds =
        svc.settings.holding.afterEvent e m.holds) ∨
      ((svc.record now e m).memory.holds = m.holds ∧
        ∀ r, (svc.record now e m).result = .ok r → svc.trip? e.tripId = none) := by
  -- only a record that goes through reaches the holds
  cases hfar : svc.isTooFarAhead now e with
  | true =>
    obtain ⟨hmemory, hresult⟩ := svc.record_of_isTooFarAhead (m := m) hfar
    right
    rw [hmemory, hresult]
    exact ⟨rfl, by simp⟩
  | false =>
    cases hday : svc.clock.serviceDay e.time with
    | error cause =>
      obtain ⟨hmemory, hresult⟩ := svc.record_of_noLocalTime (m := m) hfar hday
      right
      rw [hmemory, hresult]
      exact ⟨rfl, by simp⟩
    | ok day =>
      cases htrip : svc.trip? e.tripId with
      | none =>
        obtain ⟨hmemory, -⟩ := svc.record_of_unknownTrip (m := m) hfar hday htrip
        right
        rw [hmemory]
        exact ⟨rfl, by simp⟩
      | some trip =>
        cases hstart : TripHistory.runStart svc.clock trip e.frequencyStart with
        | error cause =>
          obtain ⟨hmemory, hresult⟩ := svc.record_of_lostRunStart (m := m) hfar hday htrip hstart
          right
          rw [hmemory, hresult]
          exact ⟨rfl, by simp⟩
        | ok known =>
          left
          exact ⟨rfl, (svc.record_of_runStart hfar hday htrip hstart).memory⟩

/-! ## Runs -/

omit [Scalar R] in
theorem hold_keeps_control (h : svc.settings.holding.HoldsAtControlStops m.holds) (e : Event)
    (predictions : List ArrivalPrediction) :
    svc.settings.holding.HoldsAtControlStops (svc.hold e predictions m).memory.holds := by
  refine Step.Keeps.memory (P := fun _ => True)
    (I := fun m => svc.settings.holding.HoldsAtControlStops m.holds) ?_
  unfold hold
  apply (Step.Keeps.ofLocal h fun held hheld => hheld).andThen
  intro held m h hheld
  cases held with
  | none => exact .done h trivial
  | some held => exact .done (h.add (HoldingSettings.hold?_eq_some hheld)) trivial

theorem perform_keeps_control (h : svc.settings.holding.HoldsAtControlStops m.holds)
    (op : Operation) :
    svc.settings.holding.HoldsAtControlStops (svc.perform m op).memory.holds := by
  cases op with
  | record now e =>
    show svc.settings.holding.HoldsAtControlStops (svc.record now e m).memory.holds
    rcases svc.holds_record now e m with ⟨-, hholds⟩ | ⟨hholds, -⟩
    · rw [hholds]
      exact h.afterEvent e
    · rw [hholds]
      exact h
  | predict tripId index leg report vehicle =>
    obtain ⟨errors, hmemory⟩ := svc.memory_predict tripId index leg report vehicle m
    show svc.settings.holding.HoldsAtControlStops
      (svc.predict tripId index leg report vehicle m).memory.holds
    rw [hmemory]
    exact h
  | predictTrip request =>
    obtain ⟨errors, hmemory⟩ := svc.memory_predictTrip request m
    show svc.settings.holding.HoldsAtControlStops (svc.predictTrip request m).memory.holds
    rw [hmemory]
    exact h
  | hold e predictions => exact svc.hold_keeps_control h e predictions
  | evict => exact h
  | mean k => exact h
  | meanKeys byFrequency => exact h
  | tripHistory k => exact h
  | filterError k => exact h
  | filterErrorKeys => exact h

theorem holdsAtControlStops_memoryAfter (ops : List Operation) :
    svc.settings.holding.HoldsAtControlStops (svc.memoryAfter ops).holds :=
  svc.memoryAfter_of_steps (P := fun m => svc.settings.holding.HoldsAtControlStops m.holds)
    (fun k h hh => by cases hh) (fun _ op h => svc.perform_keeps_control h op) ops

/-- After every run each hold stands under its own stop and vehicle, at a control stop. A departure
that is recorded then leaves all other holds as they are, and no hold of its vehicle at its stop if
its trip is known; if it is unknown, all holds stay. -/
theorem departures_end_holds (ops : List Operation) :
    (∀ k h, Table.get? (svc.memoryAfter ops).holds k = some h →
      h.key = k ∧ svc.settings.holding.isControlStop k.stopId = true) ∧
    ∀ now e r, (svc.record now e (svc.memoryAfter ops)).result = .ok r → e.isDeparture = true →
      (∀ k : HoldKey, k ≠ ⟨e.stopId, e.vehicleId⟩ →
        Table.get? (svc.record now e (svc.memoryAfter ops)).memory.holds k =
          Table.get? (svc.memoryAfter ops).holds k) ∧
      ((svc.trip? e.tripId).isSome →
        Table.get? (svc.record now e (svc.memoryAfter ops)).memory.holds
          ⟨e.stopId, e.vehicleId⟩ = none) ∧
      (svc.trip? e.tripId = none →
        (svc.record now e (svc.memoryAfter ops)).memory.holds = (svc.memoryAfter ops).holds) := by
  have hcontrol := svc.holdsAtControlStops_memoryAfter ops
  generalize svc.memoryAfter ops = m at hcontrol
  refine ⟨hcontrol, ?_⟩
  intro now e r hr hdeparture
  rcases svc.holds_record now e m with ⟨htrip, hholds⟩ | ⟨hholds, hunknown⟩
  · rw [hholds]
    refine ⟨?_, ?_, ?_⟩
    · intro k hk
      rw [HoldingSettings.get?_afterEvent, if_neg fun h => hk h.2.2]
    · intro _
      cases hafter : Table.get? (svc.settings.holding.afterEvent e m.holds)
        ⟨e.stopId, e.vehicleId⟩ with
      | none => rfl
      | some h =>
        -- a hold that stays would be at a control stop, where the departure ends it
        obtain ⟨-, hstop⟩ := hcontrol.afterEvent e _ h hafter
        rw [HoldingSettings.get?_afterEvent, if_pos ⟨hdeparture, hstop, rfl⟩] at hafter
        cases hafter
    · intro hnone
      rw [hnone] at htrip
      cases htrip
  · rw [hholds]
    refine ⟨fun _ _ => rfl, ?_, fun _ => rfl⟩
    intro hknown
    rw [hunknown r hr] at hknown
    cases hknown

/-! ### A control stop at the start -/

/-- Vehicles may be held at the first stop of the shuttle. -/
noncomputable def control : Service ℝ :=
  { shuttle with settings := { shuttle.settings with holding := { controlStops := ["A"] } } }

/-- A vehicle arrives at the first stop and is held. -/
def heldArrival (tripId : String) : Operation :=
  .hold ⟨"1", tripId, "S", "A", 0, shuttleLeaves, .arrival, none, none⟩ []

/-- It leaves a minute later. -/
def heldDeparture (tripId : String) : Event :=
  ⟨"1", tripId, "S", "A", 0, shuttleArrives, .departure, none, none⟩

theorem departure_ends_hold :
    (∃ h, Table.get? (control.memoryAfter [heldArrival "T"]).holds ⟨"A", "1"⟩ = some h) ∧
      ∃ r, (control.record shuttleArrives (heldDeparture "T")
          (control.memoryAfter [heldArrival "T"])).result = .ok r ∧
        (heldDeparture "T").isDeparture = true ∧ (control.trip? "T").isSome ∧
        Table.get? (control.record shuttleArrives (heldDeparture "T")
          (control.memoryAfter [heldArrival "T"])).memory.holds ⟨"A", "1"⟩ = none := by
  obtain ⟨-, hends⟩ := departures_end_holds control [heldArrival "T"]
  have hrecord := hends shuttleArrives (heldDeparture "T") _ rfl rfl
  exact ⟨⟨_, rfl⟩, _, rfl, rfl, rfl, hrecord.2.1 rfl⟩

/-- The hold of a vehicle on an unknown trip stays when it departs. -/
theorem hold_outlives_departure :
    control.Checked Zone.named? ∧
      ∃ r h, (control.record shuttleArrives (heldDeparture "U")
          (control.memoryAfter [heldArrival "U"])).result = .ok r ∧
        (heldDeparture "U").isDeparture = true ∧
        Table.get? (control.record shuttleArrives (heldDeparture "U")
          (control.memoryAfter [heldArrival "U"])).memory.holds ⟨"A", "1"⟩ = some h := by
  refine ⟨⟨?_, rfl⟩, _, _, rfl, rfl, rfl⟩
  rw [Settings.check_eq_ok_iff]
  simp only [Settings.faults, control, shuttle, shuttle_fraction]
  decide

end Service

end Headway
