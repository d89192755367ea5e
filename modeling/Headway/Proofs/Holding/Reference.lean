import Headway.Holding.Basic
import Headway.Proofs.Instant

/-!
# The departure ahead

A vehicle on hold is spaced against a departure of another vehicle at its stop. That is the earliest
release of those that still wait there, or the arrival itself if this release has passed; without
one it is the latest departure on record that is not after the arrival (`IsReference`). The search
for it finds exactly this departure, and fails only where nobody waits and the arrival has no
service day (`HoldingSettings.reference?_eq_ok_iff`, `HoldingSettings.reference?_eq_error_iff`).

Who waits is read off the table of holds by key, so the order of its entries does not matter
(`HoldingSettings.reference?_congr`).
-/

namespace Headway

theorem Table.mem_values_iff {κ α : Type} [DecidableEq κ] (t : Table κ α) {a : α} :
    a ∈ t.values ↔ ∃ k, t.get? k = some a := by
  rw [Table.values, List.mem_map]
  constructor
  · rintro ⟨⟨k, _⟩, hmem, rfl⟩
    exact ⟨k, t.get?_eq_some_iff.mpr hmem⟩
  · rintro ⟨k, hk⟩
    exact ⟨(k, a), t.get?_eq_some_iff.mp hk, rfl⟩

/-- Every hold stands under its own stop and vehicle. -/
def Holds.Keyed (holds : Holds) : Prop := ∀ k h, Table.get? holds k = some h → h.key = k

namespace Event

variable (e : Event)

/-- Another vehicle waits at the stop of an arrival. -/
def WaitsAhead (holds : Holds) (h : Hold) : Prop :=
  ∃ vehicleId, vehicleId ≠ e.vehicleId ∧ Table.get? holds ⟨e.stopId, vehicleId⟩ = some h

/-- Another vehicle has departed from a stop, not after the arrival. -/
def DepartedAhead (events : List Event) (d : Event) : Prop :=
  d ∈ events ∧ d.isDeparture = true ∧ d.vehicleId ≠ e.vehicleId ∧ d.time ≤ e.time

end Event

/-- The departure against which an arriving vehicle is spaced, if there is one. -/
inductive IsReference (clock : ServiceClock) (e : Event) (stops : StopHistory) (holds : Holds) :
    Option Instant → Prop
  /-- The earliest release of a vehicle that waits, or the arrival if that has passed. -/
  | release {h : Hold} (hwaits : e.WaitsAhead holds h)
      (hfirst : ∀ other, e.WaitsAhead holds other → h.release ≤ other.release) :
      IsReference clock e stops holds (some (h.release.latest e.time))
  /-- The latest departure at the stop on the arrival's service day. -/
  | departure {day : Day} {events : List Event} {d : Event}
      (hnobody : ∀ h, ¬ e.WaitsAhead holds h) (hday : clock.serviceDay e.time = .ok day)
      (hevents : EventLog.get? stops ⟨e.stopId, day⟩ = some events)
      (hdeparted : e.DepartedAhead events d)
      (hlast : ∀ other, e.DepartedAhead events other → other.time ≤ d.time) :
      IsReference clock e stops holds (some d.time)
  /-- Nobody waits and no departure is on record. -/
  | nothing {day : Day} (hnobody : ∀ h, ¬ e.WaitsAhead holds h)
      (hday : clock.serviceDay e.time = .ok day)
      (hnone : ∀ events, EventLog.get? stops ⟨e.stopId, day⟩ = some events →
        ∀ d, ¬ e.DepartedAhead events d) :
      IsReference clock e stops holds none

namespace HoldingSettings

variable {clock : ServiceClock} {e : Event} {stops : StopHistory} {holds : Holds}

/-! ## Vehicles that wait -/

theorem waitsAhead_iff (hkeyed : holds.Keyed) {h : Hold} :
    e.WaitsAhead holds h ↔
      h ∈ (holds.atStop e.stopId).filter fun h => h.vehicleId ≠ e.vehicleId := by
  rw [Holds.atStop, List.mem_filter, List.mem_filter, Table.mem_values_iff]
  simp only [decide_eq_true_eq]
  constructor
  · rintro ⟨vehicleId, hother, hget⟩
    have hkey : (⟨h.stopId, h.vehicleId⟩ : HoldKey) = ⟨e.stopId, vehicleId⟩ := hkeyed _ _ hget
    obtain ⟨hstop, hvehicle⟩ := HoldKey.mk.inj hkey
    exact ⟨⟨⟨_, hget⟩, hstop⟩, hvehicle ▸ hother⟩
  · rintro ⟨⟨⟨k, hget⟩, hstop⟩, hother⟩
    have hkey : h.key = k := hkeyed _ _ hget
    exact ⟨h.vehicleId, hother, by rw [← hget, ← hkey, Hold.key, hstop]⟩

theorem nextRelease?_eq_none_iff (hkeyed : holds.Keyed) :
    nextRelease? e holds = none ↔ ∀ h, ¬ e.WaitsAhead holds h := by
  rw [nextRelease?, Option.map_eq_none_iff, Instant.earliest?_eq_none_iff, List.map_eq_nil_iff,
    List.eq_nil_iff_forall_not_mem]
  exact forall_congr' fun h => not_congr (waitsAhead_iff hkeyed).symm

theorem nextRelease?_eq_some_iff (hkeyed : holds.Keyed) {t : Instant} :
    nextRelease? e holds = some t ↔ ∃ h, e.WaitsAhead holds h ∧
      (∀ other, e.WaitsAhead holds other → h.release ≤ other.release) ∧
      h.release.latest e.time = t := by
  rw [nextRelease?, Option.map_eq_some_iff]
  simp only [Instant.earliest?_eq_some_iff, List.mem_map, ← waitsAhead_iff hkeyed]
  constructor
  · rintro ⟨_, ⟨⟨h, hwaits, rfl⟩, hfirst⟩, ht⟩
    exact ⟨h, hwaits, fun other hother => hfirst _ ⟨other, hother, rfl⟩, ht⟩
  · rintro ⟨h, hwaits, hfirst, ht⟩
    refine ⟨h.release, ⟨⟨h, hwaits, rfl⟩, ?_⟩, ht⟩
    rintro _ ⟨other, hother, rfl⟩
    exact hfirst other hother

/-! ## Departures on record -/

theorem departedAhead_iff {events : List Event} {d : Event} :
    e.DepartedAhead events d ↔ d ∈ events.filter fun d =>
      d.isDeparture && d.vehicleId ≠ e.vehicleId && d.time ≤ e.time := by
  simp [Event.DepartedAhead, and_assoc]

theorem lastDeparture?_eq_none_iff {events : List Event} :
    lastDeparture? e events = none ↔ ∀ d, ¬ e.DepartedAhead events d := by
  rw [lastDeparture?, Instant.latest?_eq_none_iff, List.map_eq_nil_iff,
    List.eq_nil_iff_forall_not_mem]
  exact forall_congr' fun d => not_congr departedAhead_iff.symm

theorem lastDeparture?_eq_some_iff {events : List Event} {t : Instant} :
    lastDeparture? e events = some t ↔ ∃ d, e.DepartedAhead events d ∧
      (∀ other, e.DepartedAhead events other → other.time ≤ d.time) ∧ d.time = t := by
  rw [lastDeparture?, Instant.latest?_eq_some_iff]
  simp only [List.mem_map, ← departedAhead_iff]
  constructor
  · rintro ⟨⟨d, hdeparted, rfl⟩, hlast⟩
    exact ⟨d, hdeparted, fun other hother => hlast _ ⟨other, hother, rfl⟩, rfl⟩
  · rintro ⟨d, hdeparted, hlast, rfl⟩
    refine ⟨⟨d, hdeparted, rfl⟩, ?_⟩
    rintro _ ⟨other, hother, rfl⟩
    exact hlast other hother

/-! ## The reference -/

theorem reference?_of_release {t : Instant} (h : nextRelease? e holds = some t) :
    reference? clock e stops holds = .ok (some t) := by
  rw [reference?, h]

theorem reference?_of_serviceDay {day : Day} (h : nextRelease? e holds = none)
    (hday : clock.serviceDay e.time = .ok day) :
    reference? clock e stops holds =
      .ok ((EventLog.get? stops ⟨e.stopId, day⟩).bind (lastDeparture? e)) := by
  rw [reference?, h, hday]
  rfl

theorem reference?_of_noLocalTime {cause : NoLocalTime} (h : nextRelease? e holds = none)
    (hday : clock.serviceDay e.time = .error cause) :
    reference? clock e stops holds = .error cause := by
  rw [reference?, h, hday]
  rfl

theorem reference?_eq_error_iff (hkeyed : holds.Keyed) {cause : NoLocalTime} :
    reference? clock e stops holds = .error cause ↔
      (∀ h, ¬ e.WaitsAhead holds h) ∧ clock.serviceDay e.time = .error cause := by
  rw [← nextRelease?_eq_none_iff hkeyed]
  constructor
  · intro h
    cases hnext : nextRelease? e holds with
    | some t =>
      rw [reference?_of_release hnext] at h
      cases h
    | none =>
      cases hday : clock.serviceDay e.time with
      | error other =>
        rw [reference?_of_noLocalTime hnext hday] at h
        exact ⟨rfl, congrArg Except.error (Except.error.inj h)⟩
      | ok day =>
        rw [reference?_of_serviceDay hnext hday] at h
        cases h
  · rintro ⟨hnext, hday⟩
    exact reference?_of_noLocalTime hnext hday

theorem isReference_of_serviceDay (hkeyed : holds.Keyed) {day : Day}
    (hnext : nextRelease? e holds = none) (hday : clock.serviceDay e.time = .ok day) :
    IsReference clock e stops holds
      ((EventLog.get? stops ⟨e.stopId, day⟩).bind (lastDeparture? e)) := by
  have hnobody := (nextRelease?_eq_none_iff hkeyed).mp hnext
  cases hevents : EventLog.get? stops ⟨e.stopId, day⟩ with
  | none => exact .nothing hnobody hday (by simp [hevents])
  | some events =>
    rw [Option.bind_some]
    cases hlast : lastDeparture? e events with
    | none =>
      refine .nothing hnobody hday fun others hothers => ?_
      obtain rfl := Option.some.inj (hevents.symm.trans hothers)
      exact lastDeparture?_eq_none_iff.mp hlast
    | some t =>
      obtain ⟨d, hdeparted, hmax, rfl⟩ := lastDeparture?_eq_some_iff.mp hlast
      exact .departure hnobody hday hevents hdeparted hmax

theorem reference?_of_isReference (hkeyed : holds.Keyed) {reference : Option Instant}
    (h : IsReference clock e stops holds reference) :
    reference? clock e stops holds = .ok reference := by
  cases h with
  | release hwaits hfirst =>
    exact reference?_of_release ((nextRelease?_eq_some_iff hkeyed).mpr ⟨_, hwaits, hfirst, rfl⟩)
  | departure hnobody hday hevents hdeparted hlast =>
    rw [reference?_of_serviceDay ((nextRelease?_eq_none_iff hkeyed).mpr hnobody) hday, hevents,
      Option.bind_some, lastDeparture?_eq_some_iff.mpr ⟨_, hdeparted, hlast, rfl⟩]
  | nothing hnobody hday hnone =>
    rw [reference?_of_serviceDay ((nextRelease?_eq_none_iff hkeyed).mpr hnobody) hday,
      Option.bind_eq_none_iff.mpr fun events hevents =>
        lastDeparture?_eq_none_iff.mpr (hnone events hevents)]

theorem reference?_eq_ok_iff (hkeyed : holds.Keyed) {reference : Option Instant} :
    reference? clock e stops holds = .ok reference ↔ IsReference clock e stops holds reference := by
  refine ⟨fun h => ?_, reference?_of_isReference hkeyed⟩
  cases hnext : nextRelease? e holds with
  | some t =>
    obtain ⟨first, hwaits, hfirst, rfl⟩ := (nextRelease?_eq_some_iff hkeyed).mp hnext
    rw [reference?_of_release hnext] at h
    cases h
    exact .release hwaits hfirst
  | none =>
    cases hday : clock.serviceDay e.time with
    | error cause =>
      rw [reference?_of_noLocalTime hnext hday] at h
      cases h
    | ok day =>
      rw [reference?_of_serviceDay hnext hday] at h
      exact Except.ok.inj h ▸ isReference_of_serviceDay hkeyed hnext hday

/-- Tables of holds that read alike give the same reference. -/
theorem reference?_congr {other : Holds} (hkeyed : holds.Keyed)
    (h : ∀ k, Table.get? other k = Table.get? holds k) :
    reference? clock e stops other = reference? clock e stops holds := by
  have hother : other.Keyed := fun k held hheld => hkeyed k held (h k ▸ hheld)
  have hwaits : e.WaitsAhead other = e.WaitsAhead holds := by
    funext held
    simp only [Event.WaitsAhead, h]
  have hsome (t : Instant) : nextRelease? e other = some t ↔ nextRelease? e holds = some t := by
    rw [nextRelease?_eq_some_iff hother, nextRelease?_eq_some_iff hkeyed, hwaits]
  have hnext : nextRelease? e other = nextRelease? e holds := Option.ext hsome
  rw [reference?, reference?, hnext]

end HoldingSettings

end Headway
