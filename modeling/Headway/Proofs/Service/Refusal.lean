import Headway.Proofs.Service.Bounds
import Headway.Proofs.Service.Intake

/-!
# Records that fail

A record fails when the event is too far ahead of the clock, when its time has no local time, or
when the start of its run has none. In the first two cases nothing was done before. In the third the
event already stands under its stop (`Service.failed_records`), so that the failure is not without a
trace (`Service.failed_record_leaves_event`).
-/

namespace Headway

theorem TripHistory.runStart_eq_error_iff {clock : ServiceClock} {trip : Trip}
    {frequencyStart : Option Instant} {cause : NoLocalTime} :
    runStart clock trip frequencyStart = .error cause ↔
      trip.byFrequency = true ∧ ∃ start, frequencyStart = some start ∧
        clock.toLocal start = .error cause := by
  unfold runStart
  cases hfrequency : trip.byFrequency with
  | false => simp
  | true =>
    cases frequencyStart with
    | none => simp
    | some start =>
      unfold ServiceClock.bucket
      cases hlocal : clock.toLocal start with
      | error other => simp [Except.map, hlocal]
      | ok localTime => simp [Except.map, hlocal]

namespace Service

variable {R : Type} [Scalar R] (svc : Service R)

/-- An event of a trip by frequency gives a start of its run that has no local time. -/
def LosesRunStart (e : Event) : Prop :=
  ∃ trip start cause, svc.trip? e.tripId = some trip ∧ trip.byFrequency = true ∧
    e.frequencyStart = some start ∧ svc.clock.toLocal start = .error cause

/-- A record that fails leaves the memory as it was, unless the start of the event's run has no
local time. A record that fails for this reason has filed the event under its stop and done nothing
else. -/
theorem failed_records (now : Instant) (e : Event) (m : Memory R) :
    (∀ f, (svc.record now e m).result = .error f →
      svc.isTooFarAhead now e = true ∨ (∃ cause, svc.clock.serviceDay e.time = .error cause) ∨
          ¬ svc.LosesRunStart e →
        (svc.record now e m).memory = m) ∧
    ∀ day, svc.isTooFarAhead now e = false → svc.clock.serviceDay e.time = .ok day →
      svc.LosesRunStart e →
        (∃ cause, (svc.record now e m).result = .error (.noLocalTime cause)) ∧
          (svc.record now e m).memory = { m with stops := m.stops.file now.day e day } := by
  constructor
  · intro f hf hreason
    cases hfar : svc.isTooFarAhead now e with
    | true => exact (svc.record_of_isTooFarAhead hfar).1
    | false =>
      cases hday : svc.clock.serviceDay e.time with
      | error cause => exact (svc.record_of_noLocalTime hfar hday).1
      | ok day =>
        -- past both refusals a record of a known trip fails by the start of its run alone
        have hkeeps : ¬ svc.LosesRunStart e := by
          simpa [hfar, hday] using hreason
        cases htrip : svc.trip? e.tripId with
        | none =>
          rw [(svc.record_of_unknownTrip hfar hday htrip).2] at hf
          cases hf
        | some trip =>
          cases hstart : TripHistory.runStart svc.clock trip e.frequencyStart with
          | error cause =>
            obtain ⟨hfrequency, start, hgiven, hlocal⟩ :=
              TripHistory.runStart_eq_error_iff.mp hstart
            exact absurd ⟨trip, start, cause, htrip, hfrequency, hgiven, hlocal⟩ hkeeps
          | ok known =>
            obtain ⟨r, hr⟩ := (svc.record_of_runStart (m := m) hfar hday htrip hstart).result
            rw [hr] at hf
            cases hf
  · rintro day hfar hday ⟨trip, start, cause, htrip, hfrequency, hgiven, hlocal⟩
    have hstart := TripHistory.runStart_eq_error_iff.mpr ⟨hfrequency, start, hgiven, hlocal⟩
    obtain ⟨hmemory, hresult⟩ := svc.record_of_lostRunStart (m := m) hfar hday htrip hstart
    exact ⟨⟨cause, hresult⟩, hmemory⟩

/-! ### A trip by frequency in the east -/

/-- A shuttle by frequency, nine hours ahead of UTC. -/
noncomputable def eastern : Service ℝ :=
  { shuttle with
    settings := { shuttle.settings with
      timezone := "Asia/Tokyo"
      schedule := Schedule.ofTrips [⟨"F", "S", true, none, ["A"], [0], [0]⟩] }
    clock := .of ((Zone.named? "Asia/Tokyo").get rfl) 2 10800 }

/-- The last second of the calendar. -/
def lastSecond : Instant := (Instant.of? ((lastDayNumber + 1) * 86400 - 1) 0).get rfl

/-- An arrival, with a given start of the run. -/
def easternArrival (time start : Instant) : Event :=
  ⟨"1", "F", "S", "A", 0, time, .arrival, none, some start⟩

theorem failed_records_eastern :
    (∃ f cause, (eastern.record lastSecond (easternArrival lastSecond lastSecond)
        (Memory.new eastern.settings)).result = .error f ∧
      eastern.clock.serviceDay lastSecond = .error cause ∧
      (eastern.record lastSecond (easternArrival lastSecond lastSecond)
        (Memory.new eastern.settings)).memory = Memory.new eastern.settings) ∧
    eastern.clock.serviceDay shuttleArrives = .ok shuttleArrives.day ∧
    eastern.LosesRunStart (easternArrival shuttleArrives lastSecond) ∧
    (∃ cause, (eastern.record shuttleArrives (easternArrival shuttleArrives lastSecond)
        (Memory.new eastern.settings)).result = .error (.noLocalTime cause)) ∧
      (eastern.record shuttleArrives (easternArrival shuttleArrives lastSecond)
        (Memory.new eastern.settings)).memory.stops =
          (Memory.new eastern.settings).stops.file shuttleArrives.day
            (easternArrival shuttleArrives lastSecond) shuttleArrives.day := by
  obtain ⟨hnone, -⟩ := failed_records eastern lastSecond (easternArrival lastSecond lastSecond)
    (Memory.new eastern.settings)
  obtain ⟨-, hfiled⟩ := failed_records eastern shuttleArrives
    (easternArrival shuttleArrives lastSecond) (Memory.new eastern.settings)
  have hday : eastern.clock.serviceDay shuttleArrives = .ok shuttleArrives.day := rfl
  have hlost : eastern.LosesRunStart (easternArrival shuttleArrives lastSecond) :=
    ⟨_, lastSecond, ⟨lastSecond⟩, rfl, rfl, rfl, rfl⟩
  obtain ⟨hresult, hmemory⟩ := hfiled shuttleArrives.day rfl hday hlost
  refine ⟨⟨.noLocalTime ⟨lastSecond⟩, ⟨lastSecond⟩, rfl, rfl, ?_⟩, hday, hlost, hresult, ?_⟩
  · exact hnone (.noLocalTime ⟨lastSecond⟩) rfl (.inr (.inl ⟨⟨lastSecond⟩, rfl⟩))
  · rw [hmemory]

/-- A record that fails leaves an event where none was. -/
theorem failed_record_leaves_event :
    eastern.Checked Zone.named? ∧ ∃ f k,
      (eastern.record shuttleArrives (easternArrival shuttleArrives lastSecond)
          (eastern.memoryAfter [])).result = .error f ∧
      EventLog.get? (eastern.memoryAfter []).stops k = none ∧
      EventLog.get? (eastern.record shuttleArrives (easternArrival shuttleArrives lastSecond)
          (eastern.memoryAfter [])).memory.stops k =
        some [easternArrival shuttleArrives lastSecond] := by
  refine ⟨⟨?_, rfl⟩, _, ⟨"A", shuttleArrives.day⟩, rfl, rfl, rfl⟩
  rw [Settings.check_eq_ok_iff]
  simp only [Settings.faults, eastern, shuttle, shuttle_fraction]
  decide

end Service

end Headway
