import Headway.Proofs.Service.Postconditions
import Headway.Service.Recording

/-!
# The steps of recording

Recording an event asks for local times and writes what it finds. Each part is given here as local
times first and the change of the memory after them, so that a proof about recording goes through
one kind of step at a time.

A record ends in one of five ways. It is refused because the event is too far ahead or has no local
time; it is filed under its stop only, because its trip is unknown or because the start of its run
has no local time, which is a failure; and otherwise it goes through. The first four ways are
settled here. What a record writes that goes through is told by what it takes in.
-/

namespace Headway

namespace Service

variable {R : Type} (svc : Service R)

theorem fileAtStop_eq (now : Instant) (e : Event) (m : Memory R) :
    svc.fileAtStop now e m =
      (Step.ofLocal m (svc.clock.serviceDay e.time)).andThen fun day m =>
        Step.done { m with stops := m.stops.file now.day e day } ⟨e.stopId, day⟩ := by
  unfold fileAtStop StopHistory.record
  cases svc.clock.serviceDay e.time with
  | error _ => rfl
  | ok day => rfl

theorem fileInTrip_eq (now : Instant) (trip : Trip) (e : Event) (m : Memory R) :
    svc.fileInTrip now trip e m =
      (Step.ofLocal m (TripHistory.runStart svc.clock trip e.frequencyStart)).andThen
        fun known m =>
          match known with
          | none => Step.mk m (runNotices e none) [] (.ok none)
          | some start =>
            (Step.ofLocal m (svc.clock.serviceDay e.time)).andThen fun day m =>
              Step.done { m with trips := m.trips.file now.day e start day }
                (some ⟨e.tripId, day, start⟩) := by
  unfold fileInTrip TripHistory.record
  cases TripHistory.runStart svc.clock trip e.frequencyStart with
  | error _ => rfl
  | ok known =>
    cases known with
    | none => rfl
    | some start =>
      cases svc.clock.serviceDay e.time with
      | error _ => rfl
      | ok day => rfl

/-- What an event completes, given the run under which it is filed. -/
def completionOf (m : Memory R) (e : Event) (run : Option TripKey) : Completion :=
  match run.bind m.trips.log.get? with
  | some history => svc.settings.filters.completion e history
  | none => .nothing

variable [Scalar R]

/-- Takes a sample of a segment into the means. -/
def takeSample (m : Memory R) (today : Day) (byFrequency : Bool) (key : SegmentKey) (millis : Int)
    (day : Day) : Memory R × SegmentMeans.Updated R :=
  let means := m.means byFrequency
  let taken := means.store.update today key (Scalar.ofInt millis) day
  (m.withMeans byFrequency { means with store := taken.1 }, ⟨key, taken.2⟩)

theorem takeMean_eq (now : Instant) (trip : Trip) (e : Event) (run : Option TripKey)
    (m : Memory R) :
    svc.takeMean now trip e run m =
      (Step.notify m ((svc.completionOf m e run).notices e.completes)).andThen fun _ kept =>
        match svc.completionOf m e run with
        | .sample millis =>
          (Step.ofLocal kept ((kept.means trip.byFrequency).space.key svc.clock e.tripId
            e.stopPathIndex e.completes e.time)).andThen fun key kept =>
              (Step.ofLocal kept (svc.clock.serviceDay e.time)).andThen fun day kept =>
                let taken := takeSample kept now.day trip.byFrequency key millis day
                Step.done taken.1 (some taken.2)
        | _ => Step.done kept none := by
  have hkeep : m.withMeans trip.byFrequency (m.means trip.byFrequency) = m := by
    unfold Memory.withMeans Memory.means
    cases trip.byFrequency with
    | false => rfl
    | true => rfl
  change (Step.notify m ((svc.completionOf m e run).notices e.completes)).andThen (fun _ m =>
    (Step.ofLocal m ((m.means trip.byFrequency).record svc.clock now.day e
      (svc.completionOf _ e run))).andThen fun taken m =>
        Step.done (m.withMeans trip.byFrequency taken.1) taken.2) = _
  cases svc.completionOf m e run with
  | nothing => exact congrArg (fun kept => Step.mk kept _ _ _) hkeep
  | rejected reason => exact congrArg (fun kept => Step.mk kept _ _ _) hkeep
  | sample millis =>
    congr 1
    funext _ m
    unfold SegmentMeans.record SegmentMeans.addSample
    cases (m.means trip.byFrequency).space.key svc.clock e.tripId e.stopPathIndex e.completes
      e.time with
    | error _ => rfl
    | ok key =>
      cases svc.clock.serviceDay e.time with
      | error _ => rfl
      | ok day => rfl

/-! ## Outcomes -/

variable {now : Instant} {e : Event} {m : Memory R} {day : Day} {trip : Trip} {cause : NoLocalTime}

theorem record_of_isTooFarAhead (hfar : svc.isTooFarAhead now e = true) :
    (svc.record now e m).memory = m ∧
      (svc.record now e m).result = .error (.futureEvent e.vehicleId e.time) := by
  rw [record, if_pos hfar]
  exact ⟨rfl, rfl⟩

theorem record_of_noLocalTime (hfar : svc.isTooFarAhead now e = false)
    (hday : svc.clock.serviceDay e.time = .error cause) :
    (svc.record now e m).memory = m ∧
      (svc.record now e m).result = .error (.noLocalTime cause) := by
  rw [record, hfar, fileAtStop_eq, hday]
  exact ⟨rfl, rfl⟩

theorem record_of_unknownTrip (hfar : svc.isTooFarAhead now e = false)
    (hday : svc.clock.serviceDay e.time = .ok day) (htrip : svc.trip? e.tripId = none) :
    (svc.record now e m).memory = { m with stops := m.stops.file now.day e day } ∧
      (svc.record now e m).result = .ok ⟨⟨e.stopId, day⟩, none, none⟩ := by
  rw [record, hfar, fileAtStop_eq, hday, htrip]
  exact ⟨rfl, rfl⟩

theorem record_of_lostRunStart (hfar : svc.isTooFarAhead now e = false)
    (hday : svc.clock.serviceDay e.time = .ok day) (htrip : svc.trip? e.tripId = some trip)
    (hstart : TripHistory.runStart svc.clock trip e.frequencyStart = .error cause) :
    (svc.record now e m).memory = { m with stops := m.stops.file now.day e day } ∧
      (svc.record now e m).result = .error (.noLocalTime cause) := by
  rw [record, hfar, fileAtStop_eq, hday, htrip]
  unfold recordOnTrip
  simp only [fileInTrip_eq, hstart]
  exact ⟨rfl, rfl⟩

end Service

end Headway
