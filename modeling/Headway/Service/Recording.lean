import Headway.Service.Step

/-!
# Recording events

An event is filed under its stop and, when its trip is known, under its run. What it completes goes
into the means; a departure also trains the dwell model of its stop path and ends a hold. An event
dated too far ahead of the clock is refused before anything is done.
-/

namespace Headway

/-- What became of a recorded event: where it was filed, and the mean that it changed. The run is
missing when the trip is unknown or the run cannot be told. -/
structure Recorded (R : Type) where
  stopKey : StopKey
  tripKey : Option TripKey
  updated : Option (SegmentMeans.Updated R)

namespace Service

variable {R : Type} (svc : Service R)

/-- An event is dated further ahead of the clock than is allowed. -/
def isTooFarAhead (now : Instant) (e : Event) : Bool :=
  match now.addMillis? (svc.settings.filters.maxEventLead * 1000) with
  | some latest => latest < e.time
  | none => false

/-- Files an event under its stop. -/
def fileAtStop (now : Instant) (e : Event) (m : Memory R) : Step R StopKey :=
  (Step.ofLocal m (m.stops.record svc.clock now.day e)).andThen fun filed m =>
    Step.done { m with stops := filed.1 } filed.2

/-- The notice that the run of an event cannot be told. -/
def runNotices (e : Event) : Option TripKey → List (Notice R)
  | some _ => []
  | none => [.unknownRun e.tripId e.vehicleId]

/-- Files an event under its run, if that can be told. -/
def fileInTrip (now : Instant) (trip : Trip) (e : Event) (m : Memory R) : Step R (Option TripKey) :=
  (Step.ofLocal m (m.trips.record svc.clock now.day trip e)).andThen fun filed m =>
    (Step.notify { m with trips := filed.1 } (runNotices e filed.2)).map fun _ => filed.2

variable [Scalar R]

/-- Takes what an event completes into the means, given the run under which it is filed. -/
def takeMean (now : Instant) (trip : Trip) (e : Event) (run : Option TripKey) (m : Memory R) :
    Step R (Option (SegmentMeans.Updated R)) :=
  let completion :=
    match run.bind m.trips.log.get? with
    | some history => svc.settings.filters.completion e history
    | none => .nothing
  (Step.notify m (completion.notices e.completes)).andThen fun _ m =>
    let means := m.means trip.byFrequency
    (Step.ofLocal m (means.record svc.clock now.day e completion)).andThen fun taken m =>
      Step.done (m.withMeans trip.byFrequency taken.1) taken.2

/-- Trains the dwell model of a departure's stop path. -/
def takeDwell (e : Event) (m : Memory R) : Step R Unit :=
  (Step.ofLocal m (DwellTraining.lessonOf svc.clock svc.settings.filters e m.stops)).andThen
    fun lesson m =>
      Step.notify { m with dwellModels := m.dwellModels.learn svc.settings.dwell e lesson }
        (lesson.notices e)

/-- Takes an event of a known trip. -/
def recordOnTrip (now : Instant) (trip : Trip) (e : Event) (stopKey : StopKey) (m : Memory R) :
    Step R (Recorded R) :=
  (svc.fileInTrip now trip e m).andThen fun tripKey m =>
    (svc.takeMean now trip e tripKey m).andThen fun updated m =>
      (svc.takeDwell e m).andThen fun _ m =>
        Step.done { m with holds := svc.settings.holding.afterEvent e m.holds }
          ⟨stopKey, tripKey, updated⟩

/-- Records an event. -/
def record (now : Instant) (e : Event) (m : Memory R) : Step R (Recorded R) :=
  if svc.isTooFarAhead now e then
    ⟨m, [.futureEvent e.vehicleId e.tripId e.time], [], .error (.futureEvent e.vehicleId e.time)⟩
  else
    (svc.fileAtStop now e m).andThen fun stopKey m =>
      match svc.trip? e.tripId with
      | some trip => svc.recordOnTrip now trip e stopKey m
      | none =>
        (Step.notify m [.unknownTripEvent e.tripId e.vehicleId]).map fun _ =>
          ⟨stopKey, none, none⟩

/-- Holds a vehicle that arrives at a control stop, and answers until when. -/
def hold (e : Event) (predictions : List ArrivalPrediction) (m : Memory R) :
    Step R (Option Hold) :=
  (Step.ofLocal m (svc.settings.holding.hold? svc.clock e predictions m.stops m.holds)).andThen
    fun hold m =>
      match hold with
      | some h => Step.done { m with holds := m.holds.add h } (some h)
      | none => Step.done m none

end Service

end Headway
