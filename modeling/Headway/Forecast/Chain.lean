import Headway.Forecast.Estimator

/-!
# Chains of strategies

Strategies are tried in turn until one has a value. One without data is passed over in silence, and
one that failed is passed over with a notice. When none has a value the schedule answers.

Before a Kalman estimate is answered, the rest of the chain is asked as well, and a notice is given
when the two are far apart.
-/

namespace Headway

/-- An estimate with the notices given on the way to it. -/
structure Found (R : Type) where
  notices : List (Notice R)
  estimate : Estimate R

/-- The same after earlier notices. -/
def Found.after {R : Type} (notices : List (Notice R)) (f : Found R) : Found R :=
  { f with notices := notices ++ f.notices }

namespace Context

variable {R : Type} (ctx : Context R)

/-- The notice that an estimator failed. -/
def failed (leg : Leg) (failure : Failure R) (strategy : String) : Notice R :=
  .estimatorFailed leg failure ctx.trip.tripId ctx.stopPathIndex ctx.vehicle.vehicleId strategy

end Context

namespace Service

variable {R : Type} [Scalar R] (svc : Service R)

/-- The notice that a Kalman estimate is far from another one, in percent of the other and in
milliseconds. -/
def variationNotices (ctx : Context R) (kalman other : Estimate R) : List (Notice R) :=
  if other.millis = 0 then []
  else
    let difference : Int := (kalman.millis - other.millis).natAbs
    let percentage : R :=
      Scalar.ofInt difference / Scalar.ofInt other.millis * Scalar.ofInt 100
    if Scalar.lt svc.settings.kalman.variationPercentage percentage &&
        svc.settings.kalman.variationMillis < difference then
      [.variation ctx.trip.tripId ctx.stopPathIndex ctx.vehicle.vehicleId kalman.millis
        other.millis other.algorithm percentage]
    else
      []

/-- The travel time by the first strategy that has a value. -/
def findTravel (m : Memory R) (ctx : Context R) : List TravelStrategy → Found R
  | [] => ⟨[], ctx.scheduledTravel⟩
  | s :: rest =>
    let attempt := svc.attemptTravel m ctx s
    match attempt.outcome with
    | .ok (some e) =>
      if e.algorithm = .kalman then
        let other := findTravel m ctx rest
        ⟨attempt.notices ++ other.notices ++ svc.variationNotices ctx e other.estimate, e⟩
      else
        ⟨attempt.notices, e⟩
    | .ok none => (findTravel m ctx rest).after attempt.notices
    | .error failure =>
      (findTravel m ctx rest).after (attempt.notices ++ [ctx.failed .travel failure s.name])

/-- The dwell time by the first strategy that has a value. -/
def findDwell (m : Memory R) (ctx : Context R) : List DwellStrategy → Found R
  | [] => ⟨[], ctx.scheduledDwell⟩
  | s :: rest =>
    let attempt := svc.attemptDwell m ctx s
    match attempt.outcome with
    | .ok (some e) => ⟨attempt.notices, e⟩
    | .ok none => (findDwell m ctx rest).after attempt.notices
    | .error failure =>
      (findDwell m ctx rest).after (attempt.notices ++ [ctx.failed .dwell failure s.name])

/-- The estimate of a leg by the chain of the settings. -/
def find (m : Memory R) (ctx : Context R) : Leg → Found R
  | .travel => svc.findTravel m ctx svc.travelChain
  | .dwell => svc.findDwell m ctx svc.dwellChain

end Service

end Headway
