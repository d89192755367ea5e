import Headway.Failure
import Headway.Scalar

/-!
# The Kalman step

A travel time is estimated from the last vehicle's and from those of previous days. The variance of
the days and the error of the last estimate decide the gain, which is the weight of the days; the
rest is the weight of the last vehicle. Without any variance or error the days have all the weight.
-/

namespace Headway

/-- One traversal of a stop path, by the times at its two ends in milliseconds. -/
structure Traversal where
  origin : Option Int
  destination : Option Int
  deriving DecidableEq

namespace Traversal

/-- A traversal known by its duration only. -/
def ofDuration (ms : Int) : Traversal := ⟨some 0, some ms⟩

/-- The time between the two ends, when both are known. -/
def duration? (t : Traversal) : Option Int := do return (← t.destination) - (← t.origin)

/-- The time between the two ends, or the end that is missing. -/
def duration {R : Type} (t : Traversal) : Except (Failure R) Int :=
  match t.origin, t.destination with
  | none, _ => .error (.segmentWithout .origin)
  | _, none => .error (.segmentWithout .destination)
  | some o, some d => .ok (d - o)

end Traversal

/-- An estimate with the error that the next step starts from. -/
structure KalmanEstimate (R : Type) where
  result : R
  filterError : R

namespace Kalman

variable {R : Type} [Scalar R]

/-- The mean squared distance from a mean. -/
def variance (durations : List R) (mean : R) : R :=
  Scalar.sum (durations.map fun d => Scalar.square (d - mean)) / Scalar.count durations

/-- The weight of the previous days. -/
def gain (error variance : R) : R :=
  let denominator := error + Scalar.ofInt 2 * variance
  if Scalar.eq denominator Scalar.zero then Scalar.one else (error + variance) / denominator

/-- The estimate from the durations of previous days, oldest first, and of the last vehicle. The
days contribute their mean, or the most recent of them. -/
def estimate (useAverage : Bool) (days : List R) (mostRecent last error : R) : KalmanEstimate R :=
  let mean := Scalar.mean days
  let v := variance days mean
  let g := gain error v
  let component := if useAverage then mean else mostRecent
  ⟨(Scalar.one - g) * last + g * component, v * g⟩

/-- One step of the filter. There is no estimate without previous days, and an estimate that is not
finite is a failure. -/
def step (useAverage : Bool) (last : Traversal) (days : List Traversal) (error : R) :
    Except (Failure R) (Option (KalmanEstimate R)) := do
  if days.isEmpty then
    return none
  let durations ← days.mapM fun t => (t.duration : Except (Failure R) Int)
  let lastDuration ← (last.duration : Except (Failure R) Int)
  let e := estimate useAverage (durations.map Scalar.ofInt)
    (Scalar.ofInt (durations.getLastD 0)) (Scalar.ofInt lastDuration) error
  if Scalar.isFinite e.result && Scalar.isFinite e.filterError then
    return some e
  else
    throw (.notFinite e.result e.filterError)

end Kalman

end Headway
