import Headway.Dwell.LeastSquares
import Headway.Dwell.RunningMean
import Headway.Settings.Basic

/-!
# Dwell time models

One model for the dwell times at the end of a stop path, of either kind.
-/

namespace Headway

/-- A model of dwell times. -/
inductive DwellModel (R : Type) where
  | runningMean (model : RunningMean R)
  | leastSquares (model : LeastSquares R)

namespace DwellModel

variable {R : Type} [Scalar R]

/-- A model without samples. -/
def new (s : DwellSettings R) : DwellModel R :=
  match s.model with
  | .runningMean => .runningMean (RunningMean.new s.sampleSize s.fractionLimit)
  | .leastSquares => .leastSquares (LeastSquares.new s.forgetting)

/-- The kind of a model. -/
def kind : DwellModel R → DwellModelKind
  | .runningMean _ => .runningMean
  | .leastSquares _ => .leastSquares

/-- Takes in a dwell time and the headway before it, in milliseconds. -/
def add (m : DwellModel R) (dwellMs headwayMs : Int) : DwellModel R :=
  match m with
  | .runningMean r => .runningMean (r.add dwellMs)
  | .leastSquares l => .leastSquares (l.add dwellMs headwayMs)

/-- The dwell time that is predicted after a headway. -/
def predict? (m : DwellModel R) (headwayMs : Int) : Option Int :=
  match m with
  | .runningMean r => r.predict?
  | .leastSquares l => l.predict? headwayMs

/-- The number of samples that the prediction rests on. -/
def sampleCount : DwellModel R → Nat
  | .runningMean r => r.samples.length
  | .leastSquares l => l.samples

end DwellModel

end Headway
