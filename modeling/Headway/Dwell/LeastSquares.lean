import Headway.Scalar

/-!
# Dwell times by recursive least squares

The logarithm of a dwell time is modelled as a linear function of the headway. Each sample updates
the two weights, where earlier samples count less by a constant factor. When the weights are no
longer finite the model starts afresh; when only the covariance has grown too large, or is no longer
finite, it alone starts afresh.
-/

namespace Headway

/-- A vector of two numbers. -/
structure Pair (R : Type) where
  fst : R
  snd : R

/-- A matrix of two rows. -/
structure Square (R : Type) where
  a₁₁ : R
  a₁₂ : R
  a₂₁ : R
  a₂₂ : R

section
variable {R : Type} [Scalar R]

/-- The sum of products. -/
def Pair.dot (u v : Pair R) : R := u.fst * v.fst + u.snd * v.snd

/-- A matrix times a column. -/
def Square.mulVec (p : Square R) (v : Pair R) : Pair R :=
  ⟨p.a₁₁ * v.fst + p.a₁₂ * v.snd, p.a₂₁ * v.fst + p.a₂₂ * v.snd⟩

/-- The sum of the diagonal. -/
def Square.trace (p : Square R) : R := p.a₁₁ + p.a₂₂

end

/-- Weights, their covariance and the number of samples since the last fresh start. -/
structure LeastSquares (R : Type) where
  forgetting : R
  weights : Pair R
  covariance : Square R
  samples : Nat

namespace LeastSquares

variable {R : Type} [Scalar R]

/-- The covariance to start with: one million times the identity. -/
def initialCovariance : Square R :=
  ⟨Scalar.ofInt 1000000, Scalar.zero, Scalar.zero, Scalar.ofInt 1000000⟩

/-- The largest trace that a covariance may have. -/
def maxTrace : R := Scalar.ofInt 1000000000000

/-- No samples. -/
def new (forgetting : R) : LeastSquares R :=
  ⟨forgetting, ⟨Scalar.zero, Scalar.zero⟩, initialCovariance, 0⟩

/-- The regressor of a headway in milliseconds: one, and the headway in seconds. -/
def regressor (headwayMs : Int) : Pair R :=
  ⟨Scalar.one, Scalar.ofInt headwayMs / Scalar.ofInt 1000⟩

/-- The weight of the prediction error in the update of the weights. -/
def gain (m : LeastSquares R) (x : Pair R) : Pair R :=
  let px := m.covariance.mulVec x
  let denominator := m.forgetting + x.fst * px.fst + x.snd * px.snd
  ⟨px.fst / denominator, px.snd / denominator⟩

/-- The weights after a sample. -/
def nextWeights (m : LeastSquares R) (x : Pair R) (y : R) : Pair R :=
  let g := m.gain x
  let error := y - m.weights.dot x
  ⟨m.weights.fst + g.fst * error, m.weights.snd + g.snd * error⟩

/-- The covariance after a sample: what the sample explains is taken away, and the rest grows as
earlier samples are forgotten. -/
def nextCovariance (m : LeastSquares R) (x : Pair R) : Square R :=
  let px := m.covariance.mulVec x
  let g := m.gain x
  let p := m.covariance
  ⟨(p.a₁₁ - g.fst * px.fst) / m.forgetting, (p.a₁₂ - g.fst * px.snd) / m.forgetting,
    (p.a₂₁ - g.snd * px.fst) / m.forgetting, (p.a₂₂ - g.snd * px.snd) / m.forgetting⟩

/-- A covariance that can be worked with. -/
def tame (p : Square R) : Bool := Scalar.isFinite p.trace && Scalar.le p.trace maxTrace

/-- Takes in the logarithm of a dwell time with its regressor. -/
def absorb (m : LeastSquares R) (x : Pair R) (y : R) : LeastSquares R :=
  let weights := m.nextWeights x y
  let covariance := m.nextCovariance x
  if Scalar.isFinite weights.fst && Scalar.isFinite weights.snd then
    { m with
      weights
      covariance := if tame covariance then covariance else initialCovariance
      samples := m.samples + 1 }
  else
    new m.forgetting

/-- Takes in a dwell time and the headway before it, in milliseconds. A dwell time that is not
positive has no logarithm and changes nothing. -/
def add (m : LeastSquares R) (dwellMs headwayMs : Int) : LeastSquares R :=
  if dwellMs ≤ 0 then m else m.absorb (regressor headwayMs) (Scalar.log10 (Scalar.ofInt dwellMs))

/-- The predicted dwell time in milliseconds; nothing without samples, or when it is not finite. -/
def predict? (m : LeastSquares R) (headwayMs : Int) : Option Int :=
  if m.samples = 0 then none
  else
    let dwell := Scalar.pow (Scalar.ofInt 10) (m.weights.dot (regressor headwayMs))
    if Scalar.isFinite dwell then some (Scalar.round dwell) else none

end LeastSquares

end Headway
