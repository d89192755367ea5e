import Headway.Scalar
import Headway.Settings.Basic

/-!
# Bias correction

Predictions far ahead tend to be off in one direction. A correction moves a prediction by a
percentage of itself that grows with the time ahead.
-/

namespace Headway

/-- A correction that is in force. -/
inductive Bias (R : Type) where
  | none
  | exponential (b : ExponentialBias R)
  | linear (b : LinearBias R)

namespace Bias

variable {R : Type} [Scalar R]

/-- The correction that the settings choose. -/
def ofSettings (s : BiasSettings R) : Bias R :=
  match s.adjuster with
  | .none => .none
  | .exponential => .exponential s.exponential
  | .linear => .linear s.linear

/-- The kind of a correction. -/
def kind : Bias R → BiasKind
  | .none => .none
  | .exponential _ => .exponential
  | .linear _ => .linear

/-- The percentage by which a prediction in milliseconds is moved. The exponential correction counts
whole minutes ahead, and the linear one whole tenths of a second. -/
def percentage (b : Bias R) (ms : Int) : R :=
  match b with
  | .none => Scalar.zero
  | .exponential c =>
    Scalar.pow c.base (Scalar.ofInt ((ms.tdiv 1000).tdiv 60)) * c.multiple - c.constant
  | .linear c => Scalar.ofInt (ms.tdiv 100) * c.rate

/-- Moves a prediction by a percentage of itself in a direction. -/
def shift (direction ms : Int) (percentage : R) : Int :=
  Scalar.truncate (Scalar.ofInt ms +
    Scalar.ofInt direction * (percentage / Scalar.ofInt 100) * Scalar.ofInt ms)

/-- The corrected prediction, in milliseconds. -/
def adjust (b : Bias R) (ms : Int) : Int :=
  match b with
  | .none => ms
  | .exponential c => shift c.direction ms (b.percentage ms)
  | .linear c => shift c.direction ms (b.percentage ms)

end Bias

end Headway
