import Headway.Observation.Key
import Headway.Scalar
import Headway.Table

/-!
# Filter errors

The latest error of the Kalman filter for each stop path, and how often it changed.
-/

namespace Headway

/-- An error and the number of its changes. -/
structure FilterError (R : Type) where
  error : R
  updates : Nat

/-- Filter errors by stop path. -/
abbrev FilterErrors (R : Type) := Table PathKey (FilterError R)

namespace FilterErrors

variable {R : Type} [Scalar R]

/-- The entry after an error was found: a change counts when the numbers differ. -/
def updated (error : R) : Option (FilterError R) → FilterError R
  | some old => if Scalar.eq old.error error then old else ⟨error, old.updates + 1⟩
  | none => ⟨error, 0⟩

/-- Writes the error of a stop path. -/
def write (errors : FilterErrors R) (k : PathKey) (error : R) : FilterErrors R :=
  Table.alter errors k (updated error)

end FilterErrors

end Headway
