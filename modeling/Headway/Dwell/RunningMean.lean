import Headway.Scalar

/-!
# The mean of the last dwell times

A model keeps the last few dwell times. It predicts their mean, computed again without those that
are far from it: below the mean times a fraction, or above the mean divided by it. When that leaves
none, the plain mean stands.
-/

namespace Headway

/-- The last dwell times, oldest first, in milliseconds. -/
structure RunningMean (R : Type) where
  samples : List Int
  capacity : Nat
  fractionLimit : R

namespace RunningMean

variable {R : Type}

/-- No samples. There is room for at least one. -/
def new (capacity : Nat) (fractionLimit : R) : RunningMean R :=
  ⟨[], max capacity 1, fractionLimit⟩

/-- Takes in a sample, at the cost of the oldest when there is no room. -/
def add (m : RunningMean R) (ms : Int) : RunningMean R :=
  let kept := if m.samples.length = m.capacity then m.samples.tail else m.samples
  { m with samples := kept ++ [ms] }

variable [Scalar R]

/-- The sum of the samples, which is taken in whole milliseconds. -/
def total (m : RunningMean R) : Int := m.samples.foldl (· + ·) 0

/-- The plain mean. -/
def plainMean (m : RunningMean R) : R := Scalar.ofInt m.total / Scalar.count m.samples

/-- The samples that are not far from the plain mean. -/
def kept (m : RunningMean R) : List R :=
  let mean := m.plainMean
  let low := mean * m.fractionLimit
  let high := mean / m.fractionLimit
  (m.samples.map Scalar.ofInt).filter fun s => Scalar.le low s && Scalar.le s high

/-- The predicted dwell time in milliseconds; nothing without samples. -/
def predict? (m : RunningMean R) : Option Int :=
  if m.samples.isEmpty then none
  else if m.kept.isEmpty then some (Scalar.round m.plainMean)
  else some (Scalar.round (Scalar.mean m.kept))

end RunningMean

end Headway
