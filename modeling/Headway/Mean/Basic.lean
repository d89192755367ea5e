import Headway.Scalar

/-!
# Running means

The mean of the samples seen so far, kept as their number and their mean.
-/

namespace Headway

/-- A number of samples and their mean. -/
structure Mean (R : Type) where
  count : Nat
  value : R

namespace Mean

variable {R : Type} [Scalar R]

/-- No samples. -/
def none : Mean R := ⟨0, Scalar.zero⟩

/-- Takes in a sample. -/
def add (m : Mean R) (sample : R) : Mean R where
  count := m.count + 1
  value := (Scalar.ofInt m.count * m.value + sample) / (Scalar.ofInt m.count + Scalar.one)

/-- The mean of samples taken in one by one. -/
def ofSamples (samples : List R) : Mean R := samples.foldl add none

theorem ofSamples_append (xs ys : List R) : ofSamples (xs ++ ys) = ys.foldl add (ofSamples xs) :=
  List.foldl_append

theorem count_foldl_add (samples : List R) (m : Mean R) :
    (samples.foldl add m).count = m.count + samples.length := by
  induction samples generalizing m with
  | nil => rfl
  | cons x rest ih =>
    rw [List.foldl_cons, ih, List.length_cons]
    simp only [add]
    omega

theorem count_ofSamples (samples : List R) : (ofSamples samples).count = samples.length := by
  rw [ofSamples, count_foldl_add, none, Nat.zero_add]

end Mean

end Headway
