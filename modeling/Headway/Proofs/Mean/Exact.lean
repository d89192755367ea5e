import Headway.Mean.Basic
import Headway.Proofs.Exact

/-!
# Running means in exact arithmetic

Kept as a count and a mean, the mean of the samples seen so far is their sum over their number
(`Mean.value_ofSamples`), whatever their order (`Mean.ofSamples_perm`).
-/

namespace Headway

namespace Mean

theorem value_add (m : Mean ℝ) (x : ℝ) :
    (m.add x).value = (m.count * m.value + x) / (m.count + 1) := by
  simp [add]

theorem count_mul_value_add (m : Mean ℝ) (x : ℝ) :
    (m.add x).count * (m.add x).value = m.count * m.value + x := by
  have hpos : (m.count : ℝ) + 1 ≠ 0 := by positivity
  have hcount : ((m.add x).count : ℝ) = m.count + 1 := by simp [add]
  rw [hcount, value_add]
  field_simp

theorem count_mul_value_foldl (xs : List ℝ) (m : Mean ℝ) :
    (xs.foldl add m).count * (xs.foldl add m).value = m.count * m.value + xs.sum := by
  induction xs generalizing m with
  | nil => simp
  | cons x rest ih => rw [List.foldl_cons, ih, count_mul_value_add, List.sum_cons, add_assoc]

/-- The mean of samples is their sum over their number. -/
theorem value_ofSamples (xs : List ℝ) : (ofSamples xs).value = xs.sum / xs.length := by
  cases xs with
  | nil => simp [ofSamples, none]
  | cons x rest =>
    have htotal := count_mul_value_foldl (x :: rest) (none : Mean ℝ)
    rw [← ofSamples, count_ofSamples] at htotal
    have hlength : ((x :: rest).length : ℝ) ≠ 0 := by
      rw [List.length_cons, Nat.cast_succ]
      positivity
    rw [eq_div_iff hlength, mul_comm, htotal]
    simp [none]

theorem ofSamples_perm {xs ys : List ℝ} (h : xs.Perm ys) : ofSamples xs = ofSamples ys := by
  have hcount : (ofSamples xs).count = (ofSamples ys).count := by
    rw [count_ofSamples, count_ofSamples, h.length_eq]
  have hvalue : (ofSamples xs).value = (ofSamples ys).value := by
    rw [value_ofSamples, value_ofSamples, h.sum_eq, h.length_eq]
  cases hx : ofSamples xs
  cases hy : ofSamples ys
  rw [hx, hy] at hcount hvalue
  rw [Mean.mk.injEq]
  exact ⟨hcount, hvalue⟩

end Mean

end Headway
