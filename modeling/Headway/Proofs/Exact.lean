import Headway.Scalar
import Mathlib

/-!
# Exact arithmetic

The rules of this library over the real numbers: nothing is rounded until a number is turned into
whole milliseconds, and every number is finite. Conversions still stay within 64 bits.

A number between two integers that 64 bits hold is turned into an integer between them, whether it
is cut off (`truncate_mem_Icc`) or rounded (`round_mem_Icc`).
-/

namespace Headway

/-- Arithmetic without rounding. -/
noncomputable instance : Scalar ℝ where
  ofInt n := n
  le a b := decide (a ≤ b)
  lt a b := decide (a < b)
  eq a b := decide (a = b)
  isFinite _ := true
  truncate x := saturate (if 0 ≤ x then ⌊x⌋ else ⌈x⌉)
  round x := saturate (if 0 ≤ x then ⌊x + 1 / 2⌋ else ⌈x - 1 / 2⌉)
  log10 := Real.logb 10
  pow := Real.rpow

namespace Scalar

@[simp] theorem ofInt_real (n : Int) : (ofInt n : ℝ) = n := rfl

@[simp] theorem zero_real : (zero : ℝ) = 0 := Int.cast_zero

@[simp] theorem one_real : (one : ℝ) = 1 := Int.cast_one

@[simp] theorem eq_real (a b : ℝ) : (eq a b = true) ↔ a = b := decide_eq_true_iff

@[simp] theorem square_real (x : ℝ) : square x = x * x := rfl

@[simp] theorem count_real {α : Type} (xs : List α) : (count xs : ℝ) = xs.length :=
  Int.cast_natCast _

@[simp] theorem sum_real (xs : List ℝ) : sum xs = xs.sum := by
  rw [sum, zero_real, List.sum_eq_foldl]

@[simp] theorem mean_real (xs : List ℝ) : mean xs = xs.sum / xs.length := by
  rw [mean, sum_real, count_real]

theorem mean_perm {xs ys : List ℝ} (h : xs.Perm ys) : mean xs = mean ys := by
  rw [mean_real, mean_real, h.sum_eq, h.length_eq]

/-- The mean of numbers lies between any two bounds that hold for all of them. -/
theorem mean_mem_Icc {lo hi : ℝ} {xs : List ℝ} (hne : xs ≠ []) (h : ∀ x ∈ xs, x ∈ Set.Icc lo hi) :
    mean xs ∈ Set.Icc lo hi := by
  have hpos : (0 : ℝ) < xs.length := Nat.cast_pos.mpr (List.length_pos_iff.mpr hne)
  have hlo : xs.length • lo ≤ xs.sum := List.card_nsmul_le_sum xs lo fun x hx => (h x hx).1
  have hhi : xs.sum ≤ xs.length • hi := List.sum_le_card_nsmul xs hi fun x hx => (h x hx).2
  rw [nsmul_eq_mul] at hlo hhi
  rw [mean_real]
  constructor
  · rw [le_div_iff₀ hpos, mul_comm]
    exact hlo
  · rw [div_le_iff₀ hpos, mul_comm]
    exact hhi

theorem truncate_mono {x y : ℝ} (h : x ≤ y) : truncate x ≤ truncate y := by
  have hcut : (if 0 ≤ x then ⌊x⌋ else ⌈x⌉) ≤ if 0 ≤ y then ⌊y⌋ else ⌈y⌉ := by
    split
    · rename_i hx
      rw [if_pos (hx.trans h)]
      exact Int.floor_mono h
    · rename_i hx
      have hceil : ⌈x⌉ ≤ 0 := Int.ceil_le.mpr (by exact_mod_cast (not_le.mp hx).le)
      split
      · rename_i hy
        exact hceil.trans (Int.floor_nonneg.mpr hy)
      · exact Int.ceil_mono h
  show saturate (if 0 ≤ x then ⌊x⌋ else ⌈x⌉) ≤ saturate (if 0 ≤ y then ⌊y⌋ else ⌈y⌉)
  exact saturate_mono hcut

/-- A number that is not negative is cut down to the whole number below it. -/
theorem truncate_eq_of_nonneg {n : Int} {x : ℝ} (hn : 0 ≤ n) (hhi : n ≤ greatestMillis)
    (hle : n ≤ x) (hlt : x < n + 1) : truncate x = n := by
  have hx : 0 ≤ x := (Int.cast_nonneg hn).trans hle
  show saturate (if 0 ≤ x then ⌊x⌋ else ⌈x⌉) = n
  rw [if_pos hx, Int.floor_eq_iff.mpr ⟨hle, hlt⟩]
  exact saturate_of_mem (by simp only [leastMillis]; omega) hhi

theorem truncate_mem_Icc {lo hi : Int} {x : ℝ} (hlo : leastMillis ≤ lo) (hhi : hi ≤ greatestMillis)
    (hx : x ∈ Set.Icc (lo : ℝ) hi) : truncate x ∈ Set.Icc lo hi := by
  have hcut : (if 0 ≤ x then ⌊x⌋ else ⌈x⌉) ∈ Set.Icc lo hi := by
    split
    · exact ⟨Int.le_floor.mpr hx.1, Int.cast_le.mp ((Int.floor_le x).trans hx.2)⟩
    · exact ⟨Int.cast_le.mp (hx.1.trans (Int.le_ceil x)), Int.ceil_le.mpr hx.2⟩
  show saturate (if 0 ≤ x then ⌊x⌋ else ⌈x⌉) ∈ Set.Icc lo hi
  rwa [saturate_of_mem (hlo.trans hcut.1) (hcut.2.trans hhi)]

theorem round_mem_Icc {lo hi : Int} {x : ℝ} (hlo : leastMillis ≤ lo) (hhi : hi ≤ greatestMillis)
    (hx : x ∈ Set.Icc (lo : ℝ) hi) : round x ∈ Set.Icc lo hi := by
  have hnear : (if 0 ≤ x then ⌊x + 1 / 2⌋ else ⌈x - 1 / 2⌉) ∈ Set.Icc lo hi := by
    split
    · refine ⟨Int.le_floor.mpr (by linarith [hx.1]), ?_⟩
      have hlt : ⌊x + 1 / 2⌋ < hi + 1 := by
        rw [Int.floor_lt]
        push_cast
        linarith [hx.2]
      omega
    · refine ⟨?_, Int.ceil_le.mpr (by linarith [hx.2])⟩
      have hlt : lo - 1 < ⌈x - 1 / 2⌉ := by
        rw [Int.lt_ceil]
        push_cast
        linarith [hx.1]
      omega
  show saturate (if 0 ≤ x then ⌊x + 1 / 2⌋ else ⌈x - 1 / 2⌉) ∈ Set.Icc lo hi
  rwa [saturate_of_mem (hlo.trans hnear.1) (hnear.2.trans hhi)]

end Scalar

end Headway
