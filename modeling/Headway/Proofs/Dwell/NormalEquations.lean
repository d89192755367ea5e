import Mathlib

/-!
# Normal equations

Weights are fitted to samples, of which each makes all earlier ones count less by a factor. The
weights with the least squared error solve a linear system: on its left the samples' regressors add
up to `information`, on its right their dwell times to `moments`. Wherever the left side is positive
definite, what solves the system has the least error of all (`LeastSquares.squaredError_lt`).

One more sample adds a matrix of rank one to the left side and a multiple of its regressor to the
right. The inverse of the left side then changes by a matrix of rank one as well
(`LeastSquares.inv_update`), and the solution moves along the gain (`LeastSquares.mulVec_update`),
so neither has to be computed again.
-/

namespace Headway

open Matrix

namespace LeastSquares

/-! ## Discounted sums -/

section Discounted

variable {M : Type} [AddCommGroup M] [Module ℝ M] (c : ℝ) (first : M)

/-- A first term and later ones, where each later term discounts all before it by a factor. -/
def discounted (terms : List M) : M :=
  c ^ terms.length • first + ∑ j : Fin terms.length, c ^ (terms.length - 1 - j) • terms[j]

theorem discounted_nil : discounted c first [] = first := by
  simp [discounted]

theorem discounted_cons (t : M) (terms : List M) :
    discounted c first (t :: terms) = discounted c (c • first + t) terms := by
  have hlater (j : Fin terms.length) :
      (t :: terms).length - 1 - j.succ.val = terms.length - 1 - j := by
    simp only [List.length_cons, Fin.val_succ]
    omega
  have hsum : ∑ j : Fin (t :: terms).length,
        c ^ ((t :: terms).length - 1 - j) • (t :: terms)[j] =
      c ^ terms.length • t + ∑ j : Fin terms.length, c ^ (terms.length - 1 - j) • terms[j] := by
    refine (Fin.sum_univ_succ _).trans ?_
    simp only [hlater]
    rfl
  rw [discounted, hsum, discounted, List.length_cons, pow_succ, mul_smul, smul_add]
  abel

theorem discounted_eq_foldl (terms : List M) :
    discounted c first terms = terms.foldl (fun sum t => c • sum + t) first := by
  induction terms generalizing first with
  | nil => exact discounted_nil c first
  | cons t rest ih => rw [discounted_cons, ih, List.foldl_cons]

theorem discounted_concat (terms : List M) (t : M) :
    discounted c first (terms ++ [t]) = c • discounted c first terms + t := by
  rw [discounted_eq_foldl, discounted_eq_foldl, List.foldl_concat]

end Discounted

/-! ## Updates of rank one -/

section RankOne

variable {n : Type} [Fintype n] {P : Matrix n n ℝ} {c : ℝ}

/-- The number by which the gain of a covariance for a regressor is divided. -/
def spread (c : ℝ) (P : Matrix n n ℝ) (x : n → ℝ) : ℝ := c + x ⬝ᵥ P *ᵥ x

/-- The gain of a covariance for a regressor. -/
noncomputable def gainFor (c : ℝ) (P : Matrix n n ℝ) (x : n → ℝ) : n → ℝ :=
  (spread c P x)⁻¹ • P *ᵥ x

theorem le_spread (hP : P.PosDef) (c : ℝ) (x : n → ℝ) : c ≤ spread c P x := by
  have hnonneg : 0 ≤ x ⬝ᵥ P *ᵥ x := by simpa using hP.posSemidef.dotProduct_mulVec_nonneg x
  rw [spread]
  linarith

theorem spread_smul_gainFor (hP : P.PosDef) (hc : 0 < c) (x : n → ℝ) :
    spread c P x • gainFor c P x = P *ᵥ x :=
  smul_inv_smul₀ (hc.trans_le (le_spread hP c x)).ne' _

theorem vecMul_of_posDef (hP : P.PosDef) (x : n → ℝ) : x ᵥ* P = P *ᵥ x := by
  have hsymm : Pᵀ = P := by simpa using hP.isHermitian.eq
  rw [← Matrix.mulVec_transpose, hsymm]

variable [DecidableEq n]

theorem inv_mulVec_mulVec (hP : P.PosDef) (x : n → ℝ) : P⁻¹ *ᵥ P *ᵥ x = x := by
  rw [mulVec_mulVec, nonsing_inv_mul P ((isUnit_iff_isUnit_det P).mp hP.isUnit), one_mulVec]

theorem posDef_update (hP : P.PosDef) (hc : 0 < c) (x : n → ℝ) :
    (c • P⁻¹ + vecMulVec x x).PosDef :=
  (hP.inv.smul hc).add_posSemidef (by simpa using posSemidef_vecMulVec_self_star x)

/-- What a sample takes away from the covariance is what it adds to the inverse. -/
theorem inv_update (hP : P.PosDef) (hc : 0 < c) (x : n → ℝ) :
    (c⁻¹ • (P - vecMulVec (gainFor c P x) (P *ᵥ x)))⁻¹ = c • P⁻¹ + vecMulVec x x := by
  set g := gainFor c P x with hg
  have hdet : IsUnit P.det := (isUnit_iff_isUnit_det P).mp hP.isUnit
  have hinverse : (P - vecMulVec g (P *ᵥ x)) * P⁻¹ = 1 - vecMulVec g x := by
    rw [sub_mul, mul_nonsing_inv P hdet, vecMulVec_mul, ← vecMul_of_posDef hP, vecMul_vecMul,
      mul_nonsing_inv P hdet, vecMul_one]
  have hregressor : (P - vecMulVec g (P *ᵥ x)) *ᵥ x = c • g := by
    calc (P - vecMulVec g (P *ᵥ x)) *ᵥ x
        = P *ᵥ x - (x ⬝ᵥ P *ᵥ x) • g := by
          rw [sub_mulVec, vecMulVec_mulVec, op_smul_eq_smul, dotProduct_comm]
      _ = spread c P x • g - (x ⬝ᵥ P *ᵥ x) • g := by rw [hg, spread_smul_gainFor hP hc]
      _ = c • g := by rw [← sub_smul, spread, add_sub_cancel_right]
  -- what the old inverse misses the identity by is what the sample's part makes up for
  apply Matrix.inv_eq_right_inv
  calc c⁻¹ • (P - vecMulVec g (P *ᵥ x)) * (c • P⁻¹ + vecMulVec x x)
      = c⁻¹ • (c • (1 - vecMulVec g x) + vecMulVec (c • g) x) := by
        rw [smul_mul_assoc, mul_add, mul_smul_comm, hinverse, mul_vecMulVec, hregressor]
    _ = 1 := by
        rw [smul_vecMulVec, ← smul_add, sub_add_cancel, inv_smul_smul₀ hc.ne']

theorem mulVec_gainFor (hP : P.PosDef) (hc : 0 < c) (x : n → ℝ) :
    (c • P⁻¹ + vecMulVec x x) *ᵥ gainFor c P x = x := by
  rw [gainFor, mulVec_smul, add_mulVec, smul_mulVec, inv_mulVec_mulVec hP, vecMulVec_mulVec,
    op_smul_eq_smul, ← add_smul, ← spread]
  exact inv_smul_smul₀ (hc.trans_le (le_spread hP c x)).ne' _

/-- The weights after a sample solve the system in which the sample is added to both sides. -/
theorem mulVec_update (hP : P.PosDef) (hc : 0 < c) (x w : n → ℝ) (y : ℝ) :
    (c • P⁻¹ + vecMulVec x x) *ᵥ (w + (y - w ⬝ᵥ x) • gainFor c P x) =
      c • P⁻¹ *ᵥ w + y • x := by
  have hw : (c • P⁻¹ + vecMulVec x x) *ᵥ w = c • P⁻¹ *ᵥ w + (w ⬝ᵥ x) • x := by
    rw [add_mulVec, smul_mulVec, vecMulVec_mulVec, op_smul_eq_smul, dotProduct_comm]
  rw [mulVec_add, mulVec_smul, mulVec_gainFor hP hc, hw, add_assoc, ← add_smul, add_sub_cancel]

end RankOne

/-! ## Discounted squared errors -/

/-- A headway in milliseconds with the logarithm of the dwell time after it. -/
structure LogSample where
  headway : Int
  logDwell : ℝ

/-- One, and the headway in seconds. -/
noncomputable def LogSample.regressor (s : LogSample) : Fin 2 → ℝ := ![1, s.headway / 1000]

section SquaredErrors

variable (c : ℝ) (A₀ : Matrix (Fin 2) (Fin 2) ℝ) (w₀ : Fin 2 → ℝ) (log : List LogSample)

/-- What samples say about weights, after an inverse covariance to start with. -/
noncomputable def information : Matrix (Fin 2) (Fin 2) ℝ :=
  discounted c A₀ (log.map fun s => vecMulVec s.regressor s.regressor)

/-- What samples say about weights and dwell times, after weights to start with. -/
noncomputable def moments : Fin 2 → ℝ :=
  discounted c (A₀ *ᵥ w₀) (log.map fun s => s.logDwell • s.regressor)

/-- The discounted squared error of weights over samples, with their distance from the weights to
start with. -/
noncomputable def squaredError (v : Fin 2 → ℝ) : ℝ :=
  discounted c ((v - w₀) ⬝ᵥ A₀ *ᵥ (v - w₀)) (log.map fun s => (s.logDwell - s.regressor ⬝ᵥ v) ^ 2)

theorem information_concat (s : LogSample) :
    information c A₀ (log ++ [s]) =
      c • information c A₀ log + vecMulVec s.regressor s.regressor := by
  rw [information, List.map_append, List.map_singleton, discounted_concat, ← information]

theorem moments_concat (s : LogSample) :
    moments c A₀ w₀ (log ++ [s]) = c • moments c A₀ w₀ log + s.logDwell • s.regressor := by
  rw [moments, List.map_append, List.map_singleton, discounted_concat, ← moments]

theorem squaredError_concat (s : LogSample) (v : Fin 2 → ℝ) :
    squaredError c A₀ w₀ (log ++ [s]) v =
      c * squaredError c A₀ w₀ log v + (s.logDwell - s.regressor ⬝ᵥ v) ^ 2 := by
  rw [squaredError, List.map_append, List.map_singleton, discounted_concat, ← squaredError,
    smul_eq_mul]

variable {A₀}

/-- The squared error is a quadratic function of the weights. -/
theorem exists_squaredError_eq (hA₀ : A₀ᵀ = A₀) :
    ∃ k, ∀ v, squaredError c A₀ w₀ log v =
      v ⬝ᵥ information c A₀ log *ᵥ v - 2 * (v ⬝ᵥ moments c A₀ w₀ log) + k := by
  induction log using List.reverseRecOn with
  | nil =>
    refine ⟨w₀ ⬝ᵥ A₀ *ᵥ w₀, fun v => ?_⟩
    have hcross : w₀ ⬝ᵥ A₀ *ᵥ v = v ⬝ᵥ A₀ *ᵥ w₀ := by
      rw [dotProduct_mulVec, ← mulVec_transpose, hA₀, dotProduct_comm]
    simp only [squaredError, information, moments, List.map_nil, discounted_nil, mulVec_sub,
      sub_dotProduct, dotProduct_sub, hcross]
    ring
  | append_singleton log s ih =>
    obtain ⟨k, hk⟩ := ih
    refine ⟨c * k + s.logDwell ^ 2, fun v => ?_⟩
    rw [squaredError_concat, hk v, information_concat, moments_concat, add_mulVec, smul_mulVec,
      vecMulVec_mulVec, op_smul_eq_smul, dotProduct_add, dotProduct_add, dotProduct_smul,
      dotProduct_smul, dotProduct_smul, dotProduct_smul, dotProduct_comm s.regressor v]
    simp only [smul_eq_mul]
    ring

/-- Weights that solve the normal equations have the least squared error of all. -/
theorem squaredError_lt (hA₀ : A₀ᵀ = A₀) (hA : (information c A₀ log).PosDef) {w v : Fin 2 → ℝ}
    (hw : information c A₀ log *ᵥ w = moments c A₀ w₀ log) (hv : v ≠ w) :
    squaredError c A₀ w₀ log w < squaredError c A₀ w₀ log v := by
  obtain ⟨k, hk⟩ := exists_squaredError_eq c w₀ log hA₀
  have hpos : 0 < (v - w) ⬝ᵥ information c A₀ log *ᵥ (v - w) := by
    simpa using hA.dotProduct_mulVec_pos (sub_ne_zero.mpr hv)
  have hcross : w ⬝ᵥ information c A₀ log *ᵥ v = v ⬝ᵥ moments c A₀ w₀ log := by
    rw [dotProduct_mulVec, vecMul_of_posDef hA, hw, dotProduct_comm]
  rw [hk, hk, hw]
  rw [mulVec_sub, hw, sub_dotProduct, dotProduct_sub, dotProduct_sub, hcross] at hpos
  linarith

end SquaredErrors

end LeastSquares

end Headway
