import Headway.Bias
import Headway.Proofs.Exact

/-!
# The order of corrected predictions

In exact arithmetic a correction multiplies a prediction by a factor, which depends on the
prediction itself, and cuts the product to whole milliseconds (`Bias.adjust_real`). Whether two
predictions keep their order is therefore a matter of the two products: the later one may lose no
more by the change of the percentage than it is ahead (`Bias.adjust_le_adjust`).

Corrections that lengthen, and not less the further ahead, keep every order
(`Bias.Lengthens.leavesRoom`). One that shortens need not: its percentage changes by leaps, and past
one hundred percent it turns predictions into the past.
-/

namespace Headway

namespace Bias

/-- The percentage by which predictions are lengthened; a negative one shortens them. -/
noncomputable def stretch (b : Bias ℝ) (ms : Int) : ℝ :=
  match b with
  | .none => 0
  | .exponential c => c.direction * b.percentage ms
  | .linear c => c.direction * b.percentage ms

/-- What the fall of the percentage takes from the earlier of two predictions is no more than what
the correction leaves of the time between them. -/
def LeavesRoom (b : Bias ℝ) (earlier later : Int) : Prop :=
  earlier * (b.stretch earlier - b.stretch later) ≤
    (later - earlier) * ((100 : Int) + b.stretch later)

/-- Predictions are lengthened, by a percentage that does not fall as they grow. -/
def Lengthens : Bias ℝ → Prop
  | .none => True
  | .exponential c =>
    1 ≤ c.base ∧ 0 ≤ c.direction * c.multiple ∧ 0 ≤ c.direction * (c.multiple - c.constant)
  | .linear c => 0 ≤ c.direction * c.rate

variable {b : Bias ℝ} {earlier later : Int}

theorem shift_real (direction ms : Int) (percentage : ℝ) :
    shift direction ms percentage =
      Scalar.truncate ((ms : ℝ) * (1 + direction * percentage / 100)) := by
  unfold shift
  simp only [Scalar.ofInt_real]
  congr 1
  push_cast
  ring

theorem adjust_real (h : b ≠ .none) (ms : Int) :
    b.adjust ms = Scalar.truncate ((ms : ℝ) * (1 + b.stretch ms / 100)) := by
  cases b with
  | none => exact absurd rfl h
  | exponential c => exact shift_real c.direction ms _
  | linear c => exact shift_real c.direction ms _

theorem adjust_zero (b : Bias ℝ) : b.adjust 0 = 0 := by
  by_cases hb : b = .none
  · subst hb
    rfl
  · rw [adjust_real hb, Int.cast_zero, zero_mul]
    exact Scalar.truncate_eq_of_nonneg (by omega) (by decide) (by simp) (by simp)

/-- Predictions between which a correction leaves room keep their order. -/
theorem adjust_le_adjust (h : earlier ≤ later) (hroom : b.LeavesRoom earlier later) :
    b.adjust earlier ≤ b.adjust later := by
  by_cases hb : b = .none
  · subst hb
    exact h
  · rw [adjust_real hb, adjust_real hb]
    apply Scalar.truncate_mono
    unfold LeavesRoom at hroom
    push_cast at hroom
    linarith

/-! ## Corrections that lengthen -/

theorem stretch_exponential (c : ExponentialBias ℝ) (ms : Int) :
    (exponential c).stretch ms =
      c.direction * (c.base ^ (((ms.tdiv 1000).tdiv 60 : Int) : ℝ) * c.multiple - c.constant) :=
  rfl

theorem stretch_linear (c : LinearBias ℝ) (ms : Int) :
    (linear c).stretch ms = c.direction * ((ms.tdiv 100 : Int) * c.rate) := rfl

theorem Lengthens.stretch_mono (hb : b.Lengthens) (h : earlier ≤ later) :
    b.stretch earlier ≤ b.stretch later := by
  cases b with
  | none => exact le_refl _
  | exponential c =>
    obtain ⟨hbase, hmultiple, -⟩ := hb
    have hminutes : (earlier.tdiv 1000).tdiv 60 ≤ (later.tdiv 1000).tdiv 60 :=
      Int.tdiv_le_tdiv (by omega) (Int.tdiv_le_tdiv (by omega) h)
    have hpower := Real.rpow_le_rpow_of_exponent_le hbase (Int.cast_le (R := ℝ).mpr hminutes)
    have hscaled := mul_le_mul_of_nonneg_left hpower hmultiple
    rw [stretch_exponential, stretch_exponential]
    linarith
  | linear c =>
    have htenths : earlier.tdiv 100 ≤ later.tdiv 100 := Int.tdiv_le_tdiv (by omega) h
    have hscaled := mul_le_mul_of_nonneg_right (Int.cast_le (R := ℝ).mpr htenths) hb
    rw [stretch_linear, stretch_linear]
    linarith

theorem Lengthens.stretch_zero_nonneg (hb : b.Lengthens) : 0 ≤ b.stretch 0 := by
  cases b with
  | none => exact le_refl _
  | exponential c =>
    rw [stretch_exponential]
    simpa using hb.2.2
  | linear c =>
    rw [stretch_linear]
    simp

/-- A correction that lengthens leaves room between any two predictions. -/
theorem Lengthens.leavesRoom (hb : b.Lengthens) (hnonneg : 0 ≤ earlier) (h : earlier ≤ later) :
    b.LeavesRoom earlier later := by
  have hzero : 0 ≤ b.stretch later :=
    hb.stretch_zero_nonneg.trans (hb.stretch_mono (hnonneg.trans h))
  have hearlier : (0 : ℝ) ≤ earlier := Int.cast_nonneg hnonneg
  have hahead : (0 : ℝ) ≤ later - earlier := sub_nonneg.mpr (Int.cast_le.mpr h)
  have hfall : b.stretch earlier - b.stretch later ≤ 0 := sub_nonpos.mpr (hb.stretch_mono h)
  calc (earlier : ℝ) * (b.stretch earlier - b.stretch later)
      ≤ 0 := mul_nonpos_of_nonneg_of_nonpos hearlier hfall
    _ ≤ (later - earlier) * ((100 : Int) + b.stretch later) := by
      apply mul_nonneg hahead
      push_cast
      linarith

end Bias

end Headway
