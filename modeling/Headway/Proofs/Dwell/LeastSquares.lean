import Headway.Dwell.LeastSquares
import Headway.Proofs.Dwell.NormalEquations
import Headway.Proofs.Exact

/-!
# What the least squares weights minimise

In exact arithmetic a model is the solution of normal equations. Its covariance is symmetric and
positive definite after all samples (`LeastSquares.posDef_after`), and the inverse of the covariance
is the left side of the equations (`LeastSquares.inv_covariance_after`), which the weights solve
(`LeastSquares.inv_mulVec_weights_after`). So they have the least discounted squared error:
`LeastSquares.weights_of_least_error`.

The covariance starts afresh when its trace has grown too large, and then the weights stay. From
there on the equations are those of the samples since, with these weights as the ones to start with.
All numbers being finite, the weights themselves never start afresh.
-/

namespace Headway

open Matrix

/-! ## The model in matrices -/

/-- A pair as a column. -/
def Pair.toVec (v : Pair ℝ) : Fin 2 → ℝ := ![v.fst, v.snd]

/-- A square as a matrix. -/
def Square.toMatrix (p : Square ℝ) : Matrix (Fin 2) (Fin 2) ℝ := !![p.a₁₁, p.a₁₂; p.a₂₁, p.a₂₂]

theorem Pair.dot_real (u v : Pair ℝ) : u.dot v = u.toVec ⬝ᵥ v.toVec := by
  simp [dot, toVec, dotProduct, Fin.sum_univ_two]

theorem Square.toVec_mulVec (p : Square ℝ) (v : Pair ℝ) :
    (p.mulVec v).toVec = p.toMatrix *ᵥ v.toVec := by
  ext i
  fin_cases i <;>
    simp [mulVec, toMatrix, Pair.toVec, Matrix.mulVec, dotProduct, Fin.sum_univ_two]

namespace LeastSquares

theorem toVec_regressor (s : LogSample) :
    (regressor s.headway : Pair ℝ).toVec = s.regressor := by
  simp [regressor, Pair.toVec, LogSample.regressor]

theorem toMatrix_initialCovariance :
    (initialCovariance : Square ℝ).toMatrix = (10 ^ 6 : ℝ) • 1 := by
  ext i j
  fin_cases i <;> fin_cases j <;> norm_num [initialCovariance, Square.toMatrix]

variable (m : LeastSquares ℝ) (x : Pair ℝ)

/-- The number by which the gain for a regressor is divided. -/
noncomputable def denominator : ℝ :=
  m.forgetting + x.fst * (m.covariance.mulVec x).fst + x.snd * (m.covariance.mulVec x).snd

theorem gain_eq : m.gain x = ⟨(m.covariance.mulVec x).fst / m.denominator x,
    (m.covariance.mulVec x).snd / m.denominator x⟩ := rfl

theorem denominator_eq :
    m.denominator x = spread m.forgetting m.covariance.toMatrix x.toVec := by
  rw [spread, ← Square.toVec_mulVec, ← Pair.dot_real, denominator, Pair.dot, add_assoc]

theorem toVec_gain :
    (m.gain x).toVec = gainFor m.forgetting m.covariance.toMatrix x.toVec := by
  rw [gainFor, ← denominator_eq, ← Square.toVec_mulVec, gain_eq]
  ext i
  fin_cases i <;> exact div_eq_inv_mul _ _

theorem toVec_nextWeights (y : ℝ) :
    (m.nextWeights x y).toVec = m.weights.toVec +
      (y - m.weights.toVec ⬝ᵥ x.toVec) •
        gainFor m.forgetting m.covariance.toMatrix x.toVec := by
  rw [← toVec_gain, ← Pair.dot_real]
  ext i
  fin_cases i <;> exact congrArg _ (mul_comm _ _)

theorem toMatrix_nextCovariance :
    (m.nextCovariance x).toMatrix = m.forgetting⁻¹ • (m.covariance.toMatrix -
      vecMulVec (gainFor m.forgetting m.covariance.toMatrix x.toVec)
        (m.covariance.toMatrix *ᵥ x.toVec)) := by
  rw [← toVec_gain, ← Square.toVec_mulVec]
  ext i j
  fin_cases i <;> fin_cases j <;> exact div_eq_inv_mul _ _

theorem absorb_real (y : ℝ) :
    m.absorb x y = ⟨m.forgetting, m.nextWeights x y,
      if tame (m.nextCovariance x) then m.nextCovariance x else initialCovariance,
      m.samples + 1⟩ := rfl

/-! ## Runs -/

/-- The model after some samples, in the order in which they were given. -/
noncomputable def after (c : ℝ) (log : List LogSample) : LeastSquares ℝ :=
  log.foldl (fun m s => m.absorb (regressor s.headway) s.logDwell) (new c)

/-- The covariance starts afresh with a sample. -/
def Resets (s : LogSample) : Prop := tame (m.nextCovariance (regressor s.headway)) = false

/-- The covariance last started afresh before some samples: either the model did, or the covariance
did with the sample before them, and it does not with any of them. -/
structure SinceReset (c : ℝ) (before since : List LogSample) : Prop where
  start : before = [] ∨ ∃ earlier s, before = earlier ++ [s] ∧ (after c earlier).Resets s
  steady : ∀ earlier s later, since = earlier ++ s :: later →
    ¬ (after c (before ++ earlier)).Resets s

variable {c : ℝ} {before since log : List LogSample}

theorem after_concat (s : LogSample) :
    after c (log ++ [s]) = (after c log).absorb (regressor s.headway) s.logDwell := by
  rw [after, List.foldl_concat, ← after]

theorem forgetting_after (c : ℝ) (log : List LogSample) : (after c log).forgetting = c := by
  induction log using List.reverseRecOn with
  | nil => rfl
  | append_singleton log s ih => rw [after_concat, absorb_real, ih]

theorem covariance_of_resets {s : LogSample} (h : (after c log).Resets s) :
    (after c (log ++ [s])).covariance = initialCovariance := by
  rw [after_concat, absorb_real]
  exact if_neg (Bool.eq_false_iff.mp h)

theorem covariance_of_not_resets {s : LogSample} (h : ¬ (after c log).Resets s) :
    (after c (log ++ [s])).covariance =
      (after c log).nextCovariance (regressor s.headway) := by
  rw [after_concat, absorb_real]
  exact if_pos (by simpa [Resets] using h)

theorem inv_nextCovariance (hc : 0 < c) (hP : (after c log).covariance.toMatrix.PosDef)
    (s : LogSample) :
    ((after c log).nextCovariance (regressor s.headway)).toMatrix⁻¹ =
      c • (after c log).covariance.toMatrix⁻¹ + vecMulVec s.regressor s.regressor := by
  rw [toMatrix_nextCovariance, forgetting_after, toVec_regressor, inv_update hP hc]

theorem posDef_initialCovariance : (initialCovariance : Square ℝ).toMatrix.PosDef := by
  rw [toMatrix_initialCovariance]
  exact PosDef.one.smul (by norm_num)

/-- The covariance is symmetric and positive definite after all samples. -/
theorem posDef_after (hc : 0 < c) (log : List LogSample) :
    (after c log).covariance.toMatrix.PosDef := by
  induction log using List.reverseRecOn with
  | nil => exact posDef_initialCovariance
  | append_singleton log s ih =>
    by_cases hs : (after c log).Resets s
    · rw [covariance_of_resets hs]
      exact posDef_initialCovariance
    · rw [covariance_of_not_resets hs, ← posDef_inv_iff, inv_nextCovariance hc ih]
      exact posDef_update ih hc _

theorem sinceReset_nil
    (h : before = [] ∨ ∃ earlier s, before = earlier ++ [s] ∧ (after c earlier).Resets s) :
    SinceReset c before [] := ⟨h, by simp⟩

theorem SinceReset.concat {s : LogSample} (h : SinceReset c before since)
    (hs : ¬ (after c (before ++ since)).Resets s) : SinceReset c before (since ++ [s]) := by
  refine ⟨h.start, ?_⟩
  intro earlier t later hsplit
  -- the new sample comes last, and for those before it the fact is known
  rcases later.eq_nil_or_concat with rfl | ⟨others, u, rfl⟩
  · obtain ⟨rfl, hst⟩ := List.append_inj' hsplit rfl
    obtain rfl := List.singleton_inj.mp hst
    exact hs
  · rw [List.concat_eq_append, ← List.cons_append, ← List.append_assoc] at hsplit
    exact h.steady earlier t others (List.append_inj' hsplit rfl).1

/-- Every run of samples has a last point at which the covariance started afresh. -/
theorem exists_sinceReset (c : ℝ) (log : List LogSample) :
    ∃ before since, log = before ++ since ∧ SinceReset c before since := by
  induction log using List.reverseRecOn with
  | nil => exact ⟨[], [], rfl, sinceReset_nil (Or.inl rfl)⟩
  | append_singleton log s ih =>
    by_cases hs : (after c log).Resets s
    · exact ⟨log ++ [s], [], by simp, sinceReset_nil (Or.inr ⟨log, s, rfl, hs⟩)⟩
    · obtain ⟨before, since, rfl, hsince⟩ := ih
      exact ⟨before, since ++ [s], by simp, hsince.concat hs⟩

theorem SinceReset.dropLast {s : LogSample} (h : SinceReset c before (since ++ [s])) :
    SinceReset c before since ∧ ¬ (after c (before ++ since)).Resets s := by
  refine ⟨⟨h.start, ?_⟩, h.steady since s [] rfl⟩
  rintro earlier t later rfl
  exact h.steady earlier t (later ++ [s]) (by simp)

theorem covariance_of_start
    (h : before = [] ∨ ∃ earlier s, before = earlier ++ [s] ∧ (after c earlier).Resets s) :
    (after c before).covariance = initialCovariance := by
  rcases h with rfl | ⟨earlier, s, rfl, hs⟩
  · rfl
  · exact covariance_of_resets hs

/-- The inverse of the covariance is what the samples since the last fresh start say about the
weights. -/
theorem inv_covariance_after (hc : 0 < c) (h : SinceReset c before since) :
    (after c (before ++ since)).covariance.toMatrix⁻¹ =
      information c ((10 ^ 6 : ℝ) • 1)⁻¹ since := by
  induction since using List.reverseRecOn with
  | nil =>
    rw [List.append_nil, covariance_of_start h.start, toMatrix_initialCovariance, information,
      List.map_nil, discounted_nil]
  | append_singleton since s ih =>
    obtain ⟨hsince, hs⟩ := h.dropLast
    rw [← List.append_assoc, covariance_of_not_resets hs, inv_nextCovariance hc (posDef_after hc _),
      ih hsince, information_concat]

/-- The weights solve the normal equations of the samples since the last fresh start. -/
theorem inv_mulVec_weights_after (hc : 0 < c) (h : SinceReset c before since) :
    (after c (before ++ since)).covariance.toMatrix⁻¹ *ᵥ
        (after c (before ++ since)).weights.toVec =
      moments c ((10 ^ 6 : ℝ) • 1)⁻¹ (after c before).weights.toVec since := by
  induction since using List.reverseRecOn with
  | nil =>
    rw [List.append_nil, covariance_of_start h.start, toMatrix_initialCovariance, moments,
      List.map_nil, discounted_nil]
  | append_singleton since s ih =>
    obtain ⟨hsince, hs⟩ := h.dropLast
    have hP := posDef_after hc (before ++ since)
    rw [← List.append_assoc, covariance_of_not_resets hs, inv_nextCovariance hc hP, after_concat,
      absorb_real]
    simp only
    rw [toVec_nextWeights, forgetting_after, toVec_regressor, mulVec_update hP hc, ih hsince,
      moments_concat]

/-- What samples of dwell times and headways in milliseconds tell: those with a positive dwell time
have a logarithm. -/
noncomputable def logOf (samples : List (Int × Int)) : List LogSample :=
  (samples.filter fun s => 0 < s.1).map fun s => ⟨s.2, Scalar.log10 s.1⟩

theorem logOf_concat (samples : List (Int × Int)) (s : Int × Int) :
    logOf (samples ++ [s]) =
      logOf samples ++ if 0 < s.1 then [⟨s.2, Scalar.log10 s.1⟩] else [] := by
  rw [logOf, List.filter_append, List.map_append, ← logOf]
  split
  · rename_i hdwell
    rw [List.filter_cons_of_pos (by simpa using hdwell), List.filter_nil, List.map_singleton]
  · rename_i hdwell
    rw [List.filter_cons_of_neg (by simpa using hdwell), List.filter_nil, List.map_nil]

theorem foldl_add (c : ℝ) (samples : List (Int × Int)) :
    samples.foldl (fun m s => m.add s.1 s.2) (new c) = after c (logOf samples) := by
  induction samples using List.reverseRecOn with
  | nil => rfl
  | append_singleton samples s ih =>
    rw [List.foldl_concat, ih, add, logOf_concat]
    by_cases hdwell : 0 < s.1
    · rw [if_neg (Int.not_le.mpr hdwell), if_pos hdwell, after_concat]
      rfl
    · rw [if_pos (Int.not_lt.mp hdwell), if_neg hdwell, List.append_nil]

/-- Samples without a positive dwell time change nothing, and the others count by the logarithms of
their dwell times. Whatever these are, the covariance is symmetric and positive definite after all
samples, and no gain is divided by less than the forgetting factor. The samples since the covariance
last started afresh give its inverse, after the inverse of one million times the identity. The
weights solve the normal equations of these samples; they alone have the least discounted squared
error, where their distance from the weights at the fresh start counts as the first error. -/
theorem weights_of_least_error (hc : 0 < c) :
    (∀ (m : LeastSquares ℝ) dwellMs headwayMs, dwellMs ≤ 0 → m.add dwellMs headwayMs = m) ∧
    (∀ samples : List (Int × Int),
      samples.foldl (fun m s => m.add s.1 s.2) (new c) = after c (logOf samples)) ∧
    ∀ log : List LogSample,
      let m := after c log
      m.covariance.toMatrix.PosDef ∧
      (∀ headwayMs, c ≤ m.denominator (regressor headwayMs)) ∧
      (∃ before since, log = before ++ since ∧ SinceReset c before since) ∧
      ∀ before since, log = before ++ since → SinceReset c before since →
        let A₀ : Matrix (Fin 2) (Fin 2) ℝ := ((10 ^ 6 : ℝ) • 1)⁻¹
        let w₀ := (after c before).weights.toVec
        let w := m.weights.toVec
        m.covariance.toMatrix⁻¹ = information c A₀ since ∧
        m.covariance.toMatrix⁻¹ *ᵥ w = moments c A₀ w₀ since ∧
        ∀ v, v ≠ w → squaredError c A₀ w₀ since w < squaredError c A₀ w₀ since v := by
  refine ⟨fun m _ _ hdwell => if_pos hdwell, foldl_add c, ?_⟩
  intro log m
  refine ⟨posDef_after hc log, ?_, exists_sinceReset c log, ?_⟩
  · intro headwayMs
    rw [denominator_eq, forgetting_after]
    exact le_spread (posDef_after hc log) c _
  · rintro before since rfl hreset A₀ w₀ w
    have hinv := inv_covariance_after hc hreset
    have hweights := inv_mulVec_weights_after hc hreset
    refine ⟨hinv, hweights, ?_⟩
    intro v hv
    have hA₀ : A₀ᵀ = A₀ := by simp [A₀, transpose_nonsing_inv]
    refine squaredError_lt c w₀ since hA₀ ?_ ?_ hv
    · rw [← hinv]
      exact (posDef_after hc _).inv
    · rw [← hinv]
      exact hweights

/-! ### A fresh start among four samples -/

theorem resets_iff {s : LogSample} :
    (after c log).Resets s ↔
      10 ^ 12 < ((after c log).nextCovariance (regressor s.headway)).trace := by
  norm_num [Resets, tame, maxTrace, Scalar.isFinite, Scalar.le]

/-- Right after a fresh start the covariance goes on as at the very start. -/
theorem nextCovariance_of_initial (h : (after c log).covariance = initialCovariance)
    (x : Pair ℝ) : (after c log).nextCovariance x = (new c).nextCovariance x := by
  simp only [nextCovariance, gain, h, forgetting_after]
  rfl

/-- Two samples, each a minute after the vehicle ahead. -/
def samplesBefore (y z : ℝ) : List LogSample := [⟨60000, y⟩, ⟨60000, z⟩]

/-- Two samples, a minute and two minutes after the vehicle ahead. -/
def samplesSince (y z : ℝ) : List LogSample := [⟨60000, y⟩, ⟨120000, z⟩]

/-- With strong forgetting, a headway that comes again makes the covariance start afresh, and
another headway does not. The dwell times have no part in it. -/
theorem sinceReset_samples (y₁ y₂ y₃ y₄ : ℝ) :
    SinceReset (1 / 2000) (samplesBefore y₁ y₂) (samplesSince y₃ y₄) := by
  have hminute {log : List LogSample} {y : ℝ}
      (h : (after (1 / 2000) log).covariance = initialCovariance) :
      ¬ (after (1 / 2000) log).Resets ⟨60000, y⟩ := by
    rw [resets_iff, nextCovariance_of_initial h]
    norm_num [new, nextCovariance, gain, Square.mulVec, initialCovariance, regressor, Square.trace]
  have hfirst : ¬ (after (1 / 2000) []).Resets ⟨60000, y₁⟩ := hminute rfl
  have hone : (after (1 / 2000) [⟨60000, y₁⟩]).covariance =
      (new (1 / 2000)).nextCovariance (regressor 60000) := covariance_of_not_resets hfirst
  have hsecond : (after (1 / 2000) [⟨60000, y₁⟩]).Resets ⟨60000, y₂⟩ := by
    rw [resets_iff]
    simp only [nextCovariance, gain, hone, forgetting_after]
    norm_num [new, Square.mulVec, initialCovariance, regressor, Square.trace]
  have hfresh : (after (1 / 2000) (samplesBefore y₁ y₂)).covariance = initialCovariance :=
    covariance_of_resets hsecond
  have hthree : (after (1 / 2000) (samplesBefore y₁ y₂ ++ [⟨60000, y₃⟩])).covariance =
      (new (1 / 2000)).nextCovariance (regressor 60000) := by
    rw [covariance_of_not_resets (hminute hfresh), nextCovariance_of_initial hfresh]
  have hfourth :
      ¬ (after (1 / 2000) (samplesBefore y₁ y₂ ++ [⟨60000, y₃⟩])).Resets ⟨120000, y₄⟩ := by
    rw [resets_iff]
    simp only [nextCovariance, gain, hthree, forgetting_after]
    norm_num [new, Square.mulVec, initialCovariance, regressor, Square.trace]
  have hstart : SinceReset (1 / 2000) (samplesBefore y₁ y₂) [] :=
    sinceReset_nil (Or.inr ⟨[⟨60000, y₁⟩], ⟨60000, y₂⟩, rfl, hsecond⟩)
  exact (hstart.concat (hminute (by rwa [List.append_nil]))).concat hfourth

theorem weights_since_fresh_start :
    let m := after (1 / 2000) (samplesBefore 4 5 ++ samplesSince 4 5)
    let A₀ : Matrix (Fin 2) (Fin 2) ℝ := ((10 ^ 6 : ℝ) • 1)⁻¹
    let w₀ := (after (1 / 2000) (samplesBefore 4 5)).weights.toVec
    m.covariance.toMatrix.PosDef ∧
    m.covariance.toMatrix⁻¹ = information (1 / 2000) A₀ (samplesSince 4 5) ∧
    m.covariance.toMatrix⁻¹ *ᵥ m.weights.toVec = moments (1 / 2000) A₀ w₀ (samplesSince 4 5) ∧
    ∀ v, v ≠ m.weights.toVec →
      squaredError (1 / 2000) A₀ w₀ (samplesSince 4 5) m.weights.toVec <
        squaredError (1 / 2000) A₀ w₀ (samplesSince 4 5) v := by
  intro m A₀ w₀
  obtain ⟨-, -, hlog⟩ := weights_of_least_error (c := 1 / 2000) (by norm_num)
  obtain ⟨hposDef, -, -, hsince⟩ := hlog (samplesBefore 4 5 ++ samplesSince 4 5)
  exact ⟨hposDef, hsince _ _ rfl (sinceReset_samples 4 5 4 5)⟩

end LeastSquares

end Headway
