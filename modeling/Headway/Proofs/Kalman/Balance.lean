import Headway.Proofs.Kalman.Exact

/-!
# What the filter weighs

Between the last vehicle and the previous days the filter leans to the days
(`Kalman.abs_weighted_sub_le`). The error that it passes on is a part of the variance of the days,
at least half of it (`Kalman.mul_gain_mem_Icc`), and the greater the error it started from, the
greater the part (`Kalman.mul_gain_mono`). A step over traversals with both ends known always gives
an estimate (`Kalman.step_real`), and with the mean of the days it does not matter in which order
they stand (`Kalman.step_of_perm`).

`Kalman.step_balances` puts these together for one step, at any error that is not negative.
-/

namespace Headway

namespace Kalman

/-! ## Weights -/

theorem variance_perm {xs ys : List ℝ} (h : xs.Perm ys) (mean : ℝ) :
    variance xs mean = variance ys mean := by
  rw [variance_real, variance_real, (h.map _).sum_eq, h.length_eq]

/-- Of two numbers the second counts for at least as much, so the weighted one is no farther from
it. -/
theorem abs_weighted_sub_le {g : ℝ} (hg : g ∈ Set.Icc (1 / 2) 1) (x y : ℝ) :
    |((1 - g) * x + g * y) - y| ≤ |((1 - g) * x + g * y) - x| := by
  have hy : ((1 - g) * x + g * y) - y = (1 - g) * (x - y) := by ring
  have hx : ((1 - g) * x + g * y) - x = g * (y - x) := by ring
  have hhalf : 1 - g ≤ g := by linarith [hg.1]
  have hg₀ : 0 ≤ 1 - g := sub_nonneg.mpr hg.2
  rw [hy, hx, abs_mul, abs_mul, abs_of_nonneg hg₀, abs_of_nonneg (hg₀.trans hhalf),
    abs_sub_comm x y]
  exact mul_le_mul_of_nonneg_right hhalf (abs_nonneg _)

theorem mul_gain_mem_Icc {error v : ℝ} (herror : 0 ≤ error) (hv : 0 ≤ v) :
    v * gain error v ∈ Set.Icc (v / 2) v := by
  obtain ⟨hhalf, hone⟩ := gain_mem_Icc herror hv
  constructor
  · calc v / 2 = v * (1 / 2) := by ring
      _ ≤ v * gain error v := mul_le_mul_of_nonneg_left hhalf hv
  · exact mul_le_of_le_one_right hv hone

/-- From a greater error the days get more weight. -/
theorem mul_gain_mono {error greater v : ℝ} (herror : 0 ≤ error) (h : error ≤ greater)
    (hv : 0 ≤ v) : v * gain error v ≤ v * gain greater v := by
  rcases hv.eq_or_lt with rfl | hpos
  · rw [zero_mul, zero_mul]
  · have hden : 0 < error + 2 * v := by positivity
    have hden' : 0 < greater + 2 * v := by linarith
    rw [gain_real, gain_real, if_neg hden.ne', if_neg hden'.ne']
    apply mul_le_mul_of_nonneg_left _ hv
    rw [div_le_div_iff₀ hden hden']
    -- the two products differ by the variance times the difference of the errors
    nlinarith [mul_nonneg hv (sub_nonneg.mpr h)]

/-! ## Estimates -/

/-- With the mean of the days the order in which they stand does not matter. -/
theorem estimate_of_perm {days others : List ℝ} (h : days.Perm others)
    (recent other last error : ℝ) :
    estimate true days recent last error = estimate true others other last error := by
  rw [estimate_real, estimate_real, Scalar.mean_perm h, variance_perm h]
  rfl

/-! ## Steps -/

/-- Traversals in another order have the same durations in another order. -/
theorem durations_of_perm {days others : List Traversal} {millis : List Int}
    (hperm : others.Perm days) (hdays : days.map Traversal.duration? = millis.map some) :
    ∃ reordered : List Int,
      others.map Traversal.duration? = reordered.map some ∧ reordered.Perm millis := by
  have hknown : others.map Traversal.duration? =
      (others.map fun t => t.duration?.getD 0).map some := by
    rw [List.map_map]
    apply List.map_congr_left
    intro t ht
    have hmem : t.duration? ∈ millis.map some :=
      hdays ▸ List.mem_map_of_mem (hperm.mem_iff.mp ht)
    obtain ⟨ms, -, hms⟩ := List.mem_map.mp hmem
    rw [Function.comp, ← hms, Option.getD_some]
  refine ⟨_, hknown, ?_⟩
  rw [← List.map_perm_map_iff (Option.some_injective Int), ← hknown, ← hdays]
  exact hperm.map _

section Step

variable {last : Traversal} {lastMillis : Int} {days others : List Traversal} {millis : List Int}

/-- No estimate is lost for not being finite. -/
theorem step_real (useAverage : Bool) (error : ℝ) (hlast : last.duration? = some lastMillis)
    (hdays : days.map Traversal.duration? = millis.map some) (hne : millis ≠ []) :
    step useAverage last days error =
      .ok (some (estimate useAverage (millis.map Scalar.ofInt) (Scalar.ofInt (millis.getLastD 0))
        (Scalar.ofInt lastMillis) error)) :=
  step_of_durations useAverage error hlast hdays hne

theorem step_of_perm (error : ℝ) (hlast : last.duration? = some lastMillis)
    (hdays : days.map Traversal.duration? = millis.map some) (hne : millis ≠ [])
    (hperm : others.Perm days) : step true last others error = step true last days error := by
  obtain ⟨reordered, hothers, hreordered⟩ := durations_of_perm hperm hdays
  have hreorderedNe : reordered ≠ [] := by
    rintro rfl
    exact hne (List.nil_perm.mp hreordered)
  rw [step_real true error hlast hothers hreorderedNe, step_real true error hlast hdays hne,
    estimate_of_perm (hreordered.map _)]

end Step

/-- Over traversals with known times, and from an error that is not negative, a step of the filter
gives an estimate. With `v` the variance of the previous days, it lies between the duration of the
last vehicle and what the days contribute, no farther from the days; it passes on an error from
`v / 2` to `v`, and no smaller one from a greater error. If the days contribute their mean, they may
stand in any order. -/
theorem step_balances (useAverage : Bool) {last : Traversal} {lastMillis : Int}
    {days : List Traversal} {millis : List Int} {error : ℝ}
    (hlast : last.duration? = some lastMillis)
    (hdays : days.map Traversal.duration? = millis.map some) (hne : days ≠ [])
    (herror : 0 ≤ error) :
    let mean : ℝ := (millis.map Int.cast).sum / millis.length
    let v : ℝ := (millis.map fun ms : Int => ((ms : ℝ) - mean) ^ 2).sum / millis.length
    let contributed : ℝ := if useAverage then mean else millis.getLastD 0
    ∃ e : KalmanEstimate ℝ, step useAverage last days error = .ok (some e) ∧
      e.result ∈ Set.uIcc (lastMillis : ℝ) contributed ∧
      |e.result - contributed| ≤ |e.result - lastMillis| ∧
      e.filterError ∈ Set.Icc (v / 2) v ∧
      (∀ greater, error ≤ greater → ∃ other : KalmanEstimate ℝ,
        step useAverage last days greater = .ok (some other) ∧
        e.filterError ≤ other.filterError) ∧
      (useAverage = true → ∀ others : List Traversal, others.Perm days →
        step useAverage last others error = .ok (some e)) := by
  intro mean v contributed
  have hmillis : millis ≠ [] := by
    rintro rfl
    exact hne (List.map_eq_nil_iff.mp hdays)
  have hmean : Scalar.mean (millis.map (Scalar.ofInt : Int → ℝ)) = mean := by
    rw [Scalar.mean_real, List.length_map]
    rfl
  have hvariance : variance (millis.map (Scalar.ofInt : Int → ℝ)) mean = v := by
    rw [variance_real, List.map_map, List.length_map]
    simp only [v, sq]
    rfl
  have hv : 0 ≤ v := hvariance ▸ variance_nonneg _ _
  have hgain := gain_mem_Icc herror hv
  have hstep (error : ℝ) : step useAverage last days error =
      .ok (some ⟨(1 - gain error v) * lastMillis + gain error v * contributed,
        v * gain error v⟩) := by
    rw [step_real useAverage error hlast hdays hmillis, estimate_real, hmean, hvariance]
    rfl
  refine ⟨_, hstep error, ?_, abs_weighted_sub_le hgain _ _, mul_gain_mem_Icc herror hv, ?_, ?_⟩
  · exact weighted_mem_Icc hgain Set.left_mem_uIcc Set.right_mem_uIcc
  · intro greater hgreater
    exact ⟨_, hstep greater, mul_gain_mono herror hgreater hv⟩
  · rintro rfl others hperm
    rw [step_of_perm error hlast hdays hmillis hperm, hstep]

/-- After a passage of 300 over three days around 400, the estimate is at least halfway to them. -/
theorem step_balances_three_days :
    let days := [380, 420, 400].map Traversal.ofDuration
    ∃ e : KalmanEstimate ℝ, step true (.ofDuration 300) days (362 / 5) = .ok (some e) ∧
      e.result ∈ Set.Icc 350 400 ∧ e.filterError ∈ Set.Icc (400 / 3) (800 / 3) ∧
      step true (.ofDuration 300) days.reverse (362 / 5) = .ok (some e) := by
  intro days
  have hdays : days.map Traversal.duration? = [380, 420, 400].map some := by decide
  have hlast : (Traversal.ofDuration 300).duration? = some 300 := rfl
  have herror : (0 : ℝ) ≤ 362 / 5 := by norm_num
  obtain ⟨e, he, hbetween, hcloser, hpassed, -, horder⟩ :=
    step_balances true hlast hdays (by decide) herror
  refine ⟨e, he, ?_, ?_, horder rfl _ (List.reverse_perm days)⟩
  · norm_num [Set.uIcc_of_le] at hbetween hcloser
    rw [abs_of_nonpos (by linarith), abs_of_nonneg (by linarith)] at hcloser
    exact ⟨by linarith, hbetween.2⟩
  · norm_num at hpassed
    exact hpassed

end Kalman

end Headway
