import Headway.Kalman.Step
import Headway.Proofs.Exact

/-!
# The Kalman step in exact arithmetic

Started from an error that is not negative, the filter gives the previous days at least half of the
weight and at most all of it (`Kalman.gain_mem_Icc`). So its estimate lies between any two bounds
that hold for the days and for the last vehicle, and the error that it passes on is not negative
again.
-/

namespace Headway

namespace Kalman

theorem variance_real (durations : List ℝ) (mean : ℝ) :
    variance durations mean =
      (durations.map fun d => (d - mean) * (d - mean)).sum / durations.length := by
  simp only [variance, Scalar.sum_real, Scalar.square_real, Scalar.count_real]

theorem variance_nonneg (durations : List ℝ) (mean : ℝ) : 0 ≤ variance durations mean := by
  have hsum : 0 ≤ (durations.map fun d => (d - mean) * (d - mean)).sum := by
    apply List.sum_nonneg
    intro x hx
    obtain ⟨d, -, rfl⟩ := List.mem_map.mp hx
    exact mul_self_nonneg _
  rw [variance_real]
  positivity

theorem gain_real (error v : ℝ) :
    gain error v = if error + 2 * v = 0 then 1 else (error + v) / (error + 2 * v) := by
  simp only [gain, Scalar.eq_real, Scalar.zero_real, Scalar.one_real, Scalar.ofInt_real]
  norm_num

theorem gain_mem_Icc {error v : ℝ} (herror : 0 ≤ error) (hv : 0 ≤ v) :
    gain error v ∈ Set.Icc (1 / 2) 1 := by
  rw [gain_real]
  split
  · constructor <;> norm_num
  · rename_i hne
    have hpos : 0 < error + 2 * v := lt_of_le_of_ne (by linarith) (Ne.symm hne)
    constructor
    · rw [le_div_iff₀ hpos]
      linarith
    · rw [div_le_iff₀ hpos]
      linarith

theorem estimate_real (useAverage : Bool) (days : List ℝ) (mostRecent last error : ℝ) :
    estimate useAverage days mostRecent last error =
      ⟨(1 - gain error (variance days (Scalar.mean days))) * last +
          gain error (variance days (Scalar.mean days)) *
            (if useAverage then Scalar.mean days else mostRecent),
        variance days (Scalar.mean days) * gain error (variance days (Scalar.mean days))⟩ := by
  simp only [estimate, Scalar.one_real]

/-- A number between two others is between their bounds. -/
theorem weighted_mem_Icc {lo hi g x y : ℝ} (hg : g ∈ Set.Icc (1 / 2) 1) (hx : x ∈ Set.Icc lo hi)
    (hy : y ∈ Set.Icc lo hi) : (1 - g) * x + g * y ∈ Set.Icc lo hi := by
  have hg₀ : 0 ≤ g := le_trans (by norm_num) hg.1
  have hg₁ : 0 ≤ 1 - g := sub_nonneg.mpr hg.2
  constructor
  · calc lo = (1 - g) * lo + g * lo := by ring
      _ ≤ (1 - g) * x + g * y := by gcongr <;> [exact hx.1; exact hy.1]
  · calc (1 - g) * x + g * y ≤ (1 - g) * hi + g * hi := by gcongr <;> [exact hx.2; exact hy.2]
      _ = hi := by ring

variable {lo hi error : ℝ} {days : List ℝ} {mostRecent last : ℝ}

theorem result_mem_Icc (useAverage : Bool) (herror : 0 ≤ error) (hne : days ≠ [])
    (hdays : ∀ d ∈ days, d ∈ Set.Icc lo hi) (hrecent : mostRecent ∈ Set.Icc lo hi)
    (hlast : last ∈ Set.Icc lo hi) :
    (estimate useAverage days mostRecent last error).result ∈ Set.Icc lo hi := by
  have hgain := gain_mem_Icc herror (variance_nonneg days (Scalar.mean days))
  rw [estimate_real]
  apply weighted_mem_Icc hgain hlast
  split
  · exact Scalar.mean_mem_Icc hne hdays
  · exact hrecent

theorem filterError_nonneg (useAverage : Bool) (herror : 0 ≤ error) :
    0 ≤ (estimate useAverage days mostRecent last error).filterError := by
  have hvariance := variance_nonneg days (Scalar.mean days)
  have hgain := gain_mem_Icc herror hvariance
  rw [estimate_real]
  exact mul_nonneg hvariance (le_trans (by norm_num) hgain.1)

/-! ## Steps -/

section Step

variable {R : Type}

theorem duration_eq_ok {t : Traversal} {ms : Int} (h : t.duration? = some ms) :
    (t.duration : Except (Failure R) Int) = .ok ms := by
  rcases t with ⟨origin, destination⟩
  cases destination with
  | none => cases h
  | some d =>
    cases origin with
    | none => cases h
    | some o =>
      cases h
      rfl

theorem mapM_duration {days : List Traversal} {millis : List Int}
    (h : days.map Traversal.duration? = millis.map some) :
    (days.mapM fun t => (t.duration : Except (Failure R) Int)) = .ok millis := by
  induction days generalizing millis with
  | nil =>
    cases millis with
    | nil => rfl
    | cons _ _ => cases h
  | cons t rest ih =>
    cases millis with
    | nil => cases h
    | cons ms others =>
      obtain ⟨ht, hrest⟩ := List.cons.inj h
      rw [List.mapM_cons, duration_eq_ok ht, ih hrest]
      rfl

variable [Scalar R] {useAverage : Bool} {last : Traversal} {lastMillis : Int}
  {days : List Traversal} {millis : List Int}

/-- A step over traversals with known times gives the estimate from their durations, if that is
finite. -/
theorem step_of_durations (useAverage : Bool) (error : R)
    (hlast : last.duration? = some lastMillis)
    (hdays : days.map Traversal.duration? = millis.map some) (hne : millis ≠ []) :
    let e := estimate useAverage (millis.map Scalar.ofInt) (Scalar.ofInt (millis.getLastD 0))
      (Scalar.ofInt lastMillis) error
    step useAverage last days error =
      if Scalar.isFinite e.result && Scalar.isFinite e.filterError then .ok (some e)
      else .error (.notFinite e.result e.filterError) := by
  cases days with
  | nil => exact absurd (List.map_eq_nil_iff.mp hdays.symm) hne
  | cons t rest =>
    simp only [step, mapM_duration hdays, duration_eq_ok hlast, bind, Except.bind, pure,
      Except.pure, List.isEmpty_cons, Bool.false_eq_true, if_false]
    rfl

/-- A step over traversals with known times is an estimate from their durations. -/
theorem step_eq_some {error : R} {e : KalmanEstimate R}
    (hlast : last.duration? = some lastMillis)
    (hdays : days.map Traversal.duration? = millis.map some)
    (h : step useAverage last days error = .ok (some e)) :
    millis ≠ [] ∧
      e = estimate useAverage (millis.map Scalar.ofInt) (Scalar.ofInt (millis.getLastD 0))
        (Scalar.ofInt lastMillis) error := by
  have hne : millis ≠ [] := by
    rintro rfl
    rw [List.map_eq_nil_iff.mp hdays] at h
    cases h
  refine ⟨hne, ?_⟩
  rw [step_of_durations useAverage error hlast hdays hne] at h
  split at h
  · exact (Option.some.inj (Except.ok.inj h)).symm
  · cases h

end Step

end Kalman

end Headway
