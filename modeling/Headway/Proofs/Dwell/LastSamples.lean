import Headway.Proofs.Dwell.Bounds

/-!
# Means of the last samples

A running mean holds the last samples that it was given, as many as there is room for
(`RunningMean.after_eq`). In exact arithmetic its prediction is a mean of some of them, or of all of
them when none is close to the plain mean; so their order does not matter, and the prediction lies
between the least and the greatest of them, rounding included (`RunningMean.mean_of_last_samples`).

The sum of the samples is taken in 64 bits. Where the sums of consecutive samples fit, the sums that
a model takes do.
-/

namespace Headway

namespace RunningMean

/-! ## The samples held -/

section Held

variable {R : Type} (capacity : Nat) (fractionLimit : R)

/-- The model after some samples, in the order in which they were given. -/
def after (samples : List Int) : RunningMean R := samples.foldl add (new capacity fractionLimit)

theorem after_concat (samples : List Int) (ms : Int) :
    after capacity fractionLimit (samples ++ [ms]) =
      (after capacity fractionLimit samples).add ms := by
  rw [after, List.foldl_concat, ← after]

/-- Of the last samples, as many as there is room for, those stay that leave room for one more. -/
theorem rtake_of_room (samples : List Int) (n : Nat) :
    (if (samples.rtake (n + 1)).length = n + 1 then (samples.rtake (n + 1)).tail
      else samples.rtake (n + 1)) = samples.rtake n := by
  simp only [List.rtake, List.length_drop, List.tail_drop]
  split
  · congr 1
    omega
  · congr 1
    omega

theorem after_eq (samples : List Int) :
    after capacity fractionLimit samples =
      ⟨samples.rtake (max capacity 1), max capacity 1, fractionLimit⟩ := by
  obtain ⟨n, hn⟩ := Nat.exists_eq_add_of_le' (Nat.le_max_right capacity 1)
  induction samples using List.reverseRecOn with
  | nil => rw [List.rtake_nil, after, List.foldl_nil, new]
  | append_singleton samples ms ih =>
    rw [after_concat, ih, hn, List.rtake_concat_succ, add]
    simp only [rtake_of_room]

end Held

/-! ## The prediction -/

variable {r s : RunningMean ℝ}

theorem total_eq_sum {R : Type} (r : RunningMean R) : r.total = r.samples.sum := by
  rw [total, List.sum_eq_foldl]

/-- Samples in another order lead to the same prediction. -/
theorem predict?_of_perm (hsamples : r.samples.Perm s.samples)
    (hlimit : r.fractionLimit = s.fractionLimit) : r.predict? = s.predict? := by
  have hall : (r.samples.map (Scalar.ofInt : Int → ℝ)).Perm (s.samples.map Scalar.ofInt) :=
    hsamples.map _
  have hplain : r.plainMean = s.plainMean := by
    rw [plainMean_real, plainMean_real, Scalar.mean_perm hall]
  have hkept : r.kept.Perm s.kept := by
    rw [kept, kept, hplain, hlimit]
    exact hall.filter _
  rw [predict?, predict?, hsamples.isEmpty_eq, hkept.isEmpty_eq, hplain, Scalar.mean_perm hkept]

theorem exists_predict? (h : r.samples ≠ []) : ∃ ms, r.predict? = some ms := by
  rw [predict?, if_neg (by simpa using h)]
  split
  · exact ⟨_, rfl⟩
  · exact ⟨_, rfl⟩

/-- The prediction lies between the least and the greatest of the samples. -/
theorem predict?_between (h : r.samples ≠ [])
    (hbits : ∀ x ∈ r.samples, x ∈ Set.Icc leastMillis greatestMillis) :
    ∃ lo hi ms, r.samples.min? = some lo ∧ r.samples.max? = some hi ∧ r.predict? = some ms ∧
      ms ∈ Set.Icc lo hi := by
  obtain ⟨lo, hlo⟩ := Option.isSome_iff_exists.mp (List.isSome_min?_of_ne_nil h)
  obtain ⟨hi, hhi⟩ := Option.isSome_iff_exists.mp (List.isSome_max?_of_ne_nil h)
  obtain ⟨ms, hms⟩ := exists_predict? h
  obtain ⟨hloMem, hleast⟩ := List.min?_eq_some_iff.mp hlo
  obtain ⟨hhiMem, hgreatest⟩ := List.max?_eq_some_iff.mp hhi
  refine ⟨lo, hi, ms, hlo, hhi, hms, ?_⟩
  exact predict?_mem_Icc (hbits lo hloMem).1 (hbits hi hhiMem).2
    (fun x hx => ⟨hleast x hx, hgreatest x hx⟩) hms

/-- A model holds the last samples that it was given, as many as there is room for, and at least
one. What it predicts depends on these alone and not on their order; it predicts something once it
was given a sample, and that lies between the least and the greatest of them. All sums of
consecutive samples that a model can hold are taken to fit into 64 bits; then its own does. -/
theorem mean_of_last_samples (capacity : Nat) (fractionLimit : ℝ) (samples : List Int)
    (hfits : ∀ window, window <:+: samples → window.length ≤ max capacity 1 →
      window.sum ∈ Set.Icc leastMillis greatestMillis) :
    let m := after capacity fractionLimit samples
    m.samples = samples.rtake (max capacity 1) ∧
    m.samples.length = min samples.length (max capacity 1) ∧
    m.total ∈ Set.Icc leastMillis greatestMillis ∧
    (∀ otherCapacity others,
      (after otherCapacity fractionLimit others).samples.Perm m.samples →
      (after otherCapacity fractionLimit others).predict? = m.predict?) ∧
    (samples = [] → m.predict? = none) ∧
    (samples ≠ [] → ∃ lo hi ms, m.samples.min? = some lo ∧ m.samples.max? = some hi ∧
      m.predict? = some ms ∧ ms ∈ Set.Icc lo hi) := by
  intro m
  have hm : m = ⟨samples.rtake (max capacity 1), max capacity 1, fractionLimit⟩ :=
    after_eq capacity fractionLimit samples
  have hheld : m.samples = samples.drop (samples.length - max capacity 1) := by rw [hm]; rfl
  have hlength : m.samples.length = min samples.length (max capacity 1) := by
    rw [hheld, List.length_drop]
    omega
  have hwindow : m.samples <:+: samples := hheld ▸ (List.drop_suffix _ samples).isInfix
  refine ⟨by rw [hm], hlength, ?_, ?_, ?_, ?_⟩
  · rw [total_eq_sum]
    exact hfits m.samples hwindow (hlength ▸ Nat.min_le_right _ _)
  · intro otherCapacity others hperm
    refine predict?_of_perm hperm ?_
    rw [hm, after_eq]
  · rintro rfl
    rfl
  · intro hne
    have hpos : 0 < samples.length := List.length_pos_iff.mpr hne
    apply predict?_between
    · rw [← List.length_pos_iff, hlength]
      omega
    · intro x hx
      obtain ⟨before, after, hsplit⟩ := List.append_of_mem hx
      have hx : [x] <:+: m.samples := ⟨before, after, by rw [hsplit]; simp⟩
      simpa using hfits [x] (hx.trans hwindow) (by simp)

/-- Neither of the last two samples is close to their mean, which is predicted all the same. -/
theorem mean_of_far_samples :
    let m := after 2 (7 / 10 : ℝ) [1000, 100, 300]
    m.kept = [] ∧ ∃ ms, m.predict? = some ms ∧ ms ∈ Set.Icc 100 300 := by
  intro m
  have hfits : ∀ window, window <:+: [1000, 100, 300] → window.length ≤ max 2 1 →
      window.sum ∈ Set.Icc leastMillis greatestMillis := by
    intro window hwindow _
    have hall : ∀ x ∈ [1000, 100, 300].sublists,
        leastMillis ≤ (x.sum : Int) ∧ x.sum ≤ greatestMillis := by decide
    exact hall window (List.mem_sublists.mpr hwindow.sublist)
  have hm : m.samples = [100, 300] := rfl
  have hlimit : m.fractionLimit = 7 / 10 := rfl
  obtain ⟨-, -, -, -, -, hbetween⟩ := mean_of_last_samples 2 (7 / 10) [1000, 100, 300] hfits
  obtain ⟨lo, hi, ms, hlo, hhi, hms, hmem⟩ := hbetween (by simp)
  cases hlo
  cases hhi
  refine ⟨?_, ms, hms, hmem⟩
  have hmean : m.plainMean = 200 := by
    rw [plainMean_real, hm, Scalar.mean_real]
    norm_num
  rw [kept, hmean, hm, hlimit]
  norm_num [Scalar.le]

end RunningMean

end Headway
