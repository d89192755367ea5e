import Headway.Dwell.Training
import Headway.Proofs.Admission
import Headway.Proofs.Exact

/-!
# Bounds on predicted dwell times

A running mean predicts a mean of dwell times that it keeps, rounded to whole milliseconds. So its
prediction lies within any bounds that hold for the dwell times, and those that train a model are
admitted ones.
-/

namespace Headway

namespace RunningMean

variable {lo hi : Int}

theorem mem_add {R : Type} {m : RunningMean R} {ms x : Int} (h : x ∈ (m.add ms).samples) :
    x ∈ m.samples ∨ x = ms := by
  have hkept : x ∈ (if m.samples.length = m.capacity then m.samples.tail else m.samples) ++ [ms] :=
    h
  rcases List.mem_append.mp hkept with hx | hx
  · left
    split at hx
    · exact List.mem_of_mem_tail hx
    · exact hx
  · exact Or.inr (List.mem_singleton.mp hx)

theorem plainMean_real (m : RunningMean ℝ) :
    m.plainMean = Scalar.mean (m.samples.map Scalar.ofInt) := by
  have htotal : (m.total : ℝ) = (m.samples.map (Scalar.ofInt : Int → ℝ)).sum := by
    rw [total, ← List.sum_eq_foldl]
    exact (List.sum_hom m.samples (Int.castRingHom ℝ)).symm
  rw [Scalar.mean_real, List.length_map, plainMean, Scalar.count_real, Scalar.ofInt_real, htotal]

theorem predict?_mem_Icc {m : RunningMean ℝ} (hlo : leastMillis ≤ lo) (hhi : hi ≤ greatestMillis)
    (h : ∀ x ∈ m.samples, x ∈ Set.Icc lo hi) {ms : Int} (hms : m.predict? = some ms) :
    ms ∈ Set.Icc lo hi := by
  have hreal : ∀ x ∈ m.samples.map (Scalar.ofInt : Int → ℝ), x ∈ Set.Icc (lo : ℝ) hi := by
    intro x hx
    obtain ⟨n, hn, rfl⟩ := List.mem_map.mp hx
    exact ⟨Int.cast_le.mpr (h n hn).1, Int.cast_le.mpr (h n hn).2⟩
  rw [predict?] at hms
  split at hms
  · cases hms
  · rename_i hsamples
    split at hms
    · -- all samples are far from their mean, which stands all the same
      cases hms
      apply Scalar.round_mem_Icc hlo hhi
      rw [plainMean_real]
      apply Scalar.mean_mem_Icc _ hreal
      simpa using hsamples
    · rename_i hkept
      cases hms
      apply Scalar.round_mem_Icc hlo hhi
      apply Scalar.mean_mem_Icc
      · simpa using hkept
      · intro x hx
        exact hreal x (List.mem_of_mem_filter hx)

end RunningMean

/-- A model that predicts a mean rests on dwell times between two bounds. -/
def DwellModel.Within {R : Type} (lo hi : Int) : DwellModel R → Prop
  | .runningMean m => ∀ x ∈ m.samples, x ∈ Set.Icc lo hi
  | .leastSquares _ => True

namespace DwellModel

variable {R : Type} [Scalar R] {lo hi : Int}

theorem kind_new (s : DwellSettings R) : (new s).kind = s.model := by
  unfold new
  cases s.model with
  | runningMean => rfl
  | leastSquares => rfl

theorem kind_add (m : DwellModel R) (dwellMs headwayMs : Int) :
    (m.add dwellMs headwayMs).kind = m.kind := by
  cases m with
  | runningMean r => rfl
  | leastSquares l => rfl

theorem within_new (s : DwellSettings R) : (new s).Within lo hi := by
  unfold new
  cases s.model with
  | runningMean =>
    intro x hx
    cases hx
  | leastSquares => trivial

theorem Within.add {m : DwellModel R} (h : m.Within lo hi) {dwellMs : Int} (headwayMs : Int)
    (hdwell : dwellMs ∈ Set.Icc lo hi) : (m.add dwellMs headwayMs).Within lo hi := by
  cases m with
  | runningMean r =>
    intro x hx
    rcases RunningMean.mem_add hx with hx | rfl
    · exact h x hx
    · exact hdwell
  | leastSquares l => trivial

end DwellModel

/-- All models are of the kind that is set and rest on dwell times between two bounds. -/
def DwellModels.Within {R : Type} (s : DwellSettings R) (lo hi : Int) (models : DwellModels R) :
    Prop :=
  ∀ k m, Table.get? models k = some m → m.kind = s.model ∧ m.Within lo hi

namespace DwellTraining

theorem judge_eq_sample {f : FilterSettings} {departure arrival leader : Event}
    {dwellMs headwayMs : Int} (h : judge f departure arrival leader = .sample dwellMs headwayMs) :
    dwellMs ∈ Set.Icc (f.least .dwell) (f.greatest .dwell) := by
  unfold judge at h
  simp only at h
  split at h
  · cases h
  · rename_i hadmitted
    split at h
    · cases h
    · split at h
      · cases h
        exact f.admitted_mem_Icc hadmitted
      · cases h

theorem lesson_eq_sample {clock : ServiceClock} {f : FilterSettings} {departure : Event}
    {events : List Event} {dwellMs headwayMs : Int}
    (h : lesson clock f departure events = .sample dwellMs headwayMs) :
    dwellMs ∈ Set.Icc (f.least .dwell) (f.greatest .dwell) := by
  unfold lesson at h
  split at h
  · cases h
  · split at h
    · cases h
    · split at h
      · cases h
      · exact judge_eq_sample h

theorem lessonOf_eq_sample {clock : ServiceClock} {f : FilterSettings} {e : Event}
    {stops : StopHistory} {dwellMs headwayMs : Int}
    (h : lessonOf clock f e stops = .ok (.sample dwellMs headwayMs)) :
    dwellMs ∈ Set.Icc (f.least .dwell) (f.greatest .dwell) := by
  unfold lessonOf at h
  split at h
  · cases hday : clock.serviceDay e.time with
    | error _ =>
      rw [hday] at h
      cases h
    | ok day =>
      rw [hday] at h
      have hlesson := Except.ok.inj h
      simp only at hlesson
      split at hlesson
      · exact lesson_eq_sample hlesson
      · cases hlesson
  · cases h

end DwellTraining

namespace DwellModels

variable {R : Type} [Scalar R] {s : DwellSettings R} {lo hi : Int} {models : DwellModels R}

theorem Within.learn (h : models.Within s lo hi) (e : Event) {lesson : DwellTraining.Lesson}
    (hlesson : ∀ dwellMs headwayMs, lesson = .sample dwellMs headwayMs →
      dwellMs ∈ Set.Icc lo hi) :
    (models.learn s e lesson).Within s lo hi := by
  cases lesson with
  | sample dwellMs headwayMs =>
    intro k m hm
    rw [DwellModels.learn, DwellModels.add, Table.alter, Table.get?_put] at hm
    split at hm
    · cases hm
      rw [DwellModel.kind_add]
      have hbefore : ((Table.get? models (.plain e.tripId e.stopPathIndex .dwell)).getD
            (DwellModel.new s)).kind = s.model ∧
          ((Table.get? models (.plain e.tripId e.stopPathIndex .dwell)).getD
            (DwellModel.new s)).Within lo hi := by
        cases hk : Table.get? models (.plain e.tripId e.stopPathIndex .dwell) with
        | none => exact ⟨DwellModel.kind_new s, DwellModel.within_new s⟩
        | some before => exact h _ before hk
      exact ⟨hbefore.1, hbefore.2.add headwayMs (hlesson dwellMs headwayMs rfl)⟩
    · exact h k m hm
  | _ => exact h

theorem Within.predict?_mem_Icc {s : DwellSettings ℝ} {models : DwellModels ℝ}
    (h : models.Within s lo hi) (hmodel : s.model = .runningMean) (hlo : leastMillis ≤ lo)
    (hhi : hi ≤ greatestMillis) {k : SegmentKey} {headway ms : Int}
    (hms : models.predict? k headway = some ms) : ms ∈ Set.Icc lo hi := by
  obtain ⟨m, hm, hpredict⟩ := Option.bind_eq_some_iff.mp hms
  obtain ⟨hkind, hwithin⟩ := h k m hm
  cases m with
  | runningMean r => exact r.predict?_mem_Icc hlo hhi hwithin hpredict
  | leastSquares l =>
    rw [hmodel] at hkind
    cases hkind

end DwellModels

end Headway
