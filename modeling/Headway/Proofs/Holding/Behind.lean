import Headway.Holding.Basic
import Headway.Proofs.Instant
import Mathlib.Data.List.Perm.Basic

/-!
# The arrivals behind a vehicle

The predictions for a control stop are sorted by time, and the first of the earliest is left out if
it is for the arriving vehicle itself. So the hold depends on the times of the predictions that
count (`Event.counted`) and not on their order (`Event.arrivalsBehind_congr`).

Other predictions for the arriving vehicle count like those for vehicles behind it. What counts is
exactly what is predicted for others if the vehicle has no prediction, or only one and that is the
first of the earliest (`Event.counted_perm_others_iff`).
-/

namespace Headway

/-! ## The head of a sorted list -/

section Sorting

variable {α : Type} {le : α → α → Bool}

/-- A stable sort begins with an element that comes before all that are not greater. -/
theorem exists_append_of_mergeSort (htrans : ∀ a b c, le a b → le b c → le a c)
    (htotal : ∀ a b, le a b || le b a) {l rest : List α} {x : α}
    (h : l.mergeSort le = x :: rest) :
    ∃ before after, l = before ++ x :: after ∧ (∀ y ∈ before, le y x = false) ∧
      ∀ y ∈ after, le x y = true := by
  induction l generalizing rest with
  | nil => simp at h
  | cons a tail ih =>
    have hsorted := List.pairwise_mergeSort htrans htotal (a :: tail)
    obtain ⟨lower, upper, hsort, htail, hlower⟩ := List.mergeSort_cons htrans htotal a tail
    rw [hsort] at h hsorted
    cases lower with
    | nil =>
      -- nothing of the tail is below `a`, which is therefore the head
      obtain ⟨rfl, rfl⟩ := List.cons.inj h
      refine ⟨[], tail, rfl, by simp, fun y hy => ?_⟩
      have hmem : y ∈ tail.mergeSort le := List.mem_mergeSort.mpr hy
      rw [htail] at hmem
      exact (List.pairwise_cons.mp hsorted).1 y hmem
    | cons b lower =>
      obtain ⟨rfl, -⟩ := List.cons.inj h
      obtain ⟨before, after, rfl, hbefore, hafter⟩ := ih htail
      refine ⟨a :: before, after, rfl, ?_, hafter⟩
      exact List.forall_mem_cons.mpr ⟨by simpa using hlower b List.mem_cons_self, hbefore⟩

end Sorting

/-! ## Predictions -/

/-- The first of the earliest predictions. -/
def ArrivalPrediction.first? (predictions : List ArrivalPrediction) : Option ArrivalPrediction :=
  predictions.find? fun p => predictions.all fun q => p.time ≤ q.time

namespace Event

variable (e : Event) (predictions : List ArrivalPrediction)

/-- A prediction is for the vehicle of an event itself. -/
def isOwn (p : ArrivalPrediction) : Bool := p.vehicleId = e.vehicleId

/-- The predictions for other vehicles. -/
def others : List ArrivalPrediction := predictions.filter fun p => !e.isOwn p

/-- The predictions that count: all but the first of the earliest, if that is for the arriving
vehicle. -/
def counted : List ArrivalPrediction :=
  match ArrivalPrediction.first? predictions with
  | some p => if e.isOwn p then predictions.erase p else predictions
  | none => predictions

/-- The arriving vehicle has no prediction, or only one that is the first of the earliest. -/
def OwnIsFirst : Prop :=
  (predictions.filter e.isOwn).length ≤ 1 ∧
    ∀ p ∈ predictions, e.isOwn p = true → ArrivalPrediction.first? predictions = some p

instance : Decidable (e.OwnIsFirst predictions) := inferInstanceAs (Decidable (_ ∧ _))

end Event

/-- The order of predictions by time. -/
def ArrivalPrediction.notAfter (p q : ArrivalPrediction) : Bool := p.time ≤ q.time

namespace ArrivalPrediction

theorem notAfter_trans (p q r : ArrivalPrediction) (h : p.notAfter q) (h' : q.notAfter r) :
    p.notAfter r := by
  simp only [notAfter, decide_eq_true_eq] at *
  exact Instant.le_trans h h'

theorem notAfter_total (p q : ArrivalPrediction) : p.notAfter q || q.notAfter p := by
  simpa [notAfter] using Instant.le_total p.time q.time

theorem pairwise_mergeSort (predictions : List ArrivalPrediction) :
    (predictions.mergeSort notAfter).Pairwise fun p q => p.time ≤ q.time :=
  (List.pairwise_mergeSort notAfter_trans notAfter_total predictions).imp of_decide_eq_true

theorem first?_of_mergeSort {predictions rest : List ArrivalPrediction} {p : ArrivalPrediction}
    (h : predictions.mergeSort notAfter = p :: rest) : first? predictions = some p := by
  obtain ⟨before, after, hsplit, hbefore, hafter⟩ :=
    exists_append_of_mergeSort notAfter_trans notAfter_total h
  have hmem : p ∈ predictions := List.mem_mergeSort.mp (h ▸ List.mem_cons_self)
  refine List.find?_eq_some_iff_append.mpr ⟨?_, before, after, hsplit, ?_⟩
  · have hsorted := pairwise_mergeSort predictions
    rw [h, List.pairwise_cons] at hsorted
    rw [List.all_eq_true]
    intro q hq
    have hin : q ∈ predictions.mergeSort notAfter := List.mem_mergeSort.mpr hq
    rw [h] at hin
    rcases List.mem_cons.mp hin with rfl | hrest
    · exact decide_eq_true (Instant.le_refl _)
    · exact decide_eq_true (hsorted.1 q hrest)
  · intro q hq
    simp only [Bool.not_eq_true', List.all_eq_false]
    exact ⟨p, hmem, by simpa [notAfter] using hbefore q hq⟩

end ArrivalPrediction

namespace Event

variable {e : Event} {predictions : List ArrivalPrediction}

/-! ## What counts -/

theorem arrivalsBehind_nil (e : Event) : HoldingSettings.arrivalsBehind e [] = [] := by
  simp [HoldingSettings.arrivalsBehind]

theorem arrivalsBehind_of_mergeSort {first : ArrivalPrediction} {rest : List ArrivalPrediction}
    (h : predictions.mergeSort ArrivalPrediction.notAfter = first :: rest) :
    HoldingSettings.arrivalsBehind e predictions =
      ((if e.isOwn first then rest else first :: rest).map ArrivalPrediction.time).map
        Instant.millis := by
  have hsort : predictions.mergeSort (fun p q => decide (p.time ≤ q.time)) = first :: rest := h
  simp only [HoldingSettings.arrivalsBehind, hsort, isOwn, decide_eq_true_eq, List.map_map]
  rfl

theorem counted_of_mergeSort {first : ArrivalPrediction} {rest : List ArrivalPrediction}
    (h : predictions.mergeSort ArrivalPrediction.notAfter = first :: rest) :
    (if e.isOwn first then rest else first :: rest).Perm (e.counted predictions) := by
  have hperm : (first :: rest).Perm predictions := h ▸ List.mergeSort_perm predictions _
  rw [counted, ArrivalPrediction.first?_of_mergeSort h]
  simp only
  split
  · exact (List.cons_perm_iff_perm_erase.mp hperm).2
  · exact hperm

/-- The arrivals behind a vehicle are the times of the predictions that count, in order. -/
theorem exists_arrivalsBehind (e : Event) (predictions : List ArrivalPrediction) :
    ∃ ts : List Instant, ts.Perm ((e.counted predictions).map ArrivalPrediction.time) ∧
      ts.Pairwise (· ≤ ·) ∧
      HoldingSettings.arrivalsBehind e predictions = ts.map Instant.millis := by
  cases hsort : predictions.mergeSort ArrivalPrediction.notAfter with
  | nil =>
    have hperm := List.mergeSort_perm predictions ArrivalPrediction.notAfter
    rw [hsort] at hperm
    obtain rfl := List.nil_perm.mp hperm
    exact ⟨[], List.Perm.refl _, List.Pairwise.nil, arrivalsBehind_nil e⟩
  | cons first rest =>
    refine ⟨_, (counted_of_mergeSort hsort).map _, ?_, arrivalsBehind_of_mergeSort hsort⟩
    have hsorted := ArrivalPrediction.pairwise_mergeSort predictions
    rw [hsort] at hsorted
    refine List.pairwise_map.mpr ?_
    split
    · exact (List.pairwise_cons.mp hsorted).2
    · exact hsorted

/-- Predictions that count with the same times give the same arrivals behind. -/
theorem arrivalsBehind_congr {other : List ArrivalPrediction}
    (h : ((e.counted predictions).map ArrivalPrediction.time).Perm
      ((e.counted other).map ArrivalPrediction.time)) :
    HoldingSettings.arrivalsBehind e predictions = HoldingSettings.arrivalsBehind e other := by
  obtain ⟨ts, hts, hsorted, hbehind⟩ := exists_arrivalsBehind e predictions
  obtain ⟨us, hus, husorted, hother⟩ := exists_arrivalsBehind e other
  have heq : ts = us :=
    List.Perm.eq_of_pairwise (fun _ _ _ _ hle hge => Instant.le_antisymm hle hge) hsorted husorted
      ((hts.trans h).trans hus.symm)
  rw [hbehind, hother, heq]

/-! ## What is predicted for others -/

theorem own_append_others_perm (e : Event) (predictions : List ArrivalPrediction) :
    (predictions.filter e.isOwn ++ e.others predictions).Perm predictions :=
  List.filter_append_perm _ _

theorem ownIsFirst_of_filter_eq_nil (h : predictions.filter e.isOwn = []) :
    e.OwnIsFirst predictions := by
  refine ⟨by simp [h], fun p hp hown => ?_⟩
  exact absurd (List.mem_filter.mpr ⟨hp, hown⟩) (by simp [h])

/-- If as many predictions count as there are for others, then at most the first was left out. -/
theorem ownIsFirst_of_length_eq
    (h : (e.counted predictions).length = (e.others predictions).length) :
    e.OwnIsFirst predictions := by
  have hlength := (own_append_others_perm e predictions).length_eq
  rw [List.length_append] at hlength
  have hall (hnone : (predictions.filter e.isOwn).length = 0) : e.OwnIsFirst predictions :=
    ownIsFirst_of_filter_eq_nil (List.length_eq_zero_iff.mp hnone)
  unfold counted at h
  split at h
  · rename_i first hfirst
    have hmem := List.mem_of_find?_eq_some hfirst
    split at h
    · rename_i hfor
      have hpos := List.length_pos_of_mem hmem
      rw [List.length_erase_of_mem hmem] at h
      have hone : (predictions.filter e.isOwn).length = 1 := by omega
      obtain ⟨only, honly⟩ := List.length_eq_one_iff.mp hone
      refine ⟨by omega, fun p hp hown => ?_⟩
      have hp := List.mem_filter.mpr ⟨hp, hown⟩
      have hfor := List.mem_filter.mpr ⟨hmem, hfor⟩
      rw [honly, List.mem_singleton] at hp hfor
      rw [hfirst, hp, hfor]
    · exact hall (by omega)
  · exact hall (by omega)

theorem OwnIsFirst.counted_perm_others (h : e.OwnIsFirst predictions) :
    (e.counted predictions).Perm (e.others predictions) := by
  obtain ⟨hle, hfirst⟩ := h
  have hsplit := own_append_others_perm e predictions
  unfold counted
  cases hfilter : predictions.filter e.isOwn with
  | nil =>
    rw [hfilter, List.nil_append] at hsplit
    split
    · rename_i first hsome
      rw [if_neg]
      · exact hsplit.symm
      · intro hfor
        have hown := List.mem_filter.mpr ⟨List.mem_of_find?_eq_some hsome, hfor⟩
        simp [hfilter] at hown
    · exact hsplit.symm
  | cons only rest =>
    have hrest : rest = [] := by
      rw [hfilter, List.length_cons] at hle
      exact List.length_eq_zero_iff.mp (by omega)
    obtain ⟨hmem, hfor⟩ := List.mem_filter.mp (hfilter ▸ List.mem_cons_self)
    rw [hfilter, hrest, List.singleton_append] at hsplit
    rw [hfirst only hmem hfor]
    simp only [hfor, if_true]
    exact (List.cons_perm_iff_perm_erase.mp hsplit).2.symm

/-- What counts is what is predicted for others exactly if the arriving vehicle has no prediction,
or only one that is the first of the earliest. -/
theorem counted_perm_others_iff :
    ((e.counted predictions).map ArrivalPrediction.time).Perm
        ((e.others predictions).map ArrivalPrediction.time) ↔ e.OwnIsFirst predictions := by
  constructor
  · intro h
    have hlength := h.length_eq
    rw [List.length_map, List.length_map] at hlength
    exact ownIsFirst_of_length_eq hlength
  · intro h
    exact h.counted_perm_others.map _

end Event

end Headway
