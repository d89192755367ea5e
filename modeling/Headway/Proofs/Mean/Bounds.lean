import Headway.Proofs.Mean.Exact
import Headway.Mean.Store

/-!
# Bounds on means

A mean lies within any bounds that hold for its samples. So when all samples of a leg lie within the
bounds for that leg, every mean that a store holds does, however often it was started afresh.
-/

namespace Headway

namespace Mean

/-- The mean rests on no samples, or it lies between two numbers. -/
def Within (lo hi : ℝ) (m : Mean ℝ) : Prop := m.count ≠ 0 → m.value ∈ Set.Icc lo hi

theorem within_none (lo hi : ℝ) : (none : Mean ℝ).Within lo hi := fun h => absurd rfl h

theorem Within.add {lo hi x : ℝ} {m : Mean ℝ} (h : m.Within lo hi) (hx : x ∈ Set.Icc lo hi) :
    (m.add x).Within lo hi := by
  intro _
  rw [value_add]
  have hpos : (0 : ℝ) < m.count + 1 := by positivity
  rcases Nat.eq_zero_or_pos m.count with hzero | hcount
  · simpa [hzero] using hx
  · obtain ⟨hlo, hhi⟩ := h (by omega)
    have hnonneg : (0 : ℝ) ≤ m.count := Nat.cast_nonneg _
    constructor
    · rw [le_div_iff₀ hpos]
      nlinarith [hx.1]
    · rw [div_le_iff₀ hpos]
      nlinarith [hx.2]

end Mean

namespace MeanStore

variable {lo hi : Leg → ℝ}

/-- Every mean held rests on samples and lies within the bounds for its leg. -/
def Within (lo hi : Leg → ℝ) (s : MeanStore ℝ) : Prop :=
  ∀ k e, s.entries.get? k = some e →
    e.mean.count ≠ 0 ∧ e.mean.Within (lo k.leg) (hi k.leg)

theorem within_new (days : Nat) : (new days : MeanStore ℝ).Within lo hi := by
  intro k e he
  cases he

namespace Within

variable {s : MeanStore ℝ}

theorem get? (h : s.Within lo hi) {k : SegmentKey} {m : Mean ℝ} (hm : s.get? k = some m) :
    m.value ∈ Set.Icc (lo k.leg) (hi k.leg) := by
  obtain ⟨e, he, rfl⟩ := Option.map_eq_some_iff.mp hm
  obtain ⟨hcount, hwithin⟩ := h k e (Option.filter_eq_some_iff.mp he).1
  exact hwithin hcount

theorem evict (h : s.Within lo hi) : s.evict.Within lo hi := by
  intro k e he
  rw [MeanStore.evict, Table.get?_retain, Option.filter_eq_some_iff] at he
  exact h k e he.1

theorem base (h : s.Within lo hi) (k : SegmentKey) (r : Retention) :
    (MeanStore.base (s.entries.get? k) r).Within (lo k.leg) (hi k.leg) := by
  cases hk : s.entries.get? k with
  | none => exact Mean.within_none _ _
  | some e =>
    change (if r.isLive e.lastDay then e.mean else Mean.none).Within _ _
    split
    · exact (h k e hk).2
    · exact Mean.within_none _ _

theorem update (h : s.Within lo hi) (today : Day) (k : SegmentKey) {x : ℝ} (day : Day)
    (hx : x ∈ Set.Icc (lo k.leg) (hi k.leg)) : (s.update today k x day).1.Within lo hi := by
  intro k' e he
  rw [MeanStore.update, Table.get?_put] at he
  split at he
  · rename_i hk
    subst hk
    cases he
    exact ⟨Nat.succ_ne_zero _, (h.base k _).add hx⟩
  · exact h k' e he

end Within

end MeanStore

end Headway
