import Headway.Holding.Rule
import Mathlib.Data.Finset.Max
import Mathlib.Order.Interval.Finset.Nat

/-!
# How long a vehicle is held

By predicted arrivals a vehicle is held for the largest share of a gap, less the time since the last
departure. The search for the largest share starts at -1. That is of no account after a departure
in the past: what is not above -1 holds nobody. But the last departure may be one to come, of a
vehicle that still waits. Then the -1 counts like a share: where no prediction is considered, or all
shares are lower, a vehicle is held up to the millisecond before that departure
(`Holding.byPredictions_largest`, and `Holding.held_without_predictions` for one such case).

By plan a vehicle leaves no earlier than the planned headway after a departure in the past, unless
the hold is cut off. After a departure to come the time until then counts as if it had passed, so
that nothing but the limit on holds keeps the headway (`Holding.headway_kept_iff`).
-/

namespace Headway

namespace Holding

/-! ## The largest share -/

theorem foldl_share_le_iff {lastDeparture start bound : Int} {arrivals : List (Int × Nat)} :
    arrivals.foldl (fun most a => max most (share lastDeparture a.1 a.2)) start ≤ bound ↔
      start ≤ bound ∧ ∀ a ∈ arrivals, share lastDeparture a.1 a.2 ≤ bound := by
  induction arrivals generalizing start with
  | nil => simp
  | cons a rest ih =>
    rw [List.foldl_cons, ih, List.forall_mem_cons]
    constructor
    · rintro ⟨hmost, hrest⟩
      exact ⟨by omega, by omega, hrest⟩
    · rintro ⟨hstart, ha, hrest⟩
      exact ⟨by omega, hrest⟩

theorem largestShare_le_iff {lastDeparture bound : Int} {arrivals : List Int} :
    largestShare lastDeparture arrivals ≤ bound ↔
      -1 ≤ bound ∧ ∀ i a, arrivals[i]? = some a → share lastDeparture a i ≤ bound := by
  rw [largestShare, foldl_share_le_iff]
  refine and_congr_right fun _ => ⟨fun h i a ha => ?_, fun h a ha => ?_⟩
  · exact h (a, i) (List.mem_zipIdx_iff_getElem?.mpr ha)
  · exact h a.2 a.1 (List.mem_zipIdx_iff_getElem?.mp ha)

/-- The shares of the predicted arrivals that are considered. -/
def shares (lastDeparture : Int) (arrivals : List Int) (maxPredictions : Nat) : Set Int :=
  {s | ∃ i a, i < maxPredictions ∧ arrivals[i]? = some a ∧ s = share lastDeparture a i}

/-- Where a prediction is considered, one share is the largest. -/
theorem exists_isGreatest_shares {arrivals : List Int} {maxPredictions : Nat}
    (harrivals : arrivals ≠ []) (hmax : maxPredictions ≠ 0) (lastDeparture : Int) :
    ∃ most, IsGreatest (shares lastDeparture arrivals maxPredictions) most := by
  have hlength : 0 < arrivals.length := List.length_pos_iff.mpr harrivals
  obtain ⟨i, hi, hmost⟩ := Finset.exists_max_image
    (Finset.range (min maxPredictions arrivals.length))
    (fun i => share lastDeparture (arrivals.getD i 0) i)
    ⟨0, by simp only [Finset.mem_range]; omega⟩
  rw [Finset.mem_range] at hi
  have hget : arrivals[i]? = some (arrivals.getD i 0) := by
    rw [List.getD_eq_getElem?_getD, List.getElem?_eq_getElem (by omega)]
    rfl
  refine ⟨_, ⟨i, _, by omega, hget, rfl⟩, ?_⟩
  rintro _ ⟨j, a, hj, ha, rfl⟩
  obtain ⟨hjlength, -⟩ := List.getElem?_eq_some_iff.mp ha
  have hle := hmost j (by rw [Finset.mem_range]; omega)
  rwa [List.getD_eq_getElem?_getD, ha] at hle

/-- The -1 at the start of the search counts like one more share. -/
theorem largestShare_take {lastDeparture most : Int} {arrivals : List Int} {maxPredictions : Nat}
    (h : IsGreatest (shares lastDeparture arrivals maxPredictions) most) :
    largestShare lastDeparture (arrivals.take maxPredictions) = max (-1) most := by
  have htake {i : Nat} {a : Int} : (arrivals.take maxPredictions)[i]? = some a ↔
      i < maxPredictions ∧ arrivals[i]? = some a := by
    rw [List.getElem?_take]
    split
    · rename_i hi
      simp [hi]
    · rename_i hi
      simp [hi]
  apply le_antisymm
  · refine largestShare_le_iff.mpr ⟨le_max_left _ _, fun i a ha => ?_⟩
    obtain ⟨hi, ha⟩ := htake.mp ha
    exact (h.2 ⟨i, a, hi, ha, rfl⟩).trans (le_max_right _ _)
  · obtain ⟨hstart, hshares⟩ := largestShare_le_iff.mp
      (le_refl (largestShare lastDeparture (arrivals.take maxPredictions)))
    obtain ⟨i, a, hi, ha, rfl⟩ := h.1
    exact max_le hstart (hshares i a (htake.mpr ⟨hi, ha⟩))

theorem byPredictions_of_none {arrivals : List Int} {maxPredictions : Nat}
    (h : arrivals = [] ∨ maxPredictions = 0) (arrival lastDeparture : Int) :
    byPredictions arrival lastDeparture arrivals maxPredictions =
      max 0 (lastDeparture - arrival - 1) := by
  have htake : arrivals.take maxPredictions = [] := by
    rcases h with rfl | rfl
    · rw [List.take_nil]
    · rw [List.take_zero]
  have hstart : largestShare lastDeparture [] = -1 := rfl
  rw [byPredictions, htake, hstart]
  omega

/-- The hold by predicted arrivals. If none is considered, nobody is held unless the last departure
is more than a millisecond ahead, and then until a millisecond before it. Otherwise the hold is the
largest share, less the time since the last departure and never negative, exactly if that share is
not below -1 or the last departure is at most a millisecond ahead. -/
theorem byPredictions_largest (arrival lastDeparture : Int) (arrivals : List Int)
    (maxPredictions : Nat) :
    ((arrivals = [] ∨ maxPredictions = 0) ∧
      byPredictions arrival lastDeparture arrivals maxPredictions =
        max 0 (lastDeparture - arrival - 1) ∧
      (byPredictions arrival lastDeparture arrivals maxPredictions = 0 ↔
        lastDeparture ≤ arrival + 1)) ∨
    (arrivals ≠ [] ∧ maxPredictions ≠ 0) ∧
      ∃ most, IsGreatest (shares lastDeparture arrivals maxPredictions) most ∧
        byPredictions arrival lastDeparture arrivals maxPredictions =
          max 0 (max (-1) most - (arrival - lastDeparture)) ∧
        (byPredictions arrival lastDeparture arrivals maxPredictions =
            max 0 (most - (arrival - lastDeparture)) ↔
          -1 ≤ most ∨ lastDeparture ≤ arrival + 1) := by
  by_cases hnone : arrivals = [] ∨ maxPredictions = 0
  · have hhold := byPredictions_of_none hnone arrival lastDeparture
    refine Or.inl ⟨hnone, hhold, ?_⟩
    rw [hhold]
    omega
  · obtain ⟨harrivals, hmax⟩ := not_or.mp hnone
    obtain ⟨most, hmost⟩ := exists_isGreatest_shares harrivals hmax lastDeparture
    have hhold : byPredictions arrival lastDeparture arrivals maxPredictions =
        max 0 (max (-1) most - (arrival - lastDeparture)) := by
      rw [byPredictions, largestShare_take hmost]
    refine Or.inr ⟨⟨harrivals, hmax⟩, most, hmost, hhold, ?_⟩
    rw [hhold]
    omega

/-- The departure of a vehicle that still waits is ten milliseconds ahead. Without predictions there
is a hold of nine, and with one predicted arrival, whose share is -5, it is nine as well. -/
theorem held_without_predictions :
    byPredictions 0 10 [] 3 ≠ 0 ∧
      IsGreatest (shares 10 [0] 3) (-5) ∧ byPredictions 0 10 [0] 3 ≠ max 0 (-5 - (0 - 10)) := by
  refine ⟨by decide, ⟨⟨0, 0, by decide, rfl, rfl⟩, ?_⟩, by decide⟩
  rintro _ ⟨i, a, -, ha, rfl⟩
  cases i with
  | zero =>
    cases ha
    decide
  | succ i => cases ha

/-! ## The planned headway -/

/-- With a hold by plan that is cut off at a limit, a vehicle leaves no earlier than the planned
headway after the last departure or, if that is earlier, at the limit: always after a departure in
the past, and only at the limit after one to come. -/
theorem headway_kept_iff {arrival lastDeparture plannedHeadway limit : Int}
    (hplan : 0 ≤ plannedHeadway) (hlimit : 0 ≤ limit) :
    min (lastDeparture + plannedHeadway) (arrival + limit) ≤
        arrival + min (byPlan arrival lastDeparture plannedHeadway) limit ↔
      lastDeparture ≤ arrival ∨ limit ≤ byPlan arrival lastDeparture plannedHeadway := by
  unfold byPlan
  omega

end Holding

end Headway
