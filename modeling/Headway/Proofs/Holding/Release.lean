import Headway.Holding.Basic
import Headway.Proofs.Holding.Rule
import Headway.Proofs.Instant
import Headway.Scalar

/-!
# When a vehicle may leave

The wait of a vehicle is never negative and never above the limit (`HoldingSettings.wait_nonneg`,
`HoldingSettings.wait_le`). Outside leap seconds its release is exactly that long after the arrival,
except where the calendar ends before; then it may leave at once
(`HoldingSettings.release_holdFrom`).

The time between two instants can be taken off a planned headway within 64 bits, unless that is
close to their least number (`HoldingSettings.planned_sub_bounds`).
-/

namespace Headway

/-- The time between two instants is less than this, in milliseconds. -/
def calendarMillis : Nat := 16544868105601000

theorem Instant.natAbs_millis_sub_lt (a b : Instant) :
    (a.millis - b.millis).natAbs < calendarMillis := by
  have ha := And.intro a.first_le a.lt_end
  have hb := And.intro b.first_le b.lt_end
  have hna := a.nano_lt
  have hnb := b.nano_lt
  simp only [firstDayNumber, lastDayNumber] at ha hb
  simp only [millis, calendarMillis]
  omega

namespace HoldingSettings

variable (s : HoldingSettings) (e : Event) (predictions : List ArrivalPrediction)
  (reference : Option Instant)

/-- The planned headway is a 64-bit number, and not so close to the least one that taking off the
time between two instants could lead below it. -/
def PlanFits : Prop :=
  leastMillis + calendarMillis ≤ s.plannedHeadway ∧ s.plannedHeadway ≤ greatestMillis

instance : Decidable s.PlanFits :=
  inferInstanceAs (Decidable
    (leastMillis + calendarMillis ≤ s.plannedHeadway ∧ s.plannedHeadway ≤ greatestMillis))

variable {s} in
theorem planned_sub_bounds (h : s.PlanFits) (a b : Instant) :
    leastMillis ≤ s.plannedHeadway - (a.millis - b.millis).natAbs ∧
      s.plannedHeadway - (a.millis - b.millis).natAbs ≤ greatestMillis := by
  obtain ⟨hleast, hgreatest⟩ := h
  have hlt := Instant.natAbs_millis_sub_lt a b
  omega

/-- How long a vehicle is to wait, in milliseconds. -/
def wait : Int :=
  min (s.amount e.millis (reference.map Instant.millis) (arrivalsBehind e predictions)).1
    s.maxHolding

theorem amount_nonneg (arrival : Int) (departure : Option Int) (behind : List Int) :
    0 ≤ (s.amount arrival departure behind).1 := by
  unfold amount
  split
  · exact Int.le_refl 0
  · split
    · exact le_max_left _ _
    · exact le_max_left _ _

theorem wait_nonneg (h : 0 ≤ s.maxHolding) : 0 ≤ s.wait e predictions reference :=
  le_min (s.amount_nonneg _ _ _) h

theorem wait_le : s.wait e predictions reference ≤ s.maxHolding := min_le_right _ _

theorem wait_none (h : 0 ≤ s.maxHolding) : s.wait e predictions none = 0 := min_eq_left h

/-- With at most one arrival behind, the wait is the one by plan. -/
theorem wait_of_few (hfew : (arrivalsBehind e predictions).length ≤ 1) (r : Instant) :
    s.wait e predictions (some r) =
      min (Holding.byPlan e.millis r.millis s.plannedHeadway) s.maxHolding := by
  unfold wait amount
  rw [Option.map_some]
  simp only
  rw [if_neg (by omega)]

theorem release_holdFrom_eq :
    (s.holdFrom e predictions reference).release =
      (e.time.addMillis? (s.wait e predictions reference)).getD e.time := rfl

variable {e}

/-- Outside leap seconds a vehicle is released after its wait, or at once where the calendar ends
before. -/
theorem release_holdFrom (hleap : e.time.isLeap = false) :
    (e.time.addMillis? (s.wait e predictions reference) = none ∧
      (s.holdFrom e predictions reference).release = e.time) ∨
    (s.holdFrom e predictions reference).release.millis =
        e.millis + s.wait e predictions reference ∧
      (s.holdFrom e predictions reference).millis = s.wait e predictions reference := by
  have hrelease := s.release_holdFrom_eq e predictions reference
  cases hadd : e.time.addMillis? (s.wait e predictions reference) with
  | none =>
    rw [hadd, Option.getD_none] at hrelease
    exact Or.inl ⟨rfl, hrelease⟩
  | some t =>
    rw [hadd, Option.getD_some] at hrelease
    refine Or.inr ⟨?_, ?_⟩
    · rw [hrelease]
      exact Instant.millis_addMillis? hleap hadd
    · unfold Hold.millis
      rw [hrelease]
      exact Instant.millisSince_addMillis? hleap hadd

theorem millis_holdFrom (hleap : e.time.isLeap = false) (h : 0 ≤ s.maxHolding) :
    0 ≤ (s.holdFrom e predictions reference).millis ∧
      (s.holdFrom e predictions reference).millis ≤ s.maxHolding := by
  rcases s.release_holdFrom predictions reference hleap with ⟨-, hrelease⟩ | ⟨-, hmillis⟩
  · have hzero : (s.holdFrom e predictions reference).millis = 0 := by
      unfold Hold.millis
      rw [hrelease]
      exact Instant.millisSince_self e.time
    omega
  · rw [hmillis]
    exact ⟨s.wait_nonneg e predictions reference h, s.wait_le e predictions reference⟩

/-- Without a departure ahead a vehicle may leave at once. -/
theorem release_holdFrom_none (h : 0 ≤ s.maxHolding) :
    (s.holdFrom e predictions none).release = e.time ∧
      (s.holdFrom e predictions none).millis = 0 := by
  have hrelease : (s.holdFrom e predictions none).release = e.time := by
    rw [release_holdFrom_eq, s.wait_none e predictions h, Instant.addMillis?_zero,
      Option.getD_some]
  refine ⟨hrelease, ?_⟩
  unfold Hold.millis
  rw [hrelease]
  exact Instant.millisSince_self e.time

end HoldingSettings

end Headway
