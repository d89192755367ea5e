import Headway.Calendar.Day

/-!
# The year of a day

The date of a day is computed by division, from the number of days that have passed in its cycle of
400 years. To find the year, the leap days among them are taken out, each at the end of its year,
and the rest is divided by 365. What is left never falls as days pass
(`Day.withoutLeapDays_mono`), and at the first and the last day of each year of a cycle it lies on
the right side of a multiple of 365. So a day lies in the year that its date names
(`Day.newYear_civil`).
-/

namespace Headway

namespace Day

/-! ## Years from March -/

/-- The days before a year in a count of years that starts with the year 0. -/
def daysBefore (year : Int) : Int := year * 365 + year / 4 - year / 100 + year / 400

theorem daysBefore_add_cycles (year cycle : Int) :
    daysBefore (year + cycle * 400) = daysBefore year + cycle * 146097 := by
  have h4 : (year + cycle * 400) / 4 = year / 4 + cycle * 100 := by omega
  have h100 : (year + cycle * 400) / 100 = year / 100 + cycle * 4 := by omega
  have h400 : (year + cycle * 400) / 400 = year / 400 + cycle := by omega
  simp only [daysBefore, h4, h100, h400]
  omega

/-- A year has 365 days or 366. -/
theorem daysBefore_succ (year : Int) :
    daysBefore year + 365 ≤ daysBefore (year + 1) ∧
      daysBefore (year + 1) ≤ daysBefore year + 366 := by
  simp only [daysBefore]
  omega

/-- The number of the first of March. -/
def marchStart (year : Int) : Int := daysBefore year - 719468

theorem marchStart_succ (year : Int) : marchStart year + 365 ≤ marchStart (year + 1) := by
  have := daysBefore_succ year
  simp only [marchStart]
  omega

theorem marchStart_mono {year later : Int} (h : year ≤ later) :
    marchStart year ≤ marchStart later := by
  simp only [marchStart, daysBefore]
  omega

theorem numberOfCivil_of_march {year : Int} {month day : Nat} (h : 2 < month) :
    numberOfCivil year month day = marchStart year + (153 * (month - 3) + 2) / 5 + day - 1 := by
  simp only [numberOfCivil, if_neg (show ¬ month ≤ 2 by omega), if_pos h, marchStart, daysBefore]
  omega

/-- The number of the first of January: 306 days after the first of March before it. -/
def newYear (year : Int) : Int := numberOfCivil year 1 1

theorem newYear_succ (year : Int) : newYear (year + 1) = marchStart year + 306 := by
  simp only [newYear, numberOfCivil, marchStart, daysBefore]
  omega

theorem newYear_eq (year : Int) : newYear year = marchStart (year - 1) + 306 := by
  rw [← newYear_succ, Int.sub_add_cancel]

theorem newYear_mono {year later : Int} (h : year ≤ later) : newYear year ≤ newYear later := by
  rw [newYear_eq, newYear_eq]
  have := marchStart_mono (show year - 1 ≤ later - 1 by omega)
  omega

/-! ## Years of a cycle -/

/-- The days of a cycle of 400 years that have passed, without the leap days. -/
def withoutLeapDays (n : Int) : Int := n - n / 1460 + n / 36524 - n / 146096

theorem withoutLeapDays_mono {m n : Int} (h : m ≤ n) : withoutLeapDays m ≤ withoutLeapDays n := by
  unfold withoutLeapDays
  omega

/-- At the ends of each year of a cycle. -/
theorem withoutLeapDays_at_ends : ∀ year ∈ List.range 400,
    (year : Int) * 365 ≤ withoutLeapDays (daysBefore year) ∧
      withoutLeapDays (daysBefore (year + 1) - 1) < ((year : Int) + 1) * 365 := by
  decide +kernel

theorem year_of_dayOfCycle {n : Int} (h0 : 0 ≤ n) (hn : n < 146097) :
    let year := withoutLeapDays n / 365
    (0 ≤ year ∧ year < 400) ∧ daysBefore year ≤ n ∧ n < daysBefore (year + 1) := by
  intro year
  have hlow : withoutLeapDays 0 ≤ withoutLeapDays n := withoutLeapDays_mono h0
  have hhigh : withoutLeapDays n ≤ withoutLeapDays 146096 := withoutLeapDays_mono (by omega)
  rw [show withoutLeapDays 0 = 0 from rfl] at hlow
  rw [show withoutLeapDays 146096 = 145999 from rfl] at hhigh
  have hyear : 0 ≤ year ∧ year < 400 := by omega
  have hends (y : Int) (hy : 0 ≤ y ∧ y < 400) := withoutLeapDays_at_ends y.toNat
    (List.mem_range.mpr (by omega))
  refine ⟨hyear, ?_, ?_⟩
  -- a day before the start of the year would have less than the year's multiple of 365
  · rcases Int.lt_or_le n (daysBefore year) with hbefore | hle
    · obtain ⟨-, hlast⟩ := hends (year - 1) (by simp only [daysBefore] at hbefore; omega)
      rw [Int.toNat_of_nonneg (by simp only [daysBefore] at hbefore; omega)] at hlast
      rw [Int.sub_add_cancel] at hlast
      have hmono := withoutLeapDays_mono (show n ≤ daysBefore year - 1 by omega)
      omega
    · exact hle
  -- and one past its end would have at least the next
  · rcases Int.lt_or_le n (daysBefore (year + 1)) with hlt | hafter
    · exact hlt
    · have hnext : year + 1 < 400 := by simp only [daysBefore] at hafter; omega
      obtain ⟨hfirst, -⟩ := hends (year + 1) (by omega)
      rw [Int.toNat_of_nonneg (by omega)] at hfirst
      have hmono := withoutLeapDays_mono hafter
      omega

/-! ## The year of a date -/

/-- The date of a day names the year from March in which it lies, or the one after it for the last
two months. -/
theorem year_civil (d : Day) :
    ∃ year, (marchStart year ≤ d.number ∧ d.number < marchStart (year + 1)) ∧
      d.civil.year = if marchStart year + 306 ≤ d.number then year + 1 else year := by
  have hsplit := Int.emod_add_mul_ediv (d.number + 719468) 146097
  obtain ⟨hyear, hle, hlt⟩ := year_of_dayOfCycle
    (Int.emod_nonneg (d.number + 719468) (by omega)) (Int.emod_lt_of_pos _ (by omega))
  generalize hcycle : (d.number + 719468) / 146097 = cycle at hsplit
  generalize (d.number + 719468) % 146097 = dayOfCycle at hsplit hyear hle hlt
  have hpassed : d.number + 719468 - cycle * 146097 = dayOfCycle := by omega
  generalize hyearOf : withoutLeapDays dayOfCycle / 365 = yearOfCycle at hyear hle hlt
  have hstart : marchStart (yearOfCycle + cycle * 400) =
      d.number - (dayOfCycle - (365 * yearOfCycle + yearOfCycle / 4 - yearOfCycle / 100)) := by
    rw [marchStart, daysBefore_add_cycles, daysBefore]
    omega
  have hnext : d.number < marchStart (yearOfCycle + cycle * 400 + 1) := by
    rw [marchStart, Int.add_right_comm, daysBefore_add_cycles]
    omega
  have hday : 0 ≤ dayOfCycle - (365 * yearOfCycle + yearOfCycle / 4 - yearOfCycle / 100) ∧
      dayOfCycle - (365 * yearOfCycle + yearOfCycle / 4 - yearOfCycle / 100) < 366 := by
    have := daysBefore_succ yearOfCycle
    rw [show daysBefore yearOfCycle = 365 * yearOfCycle + yearOfCycle / 4 - yearOfCycle / 100 by
      rw [daysBefore]; omega] at this hle
    omega
  refine ⟨yearOfCycle + cycle * 400, ⟨by omega, hnext⟩, ?_⟩
  unfold withoutLeapDays at hyearOf
  simp only [civil, hcycle, hpassed, hyearOf, hstart]
  generalize dayOfCycle - (365 * yearOfCycle + yearOfCycle / 4 - yearOfCycle / 100) = dayOfYear at *
  -- the months from January on are those of which the number from March is 10 or more
  by_cases hmonth : (5 * dayOfYear + 2) / 153 < 10
  · rw [if_pos hmonth, if_neg (by omega), if_neg (by omega)]
  · rw [if_neg hmonth, if_pos (by omega), if_pos (by omega)]

/-- A day lies in the year that its date names. -/
theorem newYear_civil (d : Day) :
    newYear d.civil.year ≤ d.number ∧ d.number < newYear (d.civil.year + 1) := by
  obtain ⟨year, ⟨hle, hlt⟩, hyear⟩ := d.year_civil
  have hbefore := marchStart_succ (year - 1)
  rw [Int.sub_add_cancel] at hbefore
  rw [hyear, newYear_eq, newYear_succ]
  split
  · rw [Int.add_sub_cancel]
    omega
  · omega

end Day

end Headway
