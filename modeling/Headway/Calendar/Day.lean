/-!
# Calendar days

A day is the number of days since 1 January 1970 in the proleptic Gregorian calendar, between
1 January of the year -262143 and 31 December of the year 262142. The bounds are part of the type:
moving a day past either end has no result.

* `Day.ofCivil?` and `Day.civil` go from year, month and day of the month to a day and back;
* `Day.addDays?` moves a day, and `Day.number_addDays?` is its law.
-/

namespace Headway

/-- Days since 1 January 1970 of the first day of the calendar. -/
def firstDayNumber : Int := -96465292

/-- Days since 1 January 1970 of the last day of the calendar. -/
def lastDayNumber : Int := 95026236

/-- One day of the calendar. -/
structure Day where
  number : Int
  first_le : firstDayNumber ≤ number
  le_last : number ≤ lastDayNumber
  deriving DecidableEq

namespace Day

theorem ext {a b : Day} (h : a.number = b.number) : a = b := by
  cases a
  cases b
  cases h
  rfl

instance : LE Day := ⟨fun a b => a.number ≤ b.number⟩

instance : LT Day := ⟨fun a b => a.number < b.number⟩

instance (a b : Day) : Decidable (a ≤ b) := inferInstanceAs (Decidable (a.number ≤ b.number))

instance (a b : Day) : Decidable (a < b) := inferInstanceAs (Decidable (a.number < b.number))

/-- The later of two days. -/
def latest (a b : Day) : Day := if a ≤ b then b else a

/-- The day with a number, if the calendar has it. -/
def ofNumber? (n : Int) : Option Day :=
  if h : firstDayNumber ≤ n ∧ n ≤ lastDayNumber then some ⟨n, h.1, h.2⟩ else none

/-- The day that many days later, earlier when negative. -/
def addDays? (d : Day) (n : Int) : Option Day := ofNumber? (d.number + n)

theorem ofNumber?_eq_some_iff {n : Int} {d : Day} : ofNumber? n = some d ↔ d.number = n := by
  unfold ofNumber?
  split
  · rename_i h
    rw [Option.some.injEq]
    exact ⟨fun he => he ▸ rfl, fun he => ext he.symm⟩
  · rename_i h
    constructor
    · intro he
      cases he
    · intro he
      exact absurd ⟨he ▸ d.first_le, he ▸ d.le_last⟩ h

theorem number_addDays? {d e : Day} {n : Int} : d.addDays? n = some e ↔ e.number = d.number + n :=
  ofNumber?_eq_some_iff

theorem ofNumber?_eq_none_iff {n : Int} :
    ofNumber? n = none ↔ ¬ (firstDayNumber ≤ n ∧ n ≤ lastDayNumber) := by
  unfold ofNumber?
  split
  · rename_i h
    simp [h]
  · rename_i h
    simp [h]

theorem addDays?_eq_none_iff {d : Day} {n : Int} :
    d.addDays? n = none ↔ ¬ (firstDayNumber ≤ d.number + n ∧ d.number + n ≤ lastDayNumber) :=
  ofNumber?_eq_none_iff

theorem number_latest (a b : Day) : (latest a b).number = max a.number b.number := by
  unfold latest
  split
  · rename_i h
    exact (Int.max_eq_right h).symm
  · rename_i h
    exact (Int.max_eq_left (Int.le_of_lt (Int.not_le.mp h))).symm

/-! ## Years and months -/

/-- A year with 366 days. -/
def isLeapYear (year : Int) : Bool := year % 4 == 0 && (year % 100 != 0 || year % 400 == 0)

/-- The length of a month; 0 for a number that is no month. -/
def daysInMonth (year : Int) (month : Nat) : Nat :=
  match month with
  | 1 | 3 | 5 | 7 | 8 | 10 | 12 => 31
  | 4 | 6 | 9 | 11 => 30
  | 2 => if isLeapYear year then 29 else 28
  | _ => 0

/-- The number of a date. Years are counted from March, so that a leap day ends its year, and in
cycles of 400 years, which have 146097 days each. -/
def numberOfCivil (year : Int) (month day : Nat) : Int :=
  let y : Int := if month ≤ 2 then year - 1 else year
  let cycle := y / 400
  let yearOfCycle := y - cycle * 400
  let monthFromMarch : Int := if month > 2 then month - 3 else month + 9
  let dayOfYear := (153 * monthFromMarch + 2) / 5 + day - 1
  let dayOfCycle := yearOfCycle * 365 + yearOfCycle / 4 - yearOfCycle / 100 + dayOfYear
  cycle * 146097 + dayOfCycle - 719468

/-- The day of a date, if there is such a date and the calendar has it. -/
def ofCivil? (year : Int) (month day : Nat) : Option Day :=
  if 1 ≤ day ∧ day ≤ daysInMonth year month then ofNumber? (numberOfCivil year month day) else none

/-- Year, month and day of the month. -/
structure Civil where
  year : Int
  month : Nat
  day : Nat
  deriving DecidableEq

/-- The date of a day. -/
def civil (d : Day) : Civil :=
  let z := d.number + 719468
  let cycle := z / 146097
  let dayOfCycle := z - cycle * 146097
  let yearOfCycle :=
    (dayOfCycle - dayOfCycle / 1460 + dayOfCycle / 36524 - dayOfCycle / 146096) / 365
  let dayOfYear := dayOfCycle - (365 * yearOfCycle + yearOfCycle / 4 - yearOfCycle / 100)
  let monthFromMarch := (5 * dayOfYear + 2) / 153
  let month := if monthFromMarch < 10 then monthFromMarch + 3 else monthFromMarch - 9
  let year := yearOfCycle + cycle * 400
  { year := if month ≤ 2 then year + 1 else year
    month := month.toNat
    day := (dayOfYear - (153 * monthFromMarch + 2) / 5 + 1).toNat }

end Day

end Headway
