import Headway.Calendar.Instant

/-!
# Time zones

A zone gives the offset of local time from UTC at every second. It starts with one offset, goes
through a list of changes, and may end with a rule that switches between standard and summer time
every year. The rule is applied through the year 2099; later years keep the offset of its end.

`Zone.local?` is local time as an instant of the same calendar: it has no value where local time
falls outside the calendar.
-/

namespace Headway

/-- A switch on the first Sunday of a month that is not before a given day, a number of seconds
after the start of that Sunday in UTC. -/
structure YearlySwitch where
  month : Nat
  onOrAfter : Nat
  second : Int

/-- Summer time every year from one switch to another. -/
structure YearlyRule where
  firstYear : Int
  standard : Int
  summer : Int
  start : YearlySwitch
  stop : YearlySwitch

/-- The offset of local time from UTC, in seconds, for every second. -/
structure Zone where
  initial : Int
  changes : List (Int × Int) := []
  yearly : Option YearlyRule := none

namespace YearlySwitch

/-- The second of a year at which a switch takes place. -/
def secondIn (s : YearlySwitch) (year : Int) : Int :=
  let n := Day.numberOfCivil year s.month s.onOrAfter
  let untilSunday := (7 - (n + 4) % 7) % 7
  (n + untilSunday) * 86400 + s.second

end YearlySwitch

namespace YearlyRule

/-- The last year in which the switches of a rule take place. -/
def lastYear : Int := 2099

/-- The second at which a year starts. -/
def yearStart (year : Int) : Int := Day.numberOfCivil year 1 1 * 86400

/-- The year of a second, between the rule's first year and the last one. -/
def yearOf (r : YearlyRule) (second : Int) : Int :=
  match Day.ofNumber? (second / 86400) with
  | some d => max r.firstYear (min lastYear d.civil.year)
  | none => lastYear

/-- The offset by the rule: summer time between the two switches of the second's year, which come in
the other order south of the equator. -/
def offsetAt (r : YearlyRule) (second : Int) : Int :=
  let year := r.yearOf second
  let start := r.start.secondIn year
  let stop := r.stop.secondIn year
  let inSummer :=
    if start ≤ stop then start ≤ second ∧ second < stop else second < stop ∨ start ≤ second
  if inSummer then r.summer else r.standard

end YearlyRule

namespace Zone

/-- The offset by the list of changes: that of the last one not after a second. -/
def listedOffset (z : Zone) (second : Int) : Int :=
  z.changes.foldl (fun offset c => if c.1 ≤ second then c.2 else offset) z.initial

/-- The offset of local time from UTC at a second, in seconds. -/
def offsetAt (z : Zone) (second : Int) : Int :=
  match z.yearly with
  | some r => if YearlyRule.yearStart r.firstYear ≤ second then r.offsetAt second
      else z.listedOffset second
  | none => z.listedOffset second

/-- Local time, as an instant of the same calendar. -/
def local? (z : Zone) (t : Instant) : Option Instant := t.shift? (z.offsetAt t.second)

end Zone

end Headway
