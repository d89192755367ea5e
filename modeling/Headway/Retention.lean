import Headway.Calendar.Day

/-!
# Retention

What is filed under a day is kept for a number of days behind the latest day that was observed, so
that a replayed stream of events ages as a live one does. A day past tomorrow never becomes the
latest, whatever arrives under it: otherwise one misdated event would age out the present.

* `Retention.observe` moves the latest day forward only (`latest_observe`);
* `Retention.isLive` tells whether a day is still within reach.
-/

namespace Headway

/-- For how many days entries are kept, and the latest day observed so far. -/
structure Retention where
  days : Nat
  latest : Option Day
  deriving DecidableEq

namespace Retention

/-- Nothing observed yet. -/
def new (days : Nat) : Retention := ⟨days, none⟩

/-- A day may be observed when it is at most one day past today. -/
def admits (today day : Day) : Bool := day.number ≤ today.number + 1

/-- Takes note of a day. -/
def observe (r : Retention) (today day : Day) : Retention :=
  if admits today day then
    { r with latest := some (match r.latest with | none => day | some l => Day.latest l day) }
  else
    r

/-- Entries of a day are still kept. Before any observation every day is. -/
def isLive (r : Retention) (day : Day) : Bool :=
  match r.latest with
  | none => true
  | some l => l.number - day.number ≤ r.days

theorem days_observe (r : Retention) (today day : Day) : (r.observe today day).days = r.days := by
  unfold observe
  split <;> rfl

theorem latest_observe (r : Retention) (today day : Day) (h : admits today day = true) :
    (r.observe today day).latest =
      some (match r.latest with | none => day | some l => Day.latest l day) := by
  rw [observe, if_pos h]

theorem observe_of_not_admits (r : Retention) {today day : Day} (h : admits today day = false) :
    r.observe today day = r := by
  rw [observe, h]
  rfl

end Retention

end Headway
