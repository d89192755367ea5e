import Headway.Observation.EventLog
import Headway.Schedule
import Headway.ServiceClock

/-!
# Trip histories

The events of each run of a trip. A run is named by the trip, a service day and a start: the
scheduled start, or the time bucket of the run's start for a trip that runs by frequency. An event
is filed under its own service day and under a number of days before it.
-/

namespace Headway

/-- Events by run, and the number of days under which an event is filed. -/
structure TripHistory where
  log : EventLog TripKey
  daysToPopulate : Nat

namespace TripHistory

/-- The history without events. At least one day is populated. -/
def new (retentionDays daysToPopulate : Nat) : TripHistory :=
  ⟨EventLog.new retentionDays, max daysToPopulate 1⟩

/-- The start that names a run; unknown (`none`) when the trip runs by frequency and the start of
the run is not given. -/
def runStart (clock : ServiceClock) (trip : Trip) (frequencyStart : Option Instant) :
    Except NoLocalTime (Option (Option Int)) :=
  if trip.byFrequency then
    match frequencyStart with
    | some t => (clock.bucket t).map fun b => some (some b)
    | none => .ok none
  else
    .ok (some trip.start)

/-- Files an event under a day and the days before it, as many as are given and as the calendar
has. -/
def fileBack (today : Day) (e : Event) (start : Option Int) :
    Nat → Day → EventLog TripKey → EventLog TripKey
  | 0, _, log => log
  | n + 1, day, log =>
    let log := log.push today ⟨e.tripId, day, start⟩ e
    match day.addDays? (-1) with
    | some earlier => fileBack today e start n earlier log
    | none => log

/-- Files an event under its run on a service day. -/
def file (history : TripHistory) (today : Day) (e : Event) (start : Option Int)
    (serviceDay : Day) : TripHistory :=
  { history with log := fileBack today e start history.daysToPopulate serviceDay history.log }

/-- Files an event under its run, and answers the key of its own service day; nothing is filed when
the run is unknown. -/
def record (history : TripHistory) (clock : ServiceClock) (today : Day) (trip : Trip) (e : Event) :
    Except NoLocalTime (TripHistory × Option TripKey) := do
  match ← runStart clock trip e.frequencyStart with
  | none => return (history, none)
  | some start =>
    let day ← clock.serviceDay e.time
    return (history.file today e start day, some ⟨e.tripId, day, start⟩)

/-- Drops the runs whose days are no longer kept. -/
def evict (history : TripHistory) : TripHistory := { history with log := history.log.evict }

end TripHistory

end Headway
