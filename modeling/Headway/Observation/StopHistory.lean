import Headway.Observation.EventLog
import Headway.ServiceClock

/-!
# Stop histories

The events at each stop on each service day, of all vehicles and trips.
-/

namespace Headway

/-- Events by stop and service day. -/
abbrev StopHistory := EventLog StopKey

namespace StopHistory

/-- Files an event under its stop and a service day. -/
def file (history : StopHistory) (today : Day) (e : Event) (serviceDay : Day) : StopHistory :=
  EventLog.push history today ⟨e.stopId, serviceDay⟩ e

/-- Files an event under its stop and its service day, and answers the key. -/
def record (history : StopHistory) (clock : ServiceClock) (today : Day) (e : Event) :
    Except NoLocalTime (StopHistory × StopKey) :=
  (clock.serviceDay e.time).map fun day => (history.file today e day, ⟨e.stopId, day⟩)

end StopHistory

end Headway
