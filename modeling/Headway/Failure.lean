import Headway.ServiceClock

/-!
# Failures

Why a request has no answer, or an estimator no estimate. Missing data is no failure: an estimator
without data answers nothing, and the next strategy is tried.
-/

namespace Headway

/-- The two ends of a traversed segment. -/
inductive SegmentEnd where
  | origin
  | destination
  deriving DecidableEq

/-- The word for an end. -/
def SegmentEnd.name : SegmentEnd → String
  | .origin => "origin"
  | .destination => "destination"

/-- Why there is no answer. -/
inductive Failure (R : Type) where
  /-- A segment lacks the event at one of its ends. -/
  | segmentWithout (missing : SegmentEnd)
  /-- A filter produced a number that is not finite. -/
  | notFinite (result filterError : R)
  /-- The schedule has no such trip. -/
  | unknownTrip (tripId : String)
  /-- An event is dated too far ahead of the clock. -/
  | futureEvent (vehicleId : String) (time : Instant)
  /-- A predicted time lies outside the calendar. -/
  | horizonOutOfRange (millis : Int)
  /-- An instant has no local time. -/
  | noLocalTime (cause : NoLocalTime)

/-- Turns a missing local time into a failure. -/
def orNoLocalTime {R α : Type} (x : Except NoLocalTime α) : Except (Failure R) α :=
  x.mapError .noLocalTime

end Headway
