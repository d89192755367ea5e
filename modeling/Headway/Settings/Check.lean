import Headway.Decimal.Shortest
import Headway.Service.Memory

/-!
# Checking settings

What can be wrong with settings that are well formed. Each fault carries the numbers that its
message shows, and the first in the order of `Settings.faults` is the one reported. A service can be
set up whenever the time zone is known (`Service.ofSettings`); the other faults only make it
useless.

Settings name their time zone, and which zones there are is left open: what depends on it takes a
lookup of zones by name. The program looks them up by `Zone.named?`.
-/

namespace Headway

/-- A pair of bounds on samples. -/
inductive BoundsKind where
  | travel
  | dwell
  | headway
  | adherence
  deriving DecidableEq

/-- The words for a pair of bounds. -/
def BoundsKind.name : BoundsKind → String
  | .travel => "travel time"
  | .dwell => "dwell time"
  | .headway => "headway"
  | .adherence => "schedule adherence"

/-- Why settings cannot be used. -/
inductive SettingsFault (R : Type) where
  /-- There is no time zone of that name. -/
  | unknownZone (name : String)
  /-- A time bucket is empty or longer than a day. -/
  | bucketWidth (seconds : Nat)
  /-- A day has no such hour. -/
  | dayStartHour
  /-- The lower bound is above the upper one. -/
  | bounds (kind : BoundsKind) (least greatest : Int)
  /-- The Kalman filter never has enough days, or asks for none. -/
  | kalmanDays
  /-- The factor by which least squares forget is not above 0 and at most 1. -/
  | forgetting (value : R)
  /-- A running mean would keep no samples. -/
  | sampleSize
  /-- The fraction of a running mean is not above 0 and at most 1. -/
  | fractionLimit
  /-- A correction goes neither up nor down. -/
  | direction (kind : BiasKind) (value : Int)
  /-- Histories would keep nothing. -/
  | historyDays
  /-- Vehicles would be held for less than no time. -/
  | maxHolding

/-- A day has this many seconds. -/
def secondsPerDay : Nat := 86400

/-- What is wrong with settings, without the words that introduce it. -/
def SettingsFault.reason : SettingsFault Float → String
  | .unknownZone name => "unknown timezone '" ++ name ++ "'"
  | .bucketWidth seconds =>
    "averages.cache_increment_secs must be in 1..=" ++ toString secondsPerDay ++ ", got " ++
      toString seconds
  | .dayStartHour => "averages.day_start_hour must be < 24"
  | .bounds kind least greatest =>
    "filters " ++ kind.name ++ ": min " ++ toString least ++ " exceeds max " ++ toString greatest
  | .kalmanDays => "kalman.min_days must not exceed kalman.max_days (and max_days must be > 0)"
  | .forgetting value => "dwell.lambda must be in (0, 1], got " ++ shortestText value
  | .sampleSize => "dwell.sample_size must be > 0"
  | .fractionLimit => "dwell.fraction_limit must be in (0, 1]"
  | .direction kind value =>
    "bias." ++ kind.name ++ ".direction must be 1 or -1, got " ++ toString value
  | .historyDays => "trip_history.retention_days and days_to_populate must be > 0"
  | .maxHolding => "holding.max_holding_time_ms must be >= 0"

/-- The text of a fault. -/
def SettingsFault.message (f : SettingsFault Float) : String := "Invalid config: " ++ f.reason

namespace Settings

variable {R : Type} [Scalar R] (s : Settings R)

/-- The time zone, of those that can be looked up. -/
def zone (zones : String → Option Zone) : Except (SettingsFault R) Zone :=
  match zones s.timezone with
  | some z => .ok z
  | none => .error (.unknownZone s.timezone)

/-- A fault where a demand is not met. -/
def demand (met : Bool) (fault : SettingsFault R) : List (SettingsFault R) :=
  if met then [] else [fault]

omit [Scalar R] in
theorem demand_eq_nil_iff {met : Bool} {fault : SettingsFault R} :
    demand met fault = [] ↔ met = true := by
  cases met with
  | true => simp [demand]
  | false => simp [demand]

/-- The fault of a pair of bounds. -/
def boundsFault (kind : BoundsKind) (least greatest : Int) : List (SettingsFault R) :=
  demand (least ≤ greatest) (.bounds kind least greatest)

/-- Is above zero and at most one. -/
def isFraction (x : R) : Bool := Scalar.lt Scalar.zero x && Scalar.le x Scalar.one

/-- The fault of a direction. -/
def directionFault (kind : BiasKind) (direction : Int) : List (SettingsFault R) :=
  demand (direction = 1 || direction = -1) (.direction kind direction)

/-- The fault of the time zone. -/
def zoneFault (zones : String → Option Zone) : List (SettingsFault R) :=
  demand (zones s.timezone).isSome (.unknownZone s.timezone)

/-- All faults, section by section. -/
def faults (zones : String → Option Zone) : List (SettingsFault R) :=
  s.zoneFault zones ++
  demand (1 ≤ s.averages.bucketWidth && s.averages.bucketWidth ≤ secondsPerDay)
    (.bucketWidth s.averages.bucketWidth) ++
  demand (s.averages.dayStartHour ≤ 23) .dayStartHour ++
  boundsFault .travel s.filters.minTravel s.filters.maxTravel ++
  boundsFault .dwell s.filters.minDwell s.filters.maxDwell ++
  boundsFault .headway s.filters.minHeadway s.filters.maxHeadway ++
  boundsFault .adherence s.filters.minAdherence s.filters.maxAdherence ++
  demand (1 ≤ s.kalman.maxDays && s.kalman.minDays ≤ s.kalman.maxDays) .kalmanDays ++
  demand (isFraction s.dwell.forgetting) (.forgetting s.dwell.forgetting) ++
  demand (1 ≤ s.dwell.sampleSize) .sampleSize ++
  demand (isFraction s.dwell.fractionLimit) .fractionLimit ++
  directionFault .exponential s.bias.exponential.direction ++
  directionFault .linear s.bias.linear.direction ++
  demand (1 ≤ s.history.retentionDays && 1 ≤ s.history.daysToPopulate) .historyDays ++
  demand (0 ≤ s.holding.maxHolding) .maxHolding

/-- Settings that a service can work with, or the first fault. -/
def check (zones : String → Option Zone := Zone.named?) : Except (SettingsFault R) Unit :=
  match s.faults zones with
  | [] => .ok ()
  | fault :: _ => .error fault

theorem check_eq_ok_iff (zones : String → Option Zone) :
    s.check zones = .ok () ↔ s.faults zones = [] := by
  unfold check
  split
  · rename_i h
    simp [h]
  · rename_i fault rest h
    simp [h]

end Settings

/-- The service with the given settings, if their time zone is known. -/
def Service.ofSettings {R : Type} [Scalar R] (s : Settings R) (recorder : Recorder)
    (zones : String → Option Zone := Zone.named?) : Except (SettingsFault R) (Service R) :=
  (s.zone zones).map fun zone =>
    { settings := s
      clock := ServiceClock.of zone s.averages.dayStartHour s.averages.bucketWidth
      recorder }

end Headway
