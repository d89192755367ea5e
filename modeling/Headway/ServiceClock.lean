import Headway.Calendar.Zone.Names

/-!
# Service days and time buckets

An agency counts time by its own clock. The service day of an instant is its local date, and its
bucket is the time since the hour at which service starts on that date, rounded down to a multiple
of a fixed width. Before that hour the time is negative, and so is the bucket.

An instant near an end of the calendar may have no local time; then neither day nor bucket exists,
and `NoLocalTime` names the instant. `roundDown_le`, `lt_roundDown_add` and `dvd_roundDown` pin the
rounding down.
-/

namespace Headway

/-! ## Rounding down -/

/-- The greatest multiple of a width that is not above a value. A width that is not positive leaves
the value as it is. -/
def roundDown (value width : Int) : Int := if width ≤ 0 then value else value / width * width

theorem roundDown_of_pos {value width : Int} (h : 0 < width) :
    roundDown value width = value / width * width := by
  rw [roundDown, if_neg (by omega)]

theorem roundDown_le {value width : Int} : roundDown value width ≤ value := by
  unfold roundDown
  split
  · exact Int.le_refl _
  · have := Int.emod_add_mul_ediv value width
    have := Int.emod_nonneg value (show width ≠ 0 by omega)
    rw [Int.mul_comm]
    omega

theorem lt_roundDown_add {value width : Int} (h : 0 < width) :
    value < roundDown value width + width := by
  rw [roundDown_of_pos h, Int.mul_comm]
  have := Int.emod_add_mul_ediv value width
  have := Int.emod_lt_of_pos value h
  omega

theorem dvd_roundDown {value width : Int} (h : 0 < width) : width ∣ roundDown value width := by
  rw [roundDown_of_pos h]
  exact Int.dvd_mul_left _ _

/-! ## Local time -/

/-- The instant has no local time: it lies too close to an end of the calendar. -/
structure NoLocalTime where
  instant : Instant
  deriving DecidableEq

/-- An agency's clock: its zone, the hour at which service starts, and the width of a bucket in
seconds. -/
structure ServiceClock where
  zone : Zone
  startHour : Nat
  startHour_le : startHour ≤ 23
  bucketWidth : Nat

namespace ServiceClock

/-- A clock from settings, where an hour past 23 counts as 23. -/
def of (zone : Zone) (startHour bucketWidth : Nat) : ServiceClock where
  zone := zone
  startHour := min startHour 23
  startHour_le := Nat.min_le_right _ _
  bucketWidth := bucketWidth

variable (clock : ServiceClock)

/-- Local time. -/
def toLocal (t : Instant) : Except NoLocalTime Instant :=
  match clock.zone.local? t with
  | some l => .ok l
  | none => .error ⟨t⟩

/-- The start of service on the date of a local time. -/
def dayStart (localTime : Instant) : Instant where
  second := localTime.day.number * 86400 + clock.startHour * 3600
  nano := 0
  nano_lt := by omega
  first_le := by have := localTime.day.first_le; omega
  lt_end := by
    have := localTime.day.le_last
    have := clock.startHour_le
    omega

/-- Whole seconds since the start of service, rounded toward zero. -/
def secondsInto (localTime : Instant) : Int :=
  (localTime.nanosSince (clock.dayStart localTime)).tdiv 1000000000

/-- The width of a bucket as a signed 32-bit number; past 2³¹ it wraps around to a negative one. -/
def signedWidth : Int := Int.bmod clock.bucketWidth 4294967296

/-- The bucket of a local time. -/
def bucketOfLocal (localTime : Instant) : Int :=
  roundDown (clock.secondsInto localTime) clock.signedWidth

/-- The local date of an instant. -/
def serviceDay (t : Instant) : Except NoLocalTime Day := (clock.toLocal t).map Instant.day

/-- Seconds since the start of service on the local date; negative before that hour. -/
def secondsIntoDay (t : Instant) : Except NoLocalTime Int :=
  (clock.toLocal t).map clock.secondsInto

/-- The time bucket of an instant. -/
def bucket (t : Instant) : Except NoLocalTime Int := (clock.toLocal t).map clock.bucketOfLocal

/-- Two instants have the same service day. -/
def sameDay (a b : Instant) : Bool :=
  match clock.serviceDay a, clock.serviceDay b with
  | .ok x, .ok y => x = y
  | _, _ => false

end ServiceClock

end Headway
