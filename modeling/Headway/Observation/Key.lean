import Headway.Calendar.Text

/-!
# Keys

What observations are filed under. A segment is the travel along one stop path of a trip, or the
dwell at its end; its key names a time bucket exactly when the trip runs by frequency.

Listings of keys are sorted by their fields from left to right, where a missing field comes first.
-/

namespace Headway

/-- The part of a stop path that a duration covers. -/
inductive Leg where
  | dwell
  | travel
  deriving DecidableEq

namespace Leg

/-- The word for a leg. -/
def name : Leg → String
  | .dwell => "dwell"
  | .travel => "travel"

/-- Travel for true. -/
def ofBool (isTravel : Bool) : Leg := if isTravel then .travel else .dwell

/-- Is the travel along a stop path. -/
def isTravel (l : Leg) : Bool := l = .travel

end Leg

/-- Names one segment of a trip. -/
structure SegmentKey where
  tripId : String
  stopPathIndex : Nat
  leg : Leg
  bucket : Option Int
  deriving DecidableEq

/-- Names one run of a trip: its service day and its start, which is the scheduled one or the bucket
of the run. -/
structure TripKey where
  tripId : String
  serviceDay : Day
  start : Option Int
  deriving DecidableEq

/-- Names one stop on one service day. -/
structure StopKey where
  stopId : String
  serviceDay : Day
  deriving DecidableEq

/-- Names one stop path of a trip. -/
structure PathKey where
  tripId : String
  stopPathIndex : Nat
  deriving DecidableEq

/-- Names one vehicle that waits at a stop. -/
structure HoldKey where
  stopId : String
  vehicleId : String
  deriving DecidableEq

/-! ## Segments -/

namespace SegmentKey

/-- The key of a segment without a time bucket. -/
def plain (tripId : String) (index : Nat) (leg : Leg) : SegmentKey := ⟨tripId, index, leg, none⟩

/-- The same segment in a time bucket. -/
def inBucket (k : SegmentKey) (bucket : Int) : SegmentKey := { k with bucket := some bucket }

/-- Names a time bucket. -/
def isBucketed (k : SegmentKey) : Bool := k.bucket.isSome

/-- The key as a message shows it. -/
def text (k : SegmentKey) : String :=
  let base := k.tripId ++ ":" ++ toString k.stopPathIndex ++ ":" ++ k.leg.name
  match k.bucket with
  | some b => base ++ "@" ++ toString b
  | none => base

end SegmentKey

/-- The key as a message shows it. -/
def TripKey.text (k : TripKey) : String :=
  let base := k.tripId ++ "@" ++ k.serviceDay.text
  match k.start with
  | some s => base ++ "+" ++ toString s
  | none => base

/-! ## Listings -/

/-- The order of a field that may be missing. -/
def compareOptional (a b : Option Int) : Ordering :=
  match a, b with
  | none, none => .eq
  | none, some _ => .lt
  | some _, none => .gt
  | some x, some y => compare x y

/-- The place of a leg in listings. -/
def Leg.rank : Leg → Nat
  | .dwell => 0
  | .travel => 1

/-- Keys with an order for listings. -/
class Listed (κ : Type) where
  order : κ → κ → Ordering

instance : Listed SegmentKey where
  order a b := (compare a.tripId b.tripId).then <|
    (compare a.stopPathIndex b.stopPathIndex).then <|
    (compare a.leg.rank b.leg.rank).then (compareOptional a.bucket b.bucket)

instance : Listed TripKey where
  order a b := (compare a.tripId b.tripId).then <|
    (compare a.serviceDay.text b.serviceDay.text).then (compareOptional a.start b.start)

instance : Listed StopKey where
  order a b := (compare a.stopId b.stopId).then (compare a.serviceDay.text b.serviceDay.text)

instance : Listed PathKey where
  order a b := (compare a.tripId b.tripId).then (compare a.stopPathIndex b.stopPathIndex)

instance : Listed HoldKey where
  order a b := (compare a.stopId b.stopId).then (compare a.vehicleId b.vehicleId)

/-- The keys in the order of listings. -/
def listed {κ : Type} [Listed κ] (keys : List κ) : List κ :=
  keys.mergeSort fun a b => (Listed.order a b).isLE

end Headway
