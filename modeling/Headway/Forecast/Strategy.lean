/-!
# Strategies

A travel time and a dwell time can each be estimated in several ways. The ways stand in a fixed
order; a chain starts with the preferred one and goes on with the others in that order, so that each
occurs once (`nodup_chain`) and the schedule, which always answers, is among them.
-/

namespace Headway

/-- A way to estimate the travel time along a stop path. -/
inductive TravelStrategy where
  | historicalAverage
  | lastVehicle
  | kalman
  | scheduleDefault
  deriving DecidableEq

/-- A way to estimate the dwell time at a stop. -/
inductive DwellStrategy where
  | dwellModel
  | historicalAverage
  | scheduleDefault
  deriving DecidableEq

/-- What produced an estimate. -/
inductive Algorithm where
  | historicalAverage
  | lastVehicle
  | kalman
  | dwellModel
  | schedule
  deriving DecidableEq

/-- A preferred member, followed by the rest of an order. -/
def chain {α : Type} [DecidableEq α] (preferred : α) (order : List α) : List α :=
  preferred :: order.filter (· ≠ preferred)

theorem mem_chain {α : Type} [DecidableEq α] {preferred x : α} {order : List α} :
    x ∈ chain preferred order ↔ x = preferred ∨ x ∈ order := by
  by_cases h : x = preferred <;> simp [chain, h]

theorem nodup_chain {α : Type} [DecidableEq α] {preferred : α} {order : List α}
    (h : order.Nodup) : (chain preferred order).Nodup := by
  refine List.nodup_cons.mpr ⟨fun hm => ?_, h.filter _⟩
  simpa using (List.mem_filter.mp hm).2

namespace TravelStrategy

/-- The order in which travel strategies are tried. -/
def order : List TravelStrategy := [.historicalAverage, .lastVehicle, .kalman, .scheduleDefault]

/-- The name of a strategy in settings and messages. -/
def name : TravelStrategy → String
  | .historicalAverage => "historical_average"
  | .lastVehicle => "last_vehicle"
  | .kalman => "kalman"
  | .scheduleDefault => "schedule_default"

end TravelStrategy

namespace DwellStrategy

/-- The order in which dwell strategies are tried. -/
def order : List DwellStrategy := [.dwellModel, .historicalAverage, .scheduleDefault]

/-- The name of a strategy in settings and messages. -/
def name : DwellStrategy → String
  | .dwellModel => "dwell_model"
  | .historicalAverage => "historical_average"
  | .scheduleDefault => "schedule_default"

end DwellStrategy

namespace Algorithm

/-- The name of an algorithm in answers and messages. -/
def name : Algorithm → String
  | .historicalAverage => "historical_average"
  | .lastVehicle => "last_vehicle"
  | .kalman => "kalman"
  | .dwellModel => "dwell_model"
  | .schedule => "schedule"

/-- The label of an algorithm in prediction records. -/
def label : Algorithm → String
  | .historicalAverage => "HISTORICAL AVERAGE"
  | .lastVehicle => "LAST VEHICLE"
  | .kalman => "KALMAN"
  | .dwellModel => "DWELL MODEL"
  | .schedule => "SCHEDULE"

end Algorithm

end Headway
