import Headway.Forecast.Strategy
import Headway.Schedule

/-!
# Settings

What an agency chooses: one record per section, with the values that hold where nothing is chosen.
Sections with fractional numbers are given over the type `R` of those numbers, and their standard
values are those of `Float`.
-/

namespace Headway

/-- Means of travel and dwell times. -/
structure AverageSettings where
  /-- Fewer samples than this do not make a mean that is trusted. -/
  minDays : Nat := 1
  /-- The width of a time bucket, in seconds. -/
  bucketWidth : Nat := 10800
  /-- The hour at which service starts. -/
  dayStartHour : Nat := 2
  /-- For how many days a mean is kept without a new sample. -/
  retentionDays : Nat := 15

/-- Bounds on the samples that are admitted, in milliseconds and, for adherence, in seconds. -/
structure FilterSettings where
  minTravel : Int := 1000
  maxTravel : Int := 1200000
  minDwell : Int := 1000
  maxDwell : Int := 120000
  minAdherence : Int := -600
  maxAdherence : Int := 600
  minHeadway : Int := 1000
  maxHeadway : Int := 3600000
  /-- How many seconds ahead of the clock an event may be dated. -/
  maxEventLead : Nat := 3600

/-- The Kalman filter over previous days. -/
structure KalmanSettings (R : Type) where
  /-- Fewer days than this are not enough. -/
  minDays : Nat
  /-- At most this many days are used. -/
  maxDays : Nat
  /-- At most this many days are looked at. -/
  maxDaysToSearch : Nat
  /-- The filter error where none is known. -/
  initialError : R
  /-- Lean toward the mean of the days, and otherwise toward the most recent one. -/
  useAverage : Bool
  /-- A difference to the next strategy is remarkable from more than this percentage on. -/
  variationPercentage : R
  /-- A difference to the next strategy is remarkable from more than this many milliseconds on. -/
  variationMillis : Int

/-- The kinds of dwell time models. -/
inductive DwellModelKind where
  | runningMean
  | leastSquares
  deriving DecidableEq

/-- The name of a model in settings. -/
def DwellModelKind.name : DwellModelKind → String
  | .runningMean => "running_average"
  | .leastSquares => "rls"

/-- The dwell time models. -/
structure DwellSettings (R : Type) where
  model : DwellModelKind
  /-- The number of samples that a running mean keeps. -/
  sampleSize : Nat
  /-- Samples outside the mean times and over this fraction are left out of a running mean. -/
  fractionLimit : R
  /-- The factor by which least squares forget. -/
  forgetting : R

/-- The kinds of bias corrections. -/
inductive BiasKind where
  | none
  | exponential
  | linear
  deriving DecidableEq

/-- The name of a correction in settings. -/
def BiasKind.name : BiasKind → String
  | .none => "none"
  | .exponential => "exponential"
  | .linear => "linear"

/-- A correction that grows as a power of the minutes ahead. -/
structure ExponentialBias (R : Type) where
  base : R
  multiple : R
  constant : R
  /-- -1 shortens predictions and 1 lengthens them. -/
  direction : Int

/-- A correction that is proportional to the time ahead. -/
structure LinearBias (R : Type) where
  /-- Percent for every 100 milliseconds ahead. -/
  rate : R
  /-- -1 shortens predictions and 1 lengthens them. -/
  direction : Int

/-- The correction of predictions. -/
structure BiasSettings (R : Type) where
  adjuster : BiasKind
  exponential : ExponentialBias R
  linear : LinearBias R

/-- Holding at control stops. -/
structure HoldingSettings where
  controlStops : List String := []
  /-- At most this many predicted arrivals of following vehicles count. -/
  maxPredictions : Nat := 3
  /-- The headway to aim at without predictions, in milliseconds. -/
  plannedHeadway : Int := 540000
  /-- No vehicle is held longer than this many milliseconds. -/
  maxHolding : Int := 600000

/-- Histories of events. -/
structure HistorySettings where
  retentionDays : Nat := 3
  /-- An event is filed under this many days, its own and those before. -/
  daysToPopulate : Nat := 1

/-- Preferred strategies, and which estimates are recorded. -/
structure StrategySettings where
  travel : TravelStrategy := .historicalAverage
  dwell : DwellStrategy := .dwellModel
  recordTravel : Bool := false
  recordDwell : Bool := false

/-- The server around the service. -/
structure ServerSettings where
  bindAddress : String := "0.0.0.0:3000"
  corsOrigins : List String := []
  corsPermissive : Bool := false
  /-- Seconds between two evictions. -/
  evictionInterval : Nat := 300

/-- All settings of a service. -/
structure Settings (R : Type) where
  timezone : String
  averages : AverageSettings
  filters : FilterSettings
  kalman : KalmanSettings R
  dwell : DwellSettings R
  bias : BiasSettings R
  holding : HoldingSettings
  history : HistorySettings
  strategy : StrategySettings
  server : ServerSettings
  schedule : Schedule

/-! ## Standard values -/

/-- The Kalman filter where nothing is chosen. -/
def KalmanSettings.standard : KalmanSettings Float where
  minDays := 3
  maxDays := 3
  maxDaysToSearch := 30
  initialError := 100
  useAverage := true
  variationPercentage := 50
  variationMillis := 60000

/-- The dwell models where nothing is chosen. -/
def DwellSettings.standard : DwellSettings Float where
  model := .leastSquares
  sampleSize := 5
  fractionLimit := 0.7
  forgetting := 0.75

/-- The exponential correction where nothing is chosen. -/
def ExponentialBias.standard : ExponentialBias Float where
  base := 1.1
  multiple := 0.5
  constant := -0.5
  direction := -1

/-- The linear correction where nothing is chosen. -/
def LinearBias.standard : LinearBias Float where
  rate := 0.0006
  direction := -1

/-- The correction where nothing is chosen. -/
def BiasSettings.standard : BiasSettings Float where
  adjuster := .none
  exponential := .standard
  linear := .standard

/-- The settings where nothing is chosen. -/
def Settings.standard : Settings Float where
  timezone := "UTC"
  averages := {}
  filters := {}
  kalman := .standard
  dwell := .standard
  bias := .standard
  holding := {}
  history := {}
  strategy := {}
  server := {}
  schedule := Table.empty

end Headway
