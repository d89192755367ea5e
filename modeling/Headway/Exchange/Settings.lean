import Headway.Exchange.Observations
import Headway.Settings.Basic

/-!
# Settings in exchange

The form in which settings come in: a record of sections, each a record of its own. Sections and
fields that are left out have their standard values, and names that mean nothing here are passed
over.
-/

namespace Headway

/-! ## Words -/

/-- The kind of dwell time models. -/
def DwellModelKind.decoder : Decoder DwellModelKind :=
  Decoder.choice ([.runningMean, .leastSquares].map fun k => (DwellModelKind.name k, k))

/-- The kind of bias correction. -/
def BiasKind.decoder : Decoder BiasKind :=
  Decoder.choice ([.none, .exponential, .linear].map fun k => (BiasKind.name k, k))

/-- The preferred travel strategy. -/
def TravelStrategy.decoder : Decoder TravelStrategy :=
  Decoder.choice (TravelStrategy.order.map fun s => (s.name, s))

/-- The preferred dwell strategy. -/
def DwellStrategy.decoder : Decoder DwellStrategy :=
  Decoder.choice (DwellStrategy.order.map fun s => (s.name, s))

/-! ## Sections -/

/-- Means. -/
def AverageSettings.shape : Shape AverageSettings :=
  let s : AverageSettings := {}
  AverageSettings.mk <$> .withDefault "min_days" Decoder.nat32 s.minDays
    <*> .withDefault "cache_increment_secs" Decoder.nat32 s.bucketWidth
    <*> .withDefault "day_start_hour" Decoder.nat32 s.dayStartHour
    <*> .withDefault "retention_days" Decoder.nat32 s.retentionDays

/-- Bounds on samples. -/
def FilterSettings.shape : Shape FilterSettings :=
  let s : FilterSettings := {}
  FilterSettings.mk <$> .withDefault "min_travel_time_ms" Decoder.int64 s.minTravel
    <*> .withDefault "max_travel_time_ms" Decoder.int64 s.maxTravel
    <*> .withDefault "min_dwell_time_ms" Decoder.int64 s.minDwell
    <*> .withDefault "max_dwell_time_ms" Decoder.int64 s.maxDwell
    <*> .withDefault "min_schedule_adherence_secs" Decoder.int32 s.minAdherence
    <*> .withDefault "max_schedule_adherence_secs" Decoder.int32 s.maxAdherence
    <*> .withDefault "min_headway_ms" Decoder.int64 s.minHeadway
    <*> .withDefault "max_headway_ms" Decoder.int64 s.maxHeadway
    <*> .withDefault "max_event_lead_secs" Decoder.nat32 s.maxEventLead

/-- The Kalman filter. -/
def KalmanSettings.shape : Shape (KalmanSettings Float) :=
  let s := KalmanSettings.standard
  KalmanSettings.mk <$> .withDefault "min_days" Decoder.nat32 s.minDays
    <*> .withDefault "max_days" Decoder.nat32 s.maxDays
    <*> .withDefault "max_days_to_search" Decoder.nat32 s.maxDaysToSearch
    <*> .withDefault "initial_error_value" Decoder.fraction s.initialError
    <*> .withDefault "use_average" Decoder.truth s.useAverage
    <*> .withDefault "percentage_difference_event_log" Decoder.fraction s.variationPercentage
    <*> .withDefault "threshold_for_difference_event_log_ms" Decoder.int64 s.variationMillis

/-- Dwell models. -/
def DwellSettings.shape : Shape (DwellSettings Float) :=
  let s := DwellSettings.standard
  DwellSettings.mk <$> .withDefault "model" DwellModelKind.decoder s.model
    <*> .withDefault "sample_size" Decoder.nat64 s.sampleSize
    <*> .withDefault "fraction_limit" Decoder.fraction s.fractionLimit
    <*> .withDefault "lambda" Decoder.fraction s.forgetting

/-- The exponential correction. -/
def ExponentialBias.shape : Shape (ExponentialBias Float) :=
  let s := ExponentialBias.standard
  ExponentialBias.mk <$> .withDefault "base" Decoder.fraction s.base
    <*> .withDefault "multiple" Decoder.fraction s.multiple
    <*> .withDefault "constant" Decoder.fraction s.constant
    <*> .withDefault "direction" Decoder.int32 s.direction

/-- The linear correction. -/
def LinearBias.shape : Shape (LinearBias Float) :=
  let s := LinearBias.standard
  LinearBias.mk <$> .withDefault "rate" Decoder.fraction s.rate
    <*> .withDefault "direction" Decoder.int32 s.direction

/-- The correction of predictions. -/
def BiasSettings.shape : Shape (BiasSettings Float) :=
  let s := BiasSettings.standard
  BiasSettings.mk <$> .withDefault "adjuster" BiasKind.decoder s.adjuster
    <*> .withDefault "exponential" ExponentialBias.shape.decode s.exponential
    <*> .withDefault "linear" LinearBias.shape.decode s.linear

/-- Holding. -/
def HoldingSettings.shape : Shape HoldingSettings :=
  let s : HoldingSettings := {}
  HoldingSettings.mk <$> .withDefault "control_stops" Decoder.text.listOf s.controlStops
    <*> .withDefault "max_predictions" Decoder.nat64 s.maxPredictions
    <*> .withDefault "planned_headway_ms" Decoder.int64 s.plannedHeadway
    <*> .withDefault "max_holding_time_ms" Decoder.int64 s.maxHolding

/-- Histories. -/
def HistorySettings.shape : Shape HistorySettings :=
  let s : HistorySettings := {}
  HistorySettings.mk <$> .withDefault "retention_days" Decoder.nat32 s.retentionDays
    <*> .withDefault "days_to_populate" Decoder.nat32 s.daysToPopulate

/-- Strategies. -/
def StrategySettings.shape : Shape StrategySettings :=
  let s : StrategySettings := {}
  StrategySettings.mk <$> .withDefault "travel_time" TravelStrategy.decoder s.travel
    <*> .withDefault "dwell_time" DwellStrategy.decoder s.dwell
    <*> .withDefault "store_travel_time_predictions" Decoder.truth s.recordTravel
    <*> .withDefault "store_dwell_time_predictions" Decoder.truth s.recordDwell

/-- The server. -/
def ServerSettings.shape : Shape ServerSettings :=
  let s : ServerSettings := {}
  ServerSettings.mk <$> .withDefault "bind_address" Decoder.text s.bindAddress
    <*> .withDefault "cors_origins" Decoder.text.listOf s.corsOrigins
    <*> .withDefault "cors_permissive" Decoder.truth s.corsPermissive
    <*> .withDefault "eviction_interval_secs" Decoder.nat64 s.evictionInterval

/-- All settings. -/
def Settings.shape : Shape (Settings Float) :=
  let s := Settings.standard
  Settings.mk <$> .withDefault "timezone" Decoder.text s.timezone
    <*> .withDefault "averages" AverageSettings.shape.decode s.averages
    <*> .withDefault "filters" FilterSettings.shape.decode s.filters
    <*> .withDefault "kalman" KalmanSettings.shape.decode s.kalman
    <*> .withDefault "dwell" DwellSettings.shape.decode s.dwell
    <*> .withDefault "bias" BiasSettings.shape.decode s.bias
    <*> .withDefault "holding" HoldingSettings.shape.decode s.holding
    <*> .withDefault "trip_history" HistorySettings.shape.decode s.history
    <*> .withDefault "strategy" StrategySettings.shape.decode s.strategy
    <*> .withDefault "server" ServerSettings.shape.decode s.server
    <*> .withDefault "schedule" Schedule.decoder s.schedule

end Headway
