import Headway.Scalar
import Headway.Notice
import Headway.Observation.Pairing
import Headway.Observation.StopHistory
import Headway.Observation.TripHistory
import Headway.Mean.Segment
import Headway.Kalman.Step
import Headway.Kalman.FilterErrors
import Headway.Dwell.Training
import Headway.Bias
import Headway.Holding.Basic
import Headway.Service.Recording
import Headway.Service.Prediction
import Headway.Document.Numeral
import Headway.Document.Basic
import Headway.Document.Decoder
import Headway.Document.Shape
import Headway.Json.Reader
import Headway.Json.Value
import Headway.Exchange.Settings
import Headway.Exchange.Forecasts
import Headway.Settings.Check
import Headway.Yaml.Reader
import Headway.Web.Query
import Headway.Web.MediaType
import Headway.Web.Serve
import Headway.Proofs.Observation.Histories
import Headway.Proofs.Mean.Restarts
import Headway.Proofs.Service.Eviction
import Headway.Proofs.Service.Bounds
import Headway.Proofs.Bias
import Headway.Proofs.Service.Forward
import Headway.Proofs.Service.Prediction
import Headway.Proofs.Service.Repeating
import Headway.Proofs.Service.Holding
import Headway.Proofs.Service.Refusal
import Headway.Proofs.Service.Answers
import Headway.Proofs.Service.Intake
import Headway.Proofs.Observation.Partner
import Headway.Proofs.Service.AfterRun
import Headway.Proofs.Service.Completion
import Headway.Proofs.Service.Buckets
import Headway.Proofs.Observation.Filings
import Headway.Proofs.Service.Independence
import Headway.Proofs.Service.Fallback
import Headway.Proofs.Service.SparseMeans
import Headway.Proofs.Service.ReadBack
import Headway.Proofs.Present
import Headway.Proofs.Service.Present
import Headway.Proofs.Holding.Rule
import Headway.Proofs.Instant
import Headway.Proofs.Holding.Behind
import Headway.Proofs.Holding.Reference
import Headway.Proofs.Holding.Release
import Headway.Proofs.Service.ControlStops
import Headway.Proofs.Service.Walk
import Headway.Proofs.Service.Horizons
import Headway.Proofs.Service.Limits
import Headway.Proofs.Service.ErrorChain
import Headway.Proofs.Service.PreviousDays
import Headway.Proofs.Calendar.Year
import Headway.Proofs.ServiceDays
import Headway.Proofs.Service.Filed
import Headway.Proofs.Service.LastPassage
import Headway.Proofs.Service.DwellLessons
import Headway.Proofs.Service.Overnight
import Headway.Proofs.Dwell.LastSamples
import Headway.Proofs.Dwell.LeastSquares
import Headway.Proofs.Kalman.Balance
import Headway.Proofs.Service.Records
import Headway.Proofs.TimeBuckets
