import FeatureFlags.Format.Specification
import FeatureFlags.Evaluation.Flag
import FeatureFlags.Rollout
import FeatureFlags.Validation
import FeatureFlags.Payload
import FeatureFlags.Client.Operation
import FeatureFlags.Client.Run
import FeatureFlags.Proofs.Lookup
import FeatureFlags.Proofs.Cycle
import FeatureFlags.Proofs.Double
import FeatureFlags.Proofs.Percentage
import FeatureFlags.Proofs.Validity
import FeatureFlags.Proofs.Meaning
import FeatureFlags.Proofs.Memo
import FeatureFlags.Proofs.Stability
import FeatureFlags.Proofs.Client.Step
import FeatureFlags.Proofs.Client.Calls
import FeatureFlags.Proofs.Client.Flight
import FeatureFlags.Proofs.Client.SingleFlight
import FeatureFlags.Proofs.Client.Trust
import FeatureFlags.Proofs.Client.Execution
import FeatureFlags.Proofs.Client.Landing
import FeatureFlags.Proofs.Client.Live
import FeatureFlags.Proofs.Warning
import FeatureFlags.Proofs.Orderly
import FeatureFlags.Proofs.Reading
import FeatureFlags.Proofs.Trace
import FeatureFlags.Proofs.Decision
import FeatureFlags.Proofs.Client.Refresh
import FeatureFlags.Proofs.Client.Prompt
import FeatureFlags.Proofs.Client.Timely
import FeatureFlags.Proofs.Client.Attempts
import FeatureFlags.Proofs.Client.Dispatch
import FeatureFlags.Proofs.Client.Narration
import FeatureFlags.Proofs.Client.Akin
import FeatureFlags.Proofs.Client.Idle
import FeatureFlags.Proofs.Client.Scene
import FeatureFlags.Proofs.Client.Crowd
import FeatureFlags.Proofs.Client.Audience
import FeatureFlags.Proofs.Client.Inquiry
import FeatureFlags.Proofs.Client.Relay
import FeatureFlags.Proofs.Client.Delivery
import FeatureFlags.Proofs.Client.Detail
import FeatureFlags.Proofs.Client.Batch
import FeatureFlags.Proofs.Value
import FeatureFlags.Proofs.Rollout.Hash
import FeatureFlags.Proofs.Rollout.Permutation
import FeatureFlags.Proofs.Rollout.Group
import FeatureFlags.Proofs.Rollout.Gradual
import FeatureFlags.Proofs.Quantifier
import FeatureFlags.Proofs.Arrangement
import FeatureFlags.Proofs.Json.Alike
import FeatureFlags.Proofs.Json.Record
import FeatureFlags.Proofs.Json.Hold
import FeatureFlags.Proofs.Json.Steady
import FeatureFlags.Proofs.Format.Agreement
import FeatureFlags.Proofs.Calendar
import FeatureFlags.Proofs.Offset
import FeatureFlags.Proofs.Calendar.Count
import FeatureFlags.Proofs.Calendar.WallClock
import FeatureFlags.Proofs.DateTime
import FeatureFlags.Proofs.Json.Restore
import FeatureFlags.Proofs.Format.Restore
import FeatureFlags.Proofs.Rounding
import FeatureFlags.Proofs.Shortest
import FeatureFlags.Proofs.Json.Numeral
import FeatureFlags.Proofs.Json.Quote
import FeatureFlags.Proofs.Json.Grammar
import FeatureFlags.Proofs.Json.Print
import FeatureFlags.Proofs.Format.RoundTrip
import FeatureFlags.Proofs.TotalOrder
import FeatureFlags.Proofs.Resolution
import FeatureFlags.Proofs.Json.Overlay
import FeatureFlags.Proofs.Client.Settings
import FeatureFlags.Proofs.Display
import FeatureFlags.Proofs.Message
import FeatureFlags.Proofs.Regex.Matching
import FeatureFlags.Proofs.Regex.Simplify
