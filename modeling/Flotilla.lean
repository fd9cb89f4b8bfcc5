import Flotilla.Cluster.Session
import Flotilla.CommandLine.Invocation
import Flotilla.Http.Wire
import Flotilla.Main
import Flotilla.Proofs.Batch.Again
import Flotilla.Proofs.Batch.Census
import Flotilla.Proofs.Batch.Commuting
import Flotilla.Proofs.Batch.Protocol
import Flotilla.Proofs.Batch.Redeployment
import Flotilla.Proofs.Batch.Refused
import Flotilla.Proofs.Batch.Rescan
import Flotilla.Proofs.Batch.Turns
import Flotilla.Proofs.Cancellation
import Flotilla.Proofs.Cluster.Effects
import Flotilla.Proofs.Cluster.Lasting
import Flotilla.Proofs.Cluster.Quiet
import Flotilla.Proofs.Cluster.Removal
import Flotilla.Proofs.CommandLine.Consent
import Flotilla.Proofs.CommandLine.Environment
import Flotilla.Proofs.Commuting
import Flotilla.Proofs.Http.Endpoint
import Flotilla.Proofs.Http.FaultKinds
import Flotilla.Proofs.Images
import Flotilla.Proofs.Inspection
import Flotilla.Proofs.Json.Record
import Flotilla.Proofs.Json.RoundTrip
import Flotilla.Proofs.Ledgers
import Flotilla.Proofs.Migration.EndState
import Flotilla.Proofs.Migration.NothingLost
import Flotilla.Proofs.Migration.Refused
import Flotilla.Proofs.Migration.RoundTrip
import Flotilla.Proofs.Migration.Turns
import Flotilla.Proofs.Planning.Erasure
import Flotilla.Proofs.Planning.Templates
import Flotilla.Proofs.Ports
import Flotilla.Proofs.Refusals
import Flotilla.Proofs.Scan
import Flotilla.Proofs.Scan.Agreement
import Flotilla.Proofs.Scan.Filtering
import Flotilla.Proofs.Scan.Order
import Flotilla.Proofs.Text.Blank
import Flotilla.Proofs.Text.Number
import Flotilla.Proofs.Time.Calendar
import Flotilla.Proofs.Time.Rfc3339
import Flotilla.Proofs.Migration.RetryNames
import Flotilla.Proofs.CommandLine.Configuration
import Flotilla.Proofs.Migration.Preview
import Flotilla.Proofs.Scan.Occurrences
