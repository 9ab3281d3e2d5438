import RespClient.Wire.FrameStream
import RespClient.Frame.Notation
import RespClient.Pipe.Connection
import RespClient.Retry.Trial
import RespClient.Routing.Router
import RespClient.Routing.Sharding
import RespClient.Replica.Group
import RespClient.Proofs.Text.Numeral
import RespClient.Proofs.Text.Utf8
import RespClient.Proofs.Pipe.Connection
import RespClient.Proofs.Wire.Completeness
import RespClient.Proofs.Wire.RoundTrip
import RespClient.Proofs.Wire.Streaming
import RespClient.Proofs.Wire.InStep
import RespClient.Proofs.Slot.History
import RespClient.Proofs.Slot.NormalForm
import RespClient.Proofs.Pool.Attribution
import RespClient.Proofs.Routing.Trace
import RespClient.Proofs.Routing.Budget
import RespClient.Proofs.Routing.Refresh
import RespClient.Proofs.Replica.Lifecycle
import RespClient.Proofs.Replica.Reexamined
import RespClient.Proofs.Replica.Routable
import RespClient.Proofs.Ring.Placement
import RespClient.Proofs.Retry.Decisive
import RespClient.Proofs.Retry.Logged
import RespClient.Proofs.Replica.Story
import RespClient.Proofs.Ring.Disruption
import RespClient.Proofs.Pipe.Transparency
import RespClient.Proofs.Wire.Truncation
import RespClient.Proofs.Wire.Tolerance
import RespClient.Proofs.Wire.Commands
import RespClient.Proofs.Wire.Canonical
import RespClient.Proofs.Replica.Sentinels
import RespClient.Proofs.Routing.Sharding
import RespClient.Proofs.Slot.Summary
import RespClient.Proofs.Slot.Listing
import RespClient.Proofs.Ring.Shares
import RespClient.Proofs.Replica.Instances
import RespClient.Proofs.Routing.Classification
import RespClient.Proofs.Slot.Tag
import RespClient.Proofs.Retry.Backoff
import RespClient.Proofs.Retry.History
import RespClient.Proofs.Node.Reading
import RespClient.Proofs.Routing.Target
import RespClient.Proofs.Slot.Hosted
import RespClient.Proofs.Routing.Hosted
import RespClient.Proofs.Wire.Progress
import RespClient.Proofs.Node.Forms
import RespClient.Proofs.Wire.Narrowing
import RespClient.Proofs.Pipe.Line
import RespClient.Proofs.Ring.Naming
