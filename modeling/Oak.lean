import Oak.Lib.TopSubset
import Oak.Lib.FinmapSum
import Oak.Label
import Oak.Runtime.State
import Oak.Runtime.Ops
import Oak.Runtime.Halves
import Oak.Runtime.Frame
import Oak.Lib.Machine
import Oak.Runtime.Step
import Oak.Runtime.Invariant
import Oak.Runtime.Counts
import Oak.Runtime.Liveness
import Oak.Runtime.Flow
import Oak.Lib.Fifo
import Oak.Runtime.Fifo
import Oak.Lib.Bytes
import Oak.Runtime.Wait
import Oak.Wasm.Abi
import Oak.Wasm.Read
import Oak.Wasm.Host
import Oak.Lib.Protobuf
import Oak.Lib.Varint
import Oak.Prost.Varint
import Oak.Prost.Message
import Oak.Lib.Collect
import Oak.Wasm.SdkRead
import Oak.Async.Executor
import Oak.Functions.Policy
import Oak.Lib.Fallible
import Oak.Lib.Bincode
import Oak.Attestation.Message
import Oak.Attestation.Report
import Oak.Attestation.Crypto
import Oak.Attestation.Handshaker
import Oak.Attestation.StateMachine
import Oak.Attestation.Spec
import Oak.Attestation.Honest
import Oak.Attestation.Replay
import Oak.Attestation.Java
import Oak.Attestation.Binding
import Oak.Lib.Batch
import Oak.Lib.Wrapping
import Oak.Functions.Metrics
import Oak.Functions.Lookup
import Oak.Functions.Host
import Oak.Functions.Sdk
import Oak.Examples.KeyValueLookup
import Oak.Lib.Traversal
import Oak.Io.Handle
import Oak.Lib.Overlap
import Oak.Time.Roughtime
import Oak.Examples.PrivateSetIntersection
import Oak.Examples.Aggregator
import Oak.Sign.Der
