import Backpressure.Failure.Context
import Backpressure.Demand.Register
import Backpressure.Item
import Backpressure.Notifier
import Backpressure.Token
import Backpressure.Expectation
import Backpressure.Drain.Bench
import Backpressure.Switch.Bench
import Backpressure.Network.Trace
import Backpressure.Publisher.Meaning
import Backpressure.Proofs.Agenda
import Backpressure.Proofs.Demand.Reads
import Backpressure.Proofs.Demand.Refinement
import Backpressure.Proofs.Demand.Unbounded
import Backpressure.Proofs.Tokens.Waking
import Backpressure.Proofs.Drain.Delivery
import Backpressure.Proofs.Drain.Exclusion
import Backpressure.Proofs.Drain.Cancellation
import Backpressure.Proofs.Drain.Standing
import Backpressure.Proofs.Pipeline.Conduct
import Backpressure.Proofs.Pipeline.Source
import Backpressure.Proofs.Pipeline.Window
import Backpressure.Proofs.Pipeline.Resumption
import Backpressure.Proofs.Pipeline.Expression
import Backpressure.Proofs.Pipeline.Account
import Backpressure.Proofs.Pipeline.Delivery
import Backpressure.Proofs.Resumption.Projection
import Backpressure.Proofs.Resumption.Forwarding
import Backpressure.Proofs.Resumption.Carryover
import Backpressure.Proofs.Window.Gathering
import Backpressure.Proofs.Window.Replay
import Backpressure.Proofs.Window.FirstFailure
import Backpressure.Proofs.Resumption.Cancellation
import Backpressure.Proofs.Bridge.Answers
import Backpressure.Proofs.Bridge.Prefetch
import Backpressure.Proofs.Bridge.Collection
import Backpressure.Proofs.Bridge.Record
import Backpressure.Proofs.Bridge.Release
import Backpressure.Proofs.Bridge.Script
import Backpressure.Proofs.Grammar.Chains
import Backpressure.Proofs.Custody.Requests
import Backpressure.Proofs.Custody.Cancellation
import Backpressure.Proofs.Drain.Conservation
import Backpressure.Proofs.Switch.Demand
import Backpressure.Proofs.Switch.Cancellation
import Backpressure.Proofs.Emission.Law
import Backpressure.Proofs.Grammar.Check
import Backpressure.Proofs.Failure.Causes
import Backpressure.Proofs.Failure.Layers
import Backpressure.Proofs.Drain.Ending
