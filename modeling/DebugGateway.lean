import DebugGateway.Execution.Executor
import DebugGateway.Main
import DebugGateway.Rehearsal.Shift
import DebugGateway.Rehearsal.Turnstile
import DebugGateway.Proofs.Command.Answering
import DebugGateway.Proofs.Execution.Exclusion
import DebugGateway.Proofs.Execution.Budget
import DebugGateway.Proofs.FrameBuffer.Reassembly
import DebugGateway.Proofs.Server.Traffic
import DebugGateway.Proofs.Server.Completion
import DebugGateway.Proofs.Message.RoundTrip
import DebugGateway.Proofs.Message.Envelope
import DebugGateway.Proofs.Message.Framing
import DebugGateway.Proofs.Message.Acceptance
import DebugGateway.Proofs.Server.Shutdown.Quiescence
import DebugGateway.Proofs.Server.Deactivation
import DebugGateway.Proofs.Execution.Crossing
import DebugGateway.Proofs.Execution.Ending
import DebugGateway.Proofs.Command.WriteOnce
import DebugGateway.Proofs.Server.Delivery
import DebugGateway.Proofs.Engine.Settling
import DebugGateway.Proofs.FrameBuffer.Cutting
import DebugGateway.Proofs.Server.Addressing
import DebugGateway.Proofs.Config.Channels
import DebugGateway.Proofs.Command.Counting
import DebugGateway.Proofs.Command.Verdicts
import DebugGateway.Proofs.Command.Handing
import DebugGateway.Proofs.Server.Sending
import DebugGateway.Proofs.Command.Sharing
import DebugGateway.Proofs.Daemon.Typing
import DebugGateway.Proofs.Daemon.Orders
import DebugGateway.Proofs.Daemon.Supervision
import DebugGateway.Proofs.Command.Variants
import DebugGateway.Proofs.Command.Refusal
import DebugGateway.Proofs.Command.Capping
import DebugGateway.Proofs.Command.Granting
import DebugGateway.Proofs.Server.Buffering
import DebugGateway.Proofs.FrameBuffer.Afresh
import DebugGateway.Proofs.Engine.Markers
import DebugGateway.Proofs.Command.Spacing
import DebugGateway.Proofs.Message.Listed
import DebugGateway.Proofs.Execution.Waking
