import FrameMux.Main
import FrameMux.Proofs.Creation
import FrameMux.Proofs.Frame.Batches
import FrameMux.Proofs.Frame.Neglect
import FrameMux.Proofs.Frame.Throughput
import FrameMux.Proofs.Handoff.Acceptance
import FrameMux.Proofs.Handoff.ClaimLoop
import FrameMux.Proofs.Handoff.Failures
import FrameMux.Proofs.Handoff.Sizing
import FrameMux.Proofs.Handoff.SlotDelivery
import FrameMux.Proofs.Handoff.Tampering
import FrameMux.Proofs.Producer.Pacing
import FrameMux.Proofs.Seconds
import FrameMux.Proofs.Source.Assignments
import FrameMux.Proofs.World.Backpressure
import FrameMux.Proofs.World.Generations
import FrameMux.Proofs.World.Isolation
import FrameMux.Proofs.World.Negotiation
import FrameMux.Proofs.World.Overdue
import FrameMux.Proofs.World.Overflows
import FrameMux.Proofs.World.Respawns
import FrameMux.Proofs.World.Returns
import FrameMux.Proofs.World.Starvation
import FrameMux.Proofs.World.Tallies
import FrameMux.Proofs.World.Teardowns
