import GuidedTour.Main
import GuidedTour.Proofs.Tour.Resumption
import GuidedTour.Proofs.Console.Resuming
import GuidedTour.Proofs.Tour.Ordering
import GuidedTour.Proofs.Tour.Structure
import GuidedTour.Proofs.Tour.Simulation
import GuidedTour.Proofs.Tour.Termination
import GuidedTour.Proofs.Console.Saving
import GuidedTour.Proofs.Script.Parsing
import GuidedTour.Proofs.Tour.Mirroring
import GuidedTour.Proofs.Tour.Builtin
import GuidedTour.Proofs.Tour.Pausing
import GuidedTour.Proofs.Tour.Visibility
import GuidedTour.Proofs.Tour.Staleness
import GuidedTour.Proofs.Service.Isolation
import GuidedTour.Proofs.Service.Lifecycle
import GuidedTour.Proofs.Service.Replaying
import GuidedTour.Proofs.Tour.Dismissal
import GuidedTour.Proofs.Service.KeyGate
import GuidedTour.Proofs.Service.Starting
import GuidedTour.Proofs.Service.Delivery
import GuidedTour.Proofs.Snapshot.Normalizing
import GuidedTour.Proofs.Snapshot.Truncation
import GuidedTour.Proofs.Console.Confinement
import GuidedTour.Proofs.Tour.Restarting
import GuidedTour.Proofs.Tour.Completing
import GuidedTour.Proofs.Tour.Advancing
import GuidedTour.Proofs.Script.Exchange
import GuidedTour.Proofs.Tour.Ignoring
import GuidedTour.Proofs.Tour.Framing
import GuidedTour.Proofs.Tour.Choosing
import GuidedTour.Proofs.Machine.Clauses
import GuidedTour.Proofs.Machine.Violations
import GuidedTour.Proofs.Tour.Previewing
import GuidedTour.Proofs.Tour.Phases
import GuidedTour.Proofs.Tour.Initializing
import GuidedTour.Proofs.Progress.Percentages
import GuidedTour.Proofs.Service.Limits
