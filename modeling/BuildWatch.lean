import BuildWatch.Main
import BuildWatch.Proofs.Broadcast.Delivery
import BuildWatch.Proofs.Broadcast.Returning
import BuildWatch.Proofs.Compiler.Channel
import BuildWatch.Proofs.Compiler.Encoding
import BuildWatch.Proofs.Compiler.Grammar
import BuildWatch.Proofs.Compiler.Report
import BuildWatch.Proofs.Compiler.RoundTrip
import BuildWatch.Proofs.Compiler.Scratch
import BuildWatch.Proofs.Compiler.Serving
import BuildWatch.Proofs.Coordinator.Pipelines
import BuildWatch.Proofs.Coordinator.Routing
import BuildWatch.Proofs.Coordinator.Watched
import BuildWatch.Proofs.Music.Convergence
import BuildWatch.Proofs.Project.Listing
import BuildWatch.Proofs.Project.Members
import BuildWatch.Proofs.QuietPeriod
import BuildWatch.Proofs.Scheduler.Lifecycle
import BuildWatch.Proofs.Scheduler.Loading
import BuildWatch.Proofs.Scheduler.Outcome
import BuildWatch.Proofs.Scheduler.Postponement
import BuildWatch.Proofs.Scheduler.Publication
import BuildWatch.Proofs.Scheduler.Rebuild
import BuildWatch.Proofs.Scheduler.Reload
import BuildWatch.Proofs.Scheduler.Stuck
import BuildWatch.Proofs.Terminal.Lines
import BuildWatch.Proofs.Terminal.Replacing
import BuildWatch.Proofs.Timer
import BuildWatch.Proofs.Watch.Coverage
import BuildWatch.Simulation.Broadcast
import BuildWatch.Simulation.Client
import BuildWatch.Simulation.Debounce
import BuildWatch.Simulation.Server
import BuildWatch.Simulation.Watch
