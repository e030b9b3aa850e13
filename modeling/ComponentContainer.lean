import ComponentContainer.Document.Decode
import ComponentContainer.Document.Reader
import ComponentContainer.Main
import ComponentContainer.View
import ComponentContainer.Proofs.Outcome
import ComponentContainer.Proofs.Orchestration.Recording
import ComponentContainer.Proofs.Orchestration.Effects
import ComponentContainer.Proofs.Orchestration.OnceOnly
import ComponentContainer.Proofs.Orchestration.Simulation
import ComponentContainer.Proofs.Path
import ComponentContainer.Proofs.Walks
import ComponentContainer.Proofs.Orchestration.FixedPoint
import ComponentContainer.Proofs.Monotone
import ComponentContainer.Proofs.Orchestration.LateMutators
import ComponentContainer.Proofs.Pipeline
import ComponentContainer.Proofs.Reachable
import ComponentContainer.Proofs.Eligibility
import ComponentContainer.Proofs.Orchestration.PipelineTarget
import ComponentContainer.Proofs.History
import ComponentContainer.Proofs.Orchestration.Tables
import ComponentContainer.Proofs.Requests
import ComponentContainer.Proofs.Origin
import ComponentContainer.Proofs.Orchestration.Observing
import ComponentContainer.Proofs.Precedence
import ComponentContainer.Proofs.Orchestration.Batches
import ComponentContainer.Proofs.Orchestration.PhaseOrder
import ComponentContainer.Proofs.Orchestration.PipelineOrder
import ComponentContainer.Proofs.Transcript.Simulation
import ComponentContainer.Proofs.Transcript.Stability
import ComponentContainer.Proofs.Transcript.CreationStack
import ComponentContainer.Proofs.HookEntries
import ComponentContainer.Proofs.Dependencies
import ComponentContainer.Proofs.DependencySearch
import ComponentContainer.Proofs.Assembled
import ComponentContainer.Proofs.Transcript.Snapshots
import ComponentContainer.Proofs.Ledger
import ComponentContainer.Proofs.Container.Closing
import ComponentContainer.Proofs.Container.LifeCycle
import ComponentContainer.Proofs.Container.EagerPass
import ComponentContainer.Proofs.Orchestration.GlobalSort
import ComponentContainer.Proofs.Orchestration.Quiescence
import ComponentContainer.Proofs.Container.Bookkeeping
import ComponentContainer.Proofs.Bystander.Containers
import ComponentContainer.Proofs.Reporting
import ComponentContainer.Proofs.Transcript.Course
import ComponentContainer.Proofs.Transcript.Reports
import ComponentContainer.Proofs.Transcript.HookReports
import ComponentContainer.Proofs.HookCalls
import ComponentContainer.Proofs.Orchestration.Exchanges
import ComponentContainer.Proofs.Orchestration.BuildOrder
import ComponentContainer.Proofs.Orchestration.FirstFailure
import ComponentContainer.Proofs.Orchestration.DiscoveryLoop
import ComponentContainer.Proofs.Nesting
import ComponentContainer.Proofs.Orchestration.Degraded
import ComponentContainer.Proofs.Logbook
import ComponentContainer.Proofs.PipelineHistory
import ComponentContainer.Proofs.Cancellation.Registration
import ComponentContainer.Proofs.StableSort
import ComponentContainer.Proofs.Settings
import ComponentContainer.Proofs.Logging
import ComponentContainer.Proofs.PanicPayload
import ComponentContainer.Proofs.Container.Watch
