import EditorAnalysis.Config.Load
import EditorAnalysis.Lane.Mailbox
import EditorAnalysis.Scenario.Transcript
import EditorAnalysis.Scheduler.Idle
import EditorAnalysis.Scheduler.Interleaved
import EditorAnalysis.Scheduler.Run
import EditorAnalysis.Scheduler.Shutdown
import EditorAnalysis.Scheduler.Worker
import EditorAnalysis.UiQueue.Job
import EditorAnalysis.Proofs.Scheduler.Outcome
import EditorAnalysis.Proofs.Scheduler.Rule
import EditorAnalysis.Proofs.Lane.Slots
import EditorAnalysis.Proofs.Scheduler.Lifecycle
import EditorAnalysis.Proofs.Scheduler.Trace
import EditorAnalysis.Proofs.Scheduler.Stage
import EditorAnalysis.Proofs.Scheduler.Published
import EditorAnalysis.Proofs.Scheduler.Advance
import EditorAnalysis.Proofs.Scheduler.Accounting
import EditorAnalysis.Proofs.Scheduler.Callback
import EditorAnalysis.Proofs.Scheduler.Analyses
import EditorAnalysis.Proofs.Scheduler.Coalescing
import EditorAnalysis.Proofs.Scheduler.Drain
import EditorAnalysis.Proofs.Scheduler.Burst
import EditorAnalysis.Proofs.Scheduler.Pipeline
import EditorAnalysis.Proofs.Scheduler.DeliveryOrder
import EditorAnalysis.Proofs.Scheduler.Dropping
import EditorAnalysis.Proofs.Scheduler.Tally
import EditorAnalysis.Proofs.Scheduler.Busy
import EditorAnalysis.Proofs.Scheduler.Rest
import EditorAnalysis.Proofs.Scheduler.RecentResult
import EditorAnalysis.Proofs.Scheduler.Containment
import EditorAnalysis.Proofs.Scheduler.HandOff
import EditorAnalysis.Proofs.Scheduler.LifeCourse
import EditorAnalysis.Proofs.Scheduler.VersionOrder
import EditorAnalysis.Proofs.Scheduler.Execution
import EditorAnalysis.Proofs.Session.Deed
import EditorAnalysis.Proofs.Session.Effect
import EditorAnalysis.Proofs.Session.Phase
import EditorAnalysis.Proofs.Session.Modes
import EditorAnalysis.Proofs.Lane.Exchange
import EditorAnalysis.Proofs.UiQueue.Order
import EditorAnalysis.Proofs.Scheduler.Paths
import EditorAnalysis.Proofs.Scheduler.Origin
import EditorAnalysis.Proofs.Scheduler.Cancellation
import EditorAnalysis.Proofs.Interleaved.Passage
import EditorAnalysis.Proofs.Interleaved.Undisturbed
import EditorAnalysis.Proofs.Interleaved.Whole
import EditorAnalysis.Proofs.Interleaved.Dropping
import EditorAnalysis.Proofs.Interleaved.Draining
import EditorAnalysis.Proofs.Interleaved.Settling
import EditorAnalysis.Proofs.Interleaved.Closing
import EditorAnalysis.Proofs.Duration
import EditorAnalysis.Proofs.Scheduler.IdleCheck
import EditorAnalysis.Completion.Shared
import EditorAnalysis.Proofs.Completion.Waiters
import EditorAnalysis.Proofs.Scheduler.Refusal
import EditorAnalysis.Proofs.IdleDelay
import EditorAnalysis.Proofs.Config.Decoding
