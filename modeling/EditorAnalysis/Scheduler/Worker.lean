import EditorAnalysis.Scheduler.Submit

/-!
# The worker

The worker loops until its token fires. It takes a job out of the queue, leaves if the job says so,
and otherwise publishes the request as its present one, marks itself busy and calls the analyzer. An
analysis is recorded and then delivered, unless newer work of the same lane waits; whatever happens,
the marks are cleared before the worker looks at its token again. An exception of the version source or
of the dispatcher costs only the request at hand.

Each function is one step, and gives `none` where the worker is not about to take it. Of the beginning
of a request (`workerBegin`) and of the decision on delivery (`workerDeliver`) other threads see parts;
`Interleaved` takes these steps apart.
-/

namespace EditorAnalysis

variable {Snapshot Callback Output : Type}

namespace Scheduler

variable (scheduler : Scheduler Snapshot Callback Output)

/-- At the head of its loop the worker leaves if its token has fired, and waits for a job if not. -/
def workerPoll : Option (Scheduler Snapshot Callback Output) :=
  match scheduler.worker with
  | .looping =>
      some { scheduler with worker := if scheduler.cancelled then .exited else .receiving }
  | _ => none

/-- The worker takes the next job. Without one its wait runs out and it goes back to the head of its
loop; the order to leave is obeyed at once. -/
def workerReceive : Option (Scheduler Snapshot Callback Output) :=
  match scheduler.worker with
  | .receiving =>
      let (job, mailbox) := scheduler.mailbox.pop
      let worker := match job with
        | none => .looping
        | some .terminate => .exited
        | some (.analyze request) => .holding request
      some { scheduler with mailbox, worker }
  | _ => none

/-- The worker begins a request: it publishes it, marks itself busy and calls the analyzer. If its
token has fired it aborts the request instead and is to leave. -/
def workerBegin : Option (Scheduler Snapshot Callback Output) :=
  match scheduler.worker with
  | .holding request =>
      if scheduler.cancelled then
        some { scheduler.conclude request.id .aborted Stats.addAborted with worker := .clearing true }
      else
        some { scheduler with
          inFlight := some request.id
          busy := true
          stats := scheduler.stats.addExecuted
          worker := .executing request }
  | _ => none

/-- The analyzer call on the worker is over. An analyzer that gave up after the token fired makes the
worker leave. -/
def workerAnswer (execution : Execution Output) : Option (Scheduler Snapshot Callback Output) :=
  match scheduler.worker with
  | .executing request =>
      match execution.verdict with
      | .ready analysis => some { scheduler with worker := .recording request analysis }
      | .failed =>
          some { scheduler.conclude request.id .abandoned Stats.addAbandoned with
            worker := .clearing false }
      | .cancelled =>
          some { scheduler.conclude request.id .aborted Stats.addAborted with
            worker := .clearing scheduler.cancelled }
  | _ => none

/-- The side effects of the analysis are recorded. If the version source raises an exception the
request is dropped. -/
def workerRecord (reading : Attempt Version) (now : Instant) :
    Option (Scheduler Snapshot Callback Output) :=
  match scheduler.worker with
  | .recording request analysis =>
      match scheduler.recordResult request analysis reading now with
      | .error _ => some { scheduler.finish request.id .abandoned with worker := .clearing false }
      | .ok recorded => some { recorded with worker := .delivering request analysis }
  | _ => none

/-- A result is dropped for newer work: it is none of those that are always delivered, the worker is
not being shut down, and a job of its lane waits. -/
def isOutdone (request : Request Snapshot Callback) : Bool :=
  !request.reason.alwaysDelivered && !scheduler.cancelled &&
    scheduler.mailbox.contains request.reason.lane

/-- The worker decides on delivery. A result with newer work behind it is superseded; a request that a
forced shutdown has aborted is left as it is; any other is completed and counted as delivered. -/
def workerDeliver : Option (Scheduler Snapshot Callback Output) :=
  match scheduler.worker with
  | .delivering request analysis =>
      if scheduler.isOutdone request then
        some { scheduler.conclude request.id .superseded Stats.addSuperseded with
          worker := .clearing false }
      else if (scheduler.outcome? request.id).isSome then
        some { scheduler with worker := .clearing false }
      else
        some { scheduler.conclude request.id (.completed analysis) Stats.addDelivered with
          worker := .posting request analysis }
  | _ => none

/-- The completed request is posted to the UI thread; a dispatcher that raises an exception drops it. -/
def workerPost (accepted : Bool) : Option (Scheduler Snapshot Callback Output) :=
  match scheduler.worker with
  | .posting request analysis =>
      let ui := if accepted then scheduler.ui.post ⟨request, analysis⟩ else scheduler.ui
      some { scheduler with ui, worker := .clearing false }
  | _ => none

/-- The worker clears its marks and leaves or goes back to the head of its loop. -/
def workerClear : Option (Scheduler Snapshot Callback Output) :=
  match scheduler.worker with
  | .clearing leaves =>
      some { scheduler with
        inFlight := none
        busy := false
        worker := if leaves then .exited else .looping }
  | _ => none

end Scheduler

end EditorAnalysis
