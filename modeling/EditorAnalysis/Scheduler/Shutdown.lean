import EditorAnalysis.Scheduler.State

/-!
# Shutting down

A shutdown fires the worker's token, aborts everything that waits, leaves the order to go in the queue
and then waits for the worker. If the worker has left in time the shutdown is complete; otherwise the
worker is given up, and the request it published is aborted, so that nobody waits for it. What comes
before the wait is one step here, and several in `Interleaved`.
-/

namespace EditorAnalysis

variable {Snapshot Callback Output : Type}

/-- How a shutdown ended. -/
inductive ShutdownOutcome where
  /-- No worker was ever started. -/
  | notStarted
  /-- An earlier shutdown had run. -/
  | alreadyStopped
  /-- The worker left in time. -/
  | completed
  /-- The worker did not leave in time and was given up. -/
  | timedOut
  deriving DecidableEq, Repr

/-- The name of an outcome in reports. -/
def ShutdownOutcome.name : ShutdownOutcome → String
  | .notStarted => "NotStarted"
  | .alreadyStopped => "AlreadyStopped"
  | .completed => "Completed"
  | .timedOut => "TimedOut"

/-- The report of a shutdown. -/
structure ShutdownReport where
  outcome : ShutdownOutcome
  /-- The number of requests it aborted. -/
  aborted : Nat
  deriving DecidableEq, Repr

namespace Scheduler

variable (scheduler : Scheduler Snapshot Callback Output)

/-- Aborts a request; the number says whether it had no outcome before. -/
def abort (id : RequestId) : Nat × Scheduler Snapshot Callback Output :=
  (if (scheduler.outcome? id).isSome then 0 else 1,
    scheduler.conclude id .aborted Stats.addAborted)

/-- Aborts the requests of jobs, and counts those that had no outcome before. -/
def abortJobs (jobs : List (Job Snapshot Callback)) : Nat × Scheduler Snapshot Callback Output :=
  (jobs.filterMap Job.request?).foldl
    (fun (count, next) request =>
      let (one, aborted) := next.abort request.id
      (count + one, aborted))
    (0, scheduler)

/-- The first part of a shutdown. Without a running worker it is over at once; otherwise the token has
fired, nothing but the order to leave waits any more, and the shutdown waits for the worker. -/
def shutdown : Option ShutdownReport × Scheduler Snapshot Callback Output :=
  match scheduler.lifecycle with
  | .idle => (some ⟨.notStarted, 0⟩, { scheduler with lifecycle := .stopped })
  | .stopped => (some ⟨.alreadyStopped, 0⟩, scheduler)
  | .running =>
      let (drained, mailbox) := scheduler.mailbox.reset .terminate
      let stopped := { scheduler with lifecycle := .stopped, cancelled := true, mailbox }
      let (count, aborted) := stopped.abortJobs drained
      (none, { aborted with closing := some count })

/-- The worker has left while the shutdown was waiting for it. -/
def joinWorker : Option (ShutdownReport × Scheduler Snapshot Callback Output) :=
  match scheduler.closing, scheduler.worker with
  | some count, .exited => some (⟨.completed, count⟩, { scheduler with closing := none })
  | _, _ => none

/-- The shutdown has waited long enough: the worker is given up and the request it published is
aborted. -/
def giveUpWorker : Option (ShutdownReport × Scheduler Snapshot Callback Output) :=
  match scheduler.closing with
  | none => none
  | some count =>
      if scheduler.worker.hasExited then none
      else
        match scheduler.inFlight with
        | none => some (⟨.timedOut, count⟩, { scheduler with closing := none })
        | some id =>
            let (one, aborted) := { scheduler with inFlight := none }.abort id
            some (⟨.timedOut, count + one⟩, { aborted with closing := none })

end Scheduler

end EditorAnalysis
