import EditorAnalysis.Scheduler.Error
import EditorAnalysis.Scheduler.State
import EditorAnalysis.Thread

/-!
# Submitting requests

A submission takes one of three paths (`Scheduler.path`). If the recent result will do, the request is
completed with it at once. Otherwise the analyzer runs on the submitting thread, if the submission asks
for it or queueing is switched off, or else the request enters the queue, which starts the worker if
need be.

A submission is under way from `openCall` on. The steps after that are `enqueue`, on the third path;
on the second `answerCall`, with what the analyzer came to, and `recordCall`, with the version of the
buffer at that moment; and `returnCall` when a callback run on the submitting thread is over. Answers
of collaborators are arguments, exceptions included, so that other threads, and the collaborators
themselves, may act between the steps.
-/

namespace EditorAnalysis

variable {Snapshot Callback Output : Type}

/-- The way a submission is answered. -/
inductive Path (Output : Type) where
  /-- By the recent result. -/
  | recent (analysis : Analysis Output)
  /-- By the analyzer, on the submitting thread. -/
  | inline
  /-- By the analyzer, on the worker. -/
  | queued
  deriving DecidableEq, Repr

/-- What the operating system did when asked for a thread. -/
inductive Launch where
  | started
  /-- There was none to be had, for the given reason. -/
  | failed (cause : String)
  deriving DecidableEq, Repr

/-- Why the worker is not running. -/
inductive StartFailure where
  /-- An error that the caller is told. -/
  | error (error : SchedulerError)
  /-- The name in the settings is none that a thread may have, which ends the call by an exception. -/
  | badName
  deriving DecidableEq, Repr

/-- What the first part of a submission came to. -/
inductive Opening where
  | refused
  /-- The version source raised an exception. -/
  | faulted (payload : Payload)
  /-- A request was constructed. -/
  | opened (handle : Handle)
  deriving DecidableEq, Repr

/-- What an analyzer call came to once its failures were contained. -/
inductive Verdict (Output : Type) where
  /-- There is an analysis. -/
  | ready (analysis : Analysis Output)
  /-- The analyzer failed or raised an exception. -/
  | failed
  /-- The analyzer gave up on cancellation. -/
  | cancelled
  deriving DecidableEq, Repr

/-- Contains the failures of an analyzer call. -/
def Execution.verdict : Execution Output → Verdict Output
  | .ok (.ok analysis) => .ready analysis
  | .ok (.error .cancelled) => .cancelled
  | .ok (.error _) => .failed
  | .error _ => .failed

namespace Scheduler

variable (scheduler : Scheduler Snapshot Callback Output)

/-- The recent result a submission may be answered with. -/
def remembered (submission : Submission Snapshot Callback) : Option (Analysis Output) :=
  if !submission.requireFresh && scheduler.sufficient submission.reason then
    scheduler.cache.lookup submission.source
  else none

/-- The path of a submission. -/
def path (submission : Submission Snapshot Callback) : Path Output :=
  match scheduler.remembered submission with
  | some analysis => .recent analysis
  | none =>
      if submission.synchronous || !scheduler.config.asyncEnabled then .inline else .queued

/-- Starts the worker if it is not running yet. -/
def start (launch : Launch) : Except StartFailure (Scheduler Snapshot Callback Output) :=
  match scheduler.lifecycle with
  | .running => .ok scheduler
  | .stopped => .error (.error .shutDown)
  | .idle =>
      match ThreadName.ofString? scheduler.config.threadName, launch with
      | none, _ => .error .badName
      | some _, .failed cause => .error (.error (.spawn cause))
      | some _, .started => .ok { scheduler with lifecycle := .running, worker := .looping }

/-- Makes another document the active one, or none. -/
def setActive (source : Option SourceId) : Scheduler Snapshot Callback Output :=
  { scheduler with cache := scheduler.cache.setActive source }

/-- Adds a submission under way. -/
def addCall (request : Request Snapshot Callback) (phase : CallPhase Output) :
    Scheduler Snapshot Callback Output :=
  { scheduler with calls := scheduler.calls ++ [⟨request, phase⟩] }

/-- The first part of a submission. It is counted, the version of the buffer is asked for, a request is
constructed and its path chosen. On the first path the request is completed and its callback begins;
on the second the analyzer call begins. -/
def openCall (submission : Submission Snapshot Callback) (idleTriggered : Bool)
    (reading : Attempt Version) (now : Instant) :
    Opening × Scheduler Snapshot Callback Output :=
  if scheduler.isShutDown then (.refused, scheduler)
  else
    let counted := { scheduler with stats := scheduler.stats.addSubmitted }
    match reading with
    | .error payload => (.faulted payload, counted)
    | .ok bufferVersion =>
        let id := scheduler.completions.length
        let request : Request Snapshot Callback :=
          { toSubmission := submission, id, bufferVersion, idleTriggered, submittedAt := now }
        let handle (synchronous : Bool) : Opening :=
          .opened { id, reason := submission.reason, bufferVersion, synchronous }
        let built := { counted with completions := counted.completions ++ [Completion.pending] }
        match scheduler.path submission with
        | .recent analysis =>
            let hit := { built with stats := built.stats.addFastPathHit }
            let answered := hit.conclude id (.completed analysis) Stats.addDelivered
            (handle true, answered.addCall request (.callingBack analysis))
        | .inline =>
            let begun := { built with stats := built.stats.addExecuted }
            (handle true, begun.addCall request .executing)
        | .queued => (handle false, built.addCall request .queueing)

/-- Ends a job thrown out of the queue by a newer one, and counts it. -/
def displace (job : Job Snapshot Callback) : Scheduler Snapshot Callback Output :=
  match job with
  | .analyze request =>
      { scheduler.finish request.id .displaced with stats := scheduler.stats.addDisplaced }
  | .terminate => scheduler

/-- Lets a request into the queue, after starting the worker if need be. If that fails the request is
dropped, and with it abandoned without being counted. -/
def enqueue (id : RequestId) (launch : Launch) :
    Option (Except StartFailure Unit × Scheduler Snapshot Callback Output) :=
  match scheduler.call? id with
  | some { request, phase := .queueing } =>
      match scheduler.start launch with
      | .error failure => some (.error failure, (scheduler.finish id .abandoned).endCall id)
      | .ok started =>
          let (pushed, mailbox) := started.mailbox.push (.analyze { request with token := .worker })
          let sent := { started with mailbox }
          some (.ok (), (pushed.displaced.foldl displace sent).endCall id)
  | _ => none

/-- Records the side effects of an analysis before it is delivered. A result that is remembered must be
as recent as the buffer, whose version is asked for only then; an idle check leaves its duration. -/
def recordResult (request : Request Snapshot Callback) (analysis : Analysis Output)
    (reading : Attempt Version) (now : Instant) : Attempt (Scheduler Snapshot Callback Output) :=
  let stamp (next : Scheduler Snapshot Callback Output) : Scheduler Snapshot Callback Output :=
    if request.idleTriggered then
      { next with lastCompletionMs := Instant.millisSince request.submittedAt now }
    else next
  if request.reason.updatesRecentResult && !analysis.aborted then
    match reading with
    | .error payload => .error payload
    | .ok current =>
        if analysis.version = current then
          .ok (stamp { scheduler with cache := scheduler.cache.record request.source analysis })
        else .ok (stamp scheduler)
  else .ok (stamp scheduler)

/-- The analyzer call on a submitting thread is over. -/
def answerCall (id : RequestId) (execution : Execution Output) :
    Option (Scheduler Snapshot Callback Output) :=
  match scheduler.call? id with
  | some { phase := .executing, .. } =>
      match execution.verdict with
      | .ready analysis => some (scheduler.setPhase id (.recording analysis))
      | .failed => some ((scheduler.conclude id .abandoned Stats.addAbandoned).endCall id)
      | .cancelled => some ((scheduler.conclude id .aborted Stats.addAborted).endCall id)
  | _ => none

/-- The analysis of a submitting thread is recorded and delivered, and its callback begins. If the
version source raises an exception the request is dropped, and the exception ends the submission. -/
def recordCall (id : RequestId) (reading : Attempt Version) (now : Instant) :
    Option (Attempt Unit × Scheduler Snapshot Callback Output) :=
  match scheduler.call? id with
  | some { request, phase := .recording analysis } =>
      match scheduler.recordResult request analysis reading now with
      | .error payload => some (.error payload, (scheduler.finish id .abandoned).endCall id)
      | .ok recorded =>
          if (recorded.outcome? id).isSome then some (.ok (), recorded.endCall id)
          else
            let delivered := recorded.conclude id (.completed analysis) Stats.addDelivered
            some (.ok (), delivered.setPhase id (.callingBack analysis))
  | _ => none

/-- The callback on a submitting thread is over, by returning or by an exception. -/
def returnCall (id : RequestId) : Option (Scheduler Snapshot Callback Output) :=
  match scheduler.call? id with
  | some { phase := .callingBack _, .. } => some (scheduler.endCall id)
  | _ => none

end Scheduler

end EditorAnalysis
