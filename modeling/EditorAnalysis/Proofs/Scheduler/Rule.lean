import EditorAnalysis.Proofs.Scheduler.Outcome
import EditorAnalysis.Scheduler.Run

/-!
# The rules of a step

`Scheduler.step` is written for running. `Scheduler.Rule` says the same with one rule for each thing
that can happen in a step, its guards as premises and the state after it as a record update.
`Scheduler.rule_of_step` is the only proof that looks into the functions behind the events; what a
step preserves is proved by cases on the rules.
-/

namespace EditorAnalysis

variable {Snapshot Callback Output : Type}

/-- A request as it enters the queue, bound to the worker's token. -/
def Request.bound (request : Request Snapshot Callback) : Request Snapshot Callback :=
  { request with token := .worker }

@[simp]
theorem Request.id_bound (request : Request Snapshot Callback) : request.bound.id = request.id := rfl

/-- The event is a step of the worker. -/
def Event.isWorker : Event Snapshot Callback Output → Bool
  | .workerPoll | .workerReceive | .workerBegin | .workerAnswer _ | .workerRecord _ _
  | .workerDeliver | .workerPost _ | .workerClear => true
  | _ => false

/-- The submission that an event carries on. -/
def Event.callId? : Event Snapshot Callback Output → Option RequestId
  | .enqueue id _ | .answerCall id _ | .recordCall id _ _ | .returnCall id => some id
  | _ => none

namespace Scheduler

open Completion (endAll)

/-- The submission that an event makes, with its idle mark and the version source's answer. -/
inductive Submits (scheduler : Scheduler Snapshot Callback Output) :
    Event Snapshot Callback Output → Submission Snapshot Callback → Bool → Attempt Version →
      Instant → Prop where
  | submit (submission : Submission Snapshot Callback) (reading : Attempt Version)
      (now : Instant) :
      Submits scheduler (.submit submission reading now) submission false reading now
  | idle {trigger : IdleTrigger Snapshot Callback} (reading : Attempt Version) (now : Instant)
      (decided : scheduler.idleDecision trigger.needsRefresh trigger.quiet = .submit) :
      Submits scheduler (.idle trigger reading now) trigger.submission true reading now

/-- The request made of a submission. -/
def built (scheduler : Scheduler Snapshot Callback Output)
    (submission : Submission Snapshot Callback) (idleTriggered : Bool) (bufferVersion : Version)
    (now : Instant) : Request Snapshot Callback :=
  { toSubmission := submission, id := scheduler.completions.length, bufferVersion, idleTriggered,
    submittedAt := now }

/-- What one event can do to a scheduler. -/
inductive Rule (scheduler : Scheduler Snapshot Callback Output) :
    Event Snapshot Callback Output → Scheduler Snapshot Callback Output → Prop where
  | setActive (source : Option SourceId) :
      Rule scheduler (.setActive source) { scheduler with cache := scheduler.cache.setActive source }
  | startAgain {launch : Launch} (running : scheduler.lifecycle = .running) :
      Rule scheduler (.start launch) scheduler
  | startFailed {launch : Launch} {failure : StartFailure}
      (failed : scheduler.start launch = .error failure) :
      Rule scheduler (.start launch) scheduler
  | started {launch : Launch} (idle : scheduler.lifecycle = .idle) :
      Rule scheduler (.start launch) { scheduler with lifecycle := .running, worker := .looping }
  | refused {event : Event Snapshot Callback Output} {submission : Submission Snapshot Callback}
      {idleTriggered : Bool} {reading : Attempt Version} {now : Instant}
      (submits : scheduler.Submits event submission idleTriggered reading now)
      (stopped : scheduler.lifecycle = .stopped) :
      Rule scheduler event scheduler
  | declined {trigger : IdleTrigger Snapshot Callback} {reading : Attempt Version} {now : Instant}
      (decided : scheduler.idleDecision trigger.needsRefresh trigger.quiet ≠ .submit) :
      Rule scheduler (.idle trigger reading now) scheduler
  | faulted {event : Event Snapshot Callback Output} {submission : Submission Snapshot Callback}
      {idleTriggered : Bool} {payload : Payload} {now : Instant}
      (submits : scheduler.Submits event submission idleTriggered (.error payload) now)
      (open_ : scheduler.lifecycle ≠ .stopped) :
      Rule scheduler event { scheduler with stats := scheduler.stats.addSubmitted }
  | openedRecent {event : Event Snapshot Callback Output}
      {submission : Submission Snapshot Callback} {idleTriggered : Bool} {version : Version}
      {now : Instant} {analysis : Analysis Output}
      (submits : scheduler.Submits event submission idleTriggered (.ok version) now)
      (open_ : scheduler.lifecycle ≠ .stopped)
      (path : scheduler.path submission = .recent analysis) :
      Rule scheduler event { scheduler with
        stats := scheduler.stats.addSubmitted.addFastPathHit.addDelivered
        completions :=
          scheduler.completions ++ [Completion.pending.finish (.completed analysis)]
        calls := scheduler.calls ++
          [⟨scheduler.built submission idleTriggered version now, .callingBack analysis⟩] }
  | openedInline {event : Event Snapshot Callback Output}
      {submission : Submission Snapshot Callback} {idleTriggered : Bool} {version : Version}
      {now : Instant}
      (submits : scheduler.Submits event submission idleTriggered (.ok version) now)
      (open_ : scheduler.lifecycle ≠ .stopped) (path : scheduler.path submission = .inline) :
      Rule scheduler event { scheduler with
        stats := scheduler.stats.addSubmitted.addExecuted
        completions := scheduler.completions ++ [Completion.pending]
        calls := scheduler.calls ++
          [⟨scheduler.built submission idleTriggered version now, .executing⟩] }
  | openedQueued {event : Event Snapshot Callback Output}
      {submission : Submission Snapshot Callback} {idleTriggered : Bool} {version : Version}
      {now : Instant}
      (submits : scheduler.Submits event submission idleTriggered (.ok version) now)
      (open_ : scheduler.lifecycle ≠ .stopped) (path : scheduler.path submission = .queued) :
      Rule scheduler event { scheduler with
        stats := scheduler.stats.addSubmitted
        completions := scheduler.completions ++ [Completion.pending]
        calls := scheduler.calls ++
          [⟨scheduler.built submission idleTriggered version now, .queueing⟩] }
  | turnedAway {id : RequestId} {launch : Launch} {request : Request Snapshot Callback}
      {failure : StartFailure} (found : scheduler.call? id = some ⟨request, .queueing⟩)
      (failed : scheduler.start launch = .error failure) :
      Rule scheduler (.enqueue id launch) { scheduler with
        completions := endAll .abandoned [id] scheduler.completions
        calls := scheduler.calls.filter fun call => call.request.id != id }
  | enqueued {id : RequestId} {launch : Launch} {request : Request Snapshot Callback}
      {pushed : Pushed (Job Snapshot Callback)} {mailbox : LaneSlots (Job Snapshot Callback)}
      (found : scheduler.call? id = some ⟨request, .queueing⟩)
      (open_ : scheduler.lifecycle ≠ .stopped)
      (pushes : scheduler.mailbox.push (.analyze request.bound) = (pushed, mailbox))
      (launched : ∃ started, scheduler.start launch = .ok started) :
      Rule scheduler (.enqueue id launch) { scheduler with
        lifecycle := .running
        worker := if scheduler.lifecycle = .idle then .looping else scheduler.worker
        mailbox
        completions := endAll .displaced (Job.requestIds pushed.displaced) scheduler.completions
        stats := { scheduler.stats with
          displaced := scheduler.stats.displaced +
            UInt64.ofNat (Job.requestIds pushed.displaced).length }
        calls := scheduler.calls.filter fun call => call.request.id != id }
  | answeredCall {id : RequestId} {execution : Execution Output}
      {request : Request Snapshot Callback} {analysis : Analysis Output}
      (found : scheduler.call? id = some ⟨request, .executing⟩)
      (ready : execution.verdict = .ready analysis) :
      Rule scheduler (.answerCall id execution) (scheduler.setPhase id (.recording analysis))
  | failedCall {id : RequestId} {execution : Execution Output}
      {request : Request Snapshot Callback}
      (found : scheduler.call? id = some ⟨request, .executing⟩)
      (failed : execution.verdict = .failed) :
      Rule scheduler (.answerCall id execution) { scheduler with
        completions := endAll .abandoned [id] scheduler.completions
        stats := if (scheduler.outcome? id).isSome then scheduler.stats
          else scheduler.stats.addAbandoned
        calls := scheduler.calls.filter fun call => call.request.id != id }
  | cancelledCall {id : RequestId} {execution : Execution Output}
      {request : Request Snapshot Callback}
      (found : scheduler.call? id = some ⟨request, .executing⟩)
      (cancelled : execution.verdict = .cancelled) :
      Rule scheduler (.answerCall id execution) { scheduler with
        completions := endAll .aborted [id] scheduler.completions
        stats := if (scheduler.outcome? id).isSome then scheduler.stats
          else scheduler.stats.addAborted
        calls := scheduler.calls.filter fun call => call.request.id != id }
  | faultedCall {id : RequestId} {reading : Attempt Version} {now : Instant}
      {request : Request Snapshot Callback} {analysis : Analysis Output} {payload : Payload}
      (found : scheduler.call? id = some ⟨request, .recording analysis⟩)
      (fault : scheduler.recordResult request analysis reading now = .error payload) :
      Rule scheduler (.recordCall id reading now) { scheduler with
        completions := endAll .abandoned [id] scheduler.completions
        calls := scheduler.calls.filter fun call => call.request.id != id }
  | lostCall {id : RequestId} {reading : Attempt Version} {now : Instant}
      {request : Request Snapshot Callback} {analysis : Analysis Output}
      {recorded : Scheduler Snapshot Callback Output}
      (found : scheduler.call? id = some ⟨request, .recording analysis⟩)
      (records : scheduler.recordResult request analysis reading now = .ok recorded)
      (lost : (scheduler.outcome? id).isSome) :
      Rule scheduler (.recordCall id reading now) { scheduler with
        cache := recorded.cache
        lastCompletionMs := recorded.lastCompletionMs
        calls := scheduler.calls.filter fun call => call.request.id != id }
  | deliveredCall {id : RequestId} {reading : Attempt Version} {now : Instant}
      {request : Request Snapshot Callback} {analysis : Analysis Output}
      {recorded : Scheduler Snapshot Callback Output}
      (found : scheduler.call? id = some ⟨request, .recording analysis⟩)
      (records : scheduler.recordResult request analysis reading now = .ok recorded)
      (pending : scheduler.outcome? id = none) :
      Rule scheduler (.recordCall id reading now) (setPhase { scheduler with
        cache := recorded.cache
        lastCompletionMs := recorded.lastCompletionMs
        completions := endAll (.completed analysis) [id] scheduler.completions
        stats := scheduler.stats.addDelivered } id (.callingBack analysis))
  | returnedCall {id : RequestId} {request : Request Snapshot Callback}
      {analysis : Analysis Output}
      (found : scheduler.call? id = some ⟨request, .callingBack analysis⟩) :
      Rule scheduler (.returnCall id) { scheduler with
        calls := scheduler.calls.filter fun call => call.request.id != id }
  | polled (looping : scheduler.worker = .looping) :
      Rule scheduler .workerPoll { scheduler with
        worker := if scheduler.cancelled then .exited else .receiving }
  | receivedNone {mailbox : LaneSlots (Job Snapshot Callback)}
      (receiving : scheduler.worker = .receiving)
      (pops : scheduler.mailbox.pop = (none, mailbox)) :
      Rule scheduler .workerReceive { scheduler with mailbox, worker := .looping }
  | receivedTerminate {mailbox : LaneSlots (Job Snapshot Callback)}
      (receiving : scheduler.worker = .receiving)
      (pops : scheduler.mailbox.pop = (some .terminate, mailbox)) :
      Rule scheduler .workerReceive { scheduler with mailbox, worker := .exited }
  | receivedRequest {mailbox : LaneSlots (Job Snapshot Callback)}
      {request : Request Snapshot Callback} (receiving : scheduler.worker = .receiving)
      (pops : scheduler.mailbox.pop = (some (.analyze request), mailbox)) :
      Rule scheduler .workerReceive { scheduler with mailbox, worker := .holding request }
  | skipped {request : Request Snapshot Callback} (holding : scheduler.worker = .holding request)
      (cancelled : scheduler.cancelled = true) :
      Rule scheduler .workerBegin { scheduler with
        completions := endAll .aborted [request.id] scheduler.completions
        stats := if (scheduler.outcome? request.id).isSome then scheduler.stats
          else scheduler.stats.addAborted
        worker := .clearing true }
  | began {request : Request Snapshot Callback} (holding : scheduler.worker = .holding request)
      (uncancelled : scheduler.cancelled = false) :
      Rule scheduler .workerBegin { scheduler with
        inFlight := some request.id
        busy := true
        stats := scheduler.stats.addExecuted
        worker := .executing request }
  | answered {execution : Execution Output} {request : Request Snapshot Callback}
      {analysis : Analysis Output} (executing : scheduler.worker = .executing request)
      (ready : execution.verdict = .ready analysis) :
      Rule scheduler (.workerAnswer execution)
        { scheduler with worker := .recording request analysis }
  | failed {execution : Execution Output} {request : Request Snapshot Callback}
      (executing : scheduler.worker = .executing request)
      (failed : execution.verdict = .failed) :
      Rule scheduler (.workerAnswer execution) { scheduler with
        completions := endAll .abandoned [request.id] scheduler.completions
        stats := if (scheduler.outcome? request.id).isSome then scheduler.stats
          else scheduler.stats.addAbandoned
        worker := .clearing false }
  | gaveUp {execution : Execution Output} {request : Request Snapshot Callback}
      (executing : scheduler.worker = .executing request)
      (cancelled : execution.verdict = .cancelled) :
      Rule scheduler (.workerAnswer execution) { scheduler with
        completions := endAll .aborted [request.id] scheduler.completions
        stats := if (scheduler.outcome? request.id).isSome then scheduler.stats
          else scheduler.stats.addAborted
        worker := .clearing scheduler.cancelled }
  | recordFaulted {reading : Attempt Version} {now : Instant}
      {request : Request Snapshot Callback} {analysis : Analysis Output} {payload : Payload}
      (recording : scheduler.worker = .recording request analysis)
      (fault : scheduler.recordResult request analysis reading now = .error payload) :
      Rule scheduler (.workerRecord reading now) { scheduler with
        completions := endAll .abandoned [request.id] scheduler.completions
        worker := .clearing false }
  | recorded {reading : Attempt Version} {now : Instant}
      {request : Request Snapshot Callback} {analysis : Analysis Output}
      {next : Scheduler Snapshot Callback Output}
      (recording : scheduler.worker = .recording request analysis)
      (records : scheduler.recordResult request analysis reading now = .ok next) :
      Rule scheduler (.workerRecord reading now) { scheduler with
        cache := next.cache
        lastCompletionMs := next.lastCompletionMs
        worker := .delivering request analysis }
  | superseded {request : Request Snapshot Callback} {analysis : Analysis Output}
      (delivering : scheduler.worker = .delivering request analysis)
      (outdone : scheduler.isOutdone request = true) :
      Rule scheduler .workerDeliver { scheduler with
        completions := endAll .superseded [request.id] scheduler.completions
        stats := if (scheduler.outcome? request.id).isSome then scheduler.stats
          else scheduler.stats.addSuperseded
        worker := .clearing false }
  | lost {request : Request Snapshot Callback} {analysis : Analysis Output}
      (delivering : scheduler.worker = .delivering request analysis)
      (wanted : scheduler.isOutdone request = false)
      (lost : (scheduler.outcome? request.id).isSome) :
      Rule scheduler .workerDeliver { scheduler with worker := .clearing false }
  | completed {request : Request Snapshot Callback} {analysis : Analysis Output}
      (delivering : scheduler.worker = .delivering request analysis)
      (wanted : scheduler.isOutdone request = false)
      (pending : scheduler.outcome? request.id = none) :
      Rule scheduler .workerDeliver { scheduler with
        completions := endAll (.completed analysis) [request.id] scheduler.completions
        stats := scheduler.stats.addDelivered
        worker := .posting request analysis }
  | posted {request : Request Snapshot Callback} {analysis : Analysis Output}
      (posting : scheduler.worker = .posting request analysis) :
      Rule scheduler (.workerPost true) { scheduler with
        ui := scheduler.ui.post ⟨request, analysis⟩
        worker := .clearing false }
  | dropped {request : Request Snapshot Callback} {analysis : Analysis Output}
      (posting : scheduler.worker = .posting request analysis) :
      Rule scheduler (.workerPost false) { scheduler with worker := .clearing false }
  | cleared {leaves : Bool} (clearing : scheduler.worker = .clearing leaves) :
      Rule scheduler .workerClear { scheduler with
        inFlight := none
        busy := false
        worker := if leaves then .exited else .looping }
  | neverStarted (idle : scheduler.lifecycle = .idle) :
      Rule scheduler .shutdown { scheduler with lifecycle := .stopped }
  | stoppedAgain (stopped : scheduler.lifecycle = .stopped) :
      Rule scheduler .shutdown scheduler
  | stopping {count : Nat} {aborted : Scheduler Snapshot Callback Output}
      (running : scheduler.lifecycle = .running)
      (aborts : abortJobs { scheduler with
        lifecycle := .stopped, cancelled := true, mailbox := ⟨some .terminate, none⟩ }
          scheduler.mailbox.toList = (count, aborted)) :
      Rule scheduler .shutdown { scheduler with
        lifecycle := .stopped
        cancelled := true
        mailbox := ⟨some .terminate, none⟩
        completions :=
          endAll .aborted (Job.requestIds scheduler.mailbox.toList) scheduler.completions
        stats := aborted.stats
        closing := some count }
  | joined {count : Nat} (closing : scheduler.closing = some count)
      (exited : scheduler.worker = .exited) :
      Rule scheduler .joinWorker { scheduler with closing := none }
  | gaveUpNothing {count : Nat} (closing : scheduler.closing = some count)
      (present : scheduler.worker.hasExited = false) (unpublished : scheduler.inFlight = none) :
      Rule scheduler .giveUpWorker { scheduler with closing := none }
  | gaveUpRequest {count : Nat} {id : RequestId} (closing : scheduler.closing = some count)
      (present : scheduler.worker.hasExited = false)
      (published : scheduler.inFlight = some id) :
      Rule scheduler .giveUpWorker { scheduler with
        inFlight := none
        completions := endAll .aborted [id] scheduler.completions
        stats := if (scheduler.outcome? id).isSome then scheduler.stats
          else scheduler.stats.addAborted
        closing := none }
  | pumped {answered : Answered Snapshot Callback Output}
      {rest : List (Answered Snapshot Callback Output)}
      (jobs : scheduler.ui.jobs = answered :: rest) :
      Rule scheduler .pump { scheduler with ui := { scheduler.ui with jobs := rest } }
  | droppedPump :
      Rule scheduler .dropPump { scheduler with ui := scheduler.ui.dropPump }

variable {scheduler next : Scheduler Snapshot Callback Output}
  {event : Event Snapshot Callback Output}

theorem start_eq_ok {launch : Launch} {started : Scheduler Snapshot Callback Output}
    (launched : scheduler.start launch = .ok started) :
    scheduler.lifecycle ≠ .stopped ∧ started = { scheduler with
      lifecycle := .running
      worker := if scheduler.lifecycle = .idle then .looping else scheduler.worker } := by
  unfold start at launched
  split at launched
  · next running =>
    cases launched
    refine ⟨by simp [running], ?_⟩
    cases scheduler
    simp_all
  · cases launched
  · next idle =>
    split at launched
    · cases launched
    · cases launched
    · cases launched
      simp [idle]

/-- What is remembered once an analysis is recorded. -/
def cacheAfter (scheduler : Scheduler Snapshot Callback Output) (request : Request Snapshot Callback)
    (analysis : Analysis Output) (reading : Attempt Version) : Attempt (RecencyCache Output) :=
  if request.reason.updatesRecentResult && !analysis.aborted then
    reading.map fun current =>
      if analysis.version = current then scheduler.cache.record request.source analysis
      else scheduler.cache
  else .ok scheduler.cache

section Record

variable {request : Request Snapshot Callback} {analysis : Analysis Output}
  {reading : Attempt Version} {now : Instant} {recorded : Scheduler Snapshot Callback Output}

/-- Recording an analysis is remembering it and leaving the duration of an idle check. -/
theorem recordResult_eq (scheduler : Scheduler Snapshot Callback Output)
    (request : Request Snapshot Callback) (analysis : Analysis Output) (reading : Attempt Version)
    (now : Instant) :
    scheduler.recordResult request analysis reading now =
      (scheduler.cacheAfter request analysis reading).map fun cache => { scheduler with
        cache
        lastCompletionMs := if request.idleTriggered then Instant.millisSince request.submittedAt now
          else scheduler.lastCompletionMs } := by
  unfold recordResult cacheAfter
  by_cases updates : (request.reason.updatesRecentResult && !analysis.aborted) = true
  · cases reading with
    | error payload => simp [updates, Except.map]
    | ok current =>
      by_cases fresh : analysis.version = current <;> by_cases stamps : request.idleTriggered <;>
        simp [updates, fresh, stamps, Except.map]
  · by_cases stamps : request.idleTriggered <;> simp [updates, stamps, Except.map]

theorem exists_cacheAfter
    (records : scheduler.recordResult request analysis reading now = .ok recorded) :
    ∃ cache, scheduler.cacheAfter request analysis reading = .ok cache ∧
      recorded = { scheduler with
        cache
        lastCompletionMs := if request.idleTriggered then Instant.millisSince request.submittedAt now
          else scheduler.lastCompletionMs } := by
  rw [recordResult_eq] at records
  cases remembers : scheduler.cacheAfter request analysis reading with
  | error payload =>
    rw [remembers] at records
    cases records
  | ok cache =>
    rw [remembers] at records
    exact ⟨cache, rfl, (Except.ok.inj records).symm⟩

theorem cacheAfter_of_recordResult
    (records : scheduler.recordResult request analysis reading now = .ok recorded) :
    scheduler.cacheAfter request analysis reading = .ok recorded.cache := by
  rcases exists_cacheAfter records with ⟨cache, remembers, rfl⟩
  exact remembers

/-- Recording leaves the duration of an idle check, and nothing of any other. -/
theorem lastCompletionMs_of_recordResult
    (records : scheduler.recordResult request analysis reading now = .ok recorded) :
    recorded.lastCompletionMs =
      if request.idleTriggered then Instant.millisSince request.submittedAt now
      else scheduler.lastCompletionMs := by
  rcases exists_cacheAfter records with ⟨cache, _, rfl⟩
  rfl

theorem recordResult_eq_ok
    (records : scheduler.recordResult request analysis reading now = .ok recorded) :
    recorded = { scheduler with
      cache := recorded.cache
      lastCompletionMs := recorded.lastCompletionMs } := by
  rcases exists_cacheAfter records with ⟨cache, _, rfl⟩
  rfl

/-- Recording fails only if the version source does. -/
theorem recordResult_eq_error {payload : Payload}
    (fault : scheduler.recordResult request analysis reading now = .error payload) :
    reading = .error payload := by
  unfold recordResult at fault
  by_cases updates : (request.reason.updatesRecentResult && !analysis.aborted) = true
  · cases reading with
    | error other => simpa [updates] using fault
    | ok current => by_cases fresh : analysis.version = current <;> simp [updates, fresh] at fault
  · simp [updates] at fault

end Record

theorem rule_of_openCall {submission : Submission Snapshot Callback} {idleTriggered : Bool}
    {reading : Attempt Version} {now : Instant}
    (submits : scheduler.Submits event submission idleTriggered reading now) :
    scheduler.Rule event (scheduler.openCall submission idleTriggered reading now).2 := by
  unfold openCall
  by_cases down : scheduler.lifecycle = .stopped
  · rw [if_pos (by simp [isShutDown, down])]
    exact .refused submits down
  · rw [if_neg (by simp [isShutDown, down])]
    cases reading with
    | error payload => exact .faulted submits down
    | ok version =>
      have noOutcome : Completion.recorded (scheduler.completions ++ [Completion.pending])
          scheduler.completions.length = none := by
        rw [Completion.recorded_append, if_pos rfl]
        rfl
      cases path : scheduler.path submission with
      | recent analysis =>
        have rule := Rule.openedRecent submits down path
        simpa [path, conclude, outcome?_eq_recorded, noOutcome, finish, addCall, built,
          Completion.modify_append_last] using rule
      | inline =>
        have rule := Rule.openedInline submits down path
        simpa [path, addCall, built] using rule
      | queued =>
        have rule := Rule.openedQueued submits down path
        simpa [path, addCall, built] using rule

theorem rule_of_enqueue {id : RequestId} {launch : Launch}
    (step : (scheduler.enqueue id launch).map Prod.snd = some next) :
    scheduler.Rule (.enqueue id launch) next := by
  simp only [enqueue] at step
  split at step
  · next request found =>
    split at step
    · next failure failed =>
      cases step
      exact .turnedAway found failed
    · next started launched =>
      have launches : ∃ started, scheduler.start launch = .ok started := ⟨started, launched⟩
      rcases start_eq_ok launched with ⟨open_, rfl⟩
      cases step
      rw [foldl_displace_eq]
      exact .enqueued found open_ rfl launches
  · cases step

theorem rule_of_answerCall {id : RequestId} {execution : Execution Output}
    (step : scheduler.answerCall id execution = some next) :
    scheduler.Rule (.answerCall id execution) next := by
  simp only [answerCall, conclude_eq] at step
  split at step
  · next request found =>
    split at step
    · next analysis ready =>
      cases step
      exact .answeredCall found ready
    · next failed =>
      cases step
      exact .failedCall found failed
    · next cancelled =>
      cases step
      exact .cancelledCall found cancelled
  · cases step

theorem rule_of_recordCall {id : RequestId} {reading : Attempt Version} {now : Instant}
    (step : (scheduler.recordCall id reading now).map Prod.snd = some next) :
    scheduler.Rule (.recordCall id reading now) next := by
  simp only [recordCall] at step
  split at step
  · next request analysis found =>
    split at step
    · next payload fault =>
      cases step
      exact .faultedCall found fault
    · next recorded records =>
      have same := recordResult_eq_ok records
      split at step
      · next lost =>
        cases step
        rw [same] at lost
        have rule := Rule.lostCall found records lost
        rw [same]
        exact rule
      · next pending =>
        cases step
        rw [same] at pending ⊢
        rw [Option.not_isSome_iff_eq_none] at pending
        have rule := Rule.deliveredCall found records pending
        simpa [conclude, pending, finish_eq] using rule
  · cases step

theorem rule_of_workerReceive (step : scheduler.workerReceive = some next) :
    scheduler.Rule .workerReceive next := by
  simp only [workerReceive] at step
  split at step
  · next receiving =>
    cases step
    rcases pops : scheduler.mailbox.pop with ⟨_ | job, mailbox⟩
    · exact .receivedNone receiving pops
    · cases job with
      | analyze request => exact .receivedRequest receiving pops
      | terminate => exact .receivedTerminate receiving pops
  · cases step

theorem rule_of_workerBegin (step : scheduler.workerBegin = some next) :
    scheduler.Rule .workerBegin next := by
  simp only [workerBegin, conclude_eq] at step
  split at step
  · next request holding =>
    split at step
    · next cancelled =>
      cases step
      exact .skipped holding cancelled
    · next uncancelled =>
      cases step
      exact .began holding (by simpa using uncancelled)
  · cases step

theorem rule_of_workerAnswer {execution : Execution Output}
    (step : scheduler.workerAnswer execution = some next) :
    scheduler.Rule (.workerAnswer execution) next := by
  simp only [workerAnswer, conclude_eq] at step
  split at step
  · next request executing =>
    split at step
    · next analysis ready =>
      cases step
      exact .answered executing ready
    · next failed =>
      cases step
      exact .failed executing failed
    · next cancelled =>
      cases step
      exact .gaveUp executing cancelled
  · cases step

theorem rule_of_workerRecord {reading : Attempt Version} {now : Instant}
    (step : scheduler.workerRecord reading now = some next) :
    scheduler.Rule (.workerRecord reading now) next := by
  simp only [workerRecord] at step
  split at step
  · next request analysis recording =>
    split at step
    · next payload fault =>
      cases step
      exact .recordFaulted recording fault
    · next recorded records =>
      cases step
      have rule := Rule.recorded recording records
      rw [recordResult_eq_ok records]
      exact rule
  · cases step

theorem rule_of_workerDeliver (step : scheduler.workerDeliver = some next) :
    scheduler.Rule .workerDeliver next := by
  simp only [workerDeliver] at step
  split at step
  · next request analysis delivering =>
    split at step
    · next outdone =>
      cases step
      rw [conclude_eq]
      exact .superseded delivering outdone
    · next wanted =>
      split at step
      · next lost =>
        cases step
        exact .lost delivering (by simpa using wanted) lost
      · next pending =>
        cases step
        rw [Option.not_isSome_iff_eq_none] at pending
        have rule := Rule.completed delivering (by simpa using wanted) pending
        simpa [conclude_eq, pending] using rule
  · cases step

theorem rule_of_shutdown : scheduler.Rule .shutdown scheduler.shutdown.2 := by
  simp only [shutdown]
  split
  · next idle => exact .neverStarted idle
  · next stopped => exact .stoppedAgain stopped
  · next running =>
    have rule := Rule.stopping running rfl
    rw [abortJobs_eq]
    exact rule

theorem rule_of_giveUpWorker (step : scheduler.giveUpWorker.map Prod.snd = some next) :
    scheduler.Rule .giveUpWorker next := by
  simp only [giveUpWorker] at step
  split at step
  · cases step
  · next count closing =>
    split at step
    · cases step
    · next present =>
      split at step
      · next unpublished =>
        cases step
        exact .gaveUpNothing closing (by simpa using present) unpublished
      · next id published =>
        cases step
        simp only [abort, conclude_eq]
        exact .gaveUpRequest closing (by simpa using present) published

/-- Every step follows one of the rules. -/
theorem rule_of_step (step : scheduler.step event = some next) : scheduler.Rule event next := by
  cases event with
  | setActive source =>
    cases step
    exact .setActive source
  | start launch =>
    simp only [Scheduler.step] at step
    split at step
    · next started launched =>
      rcases start_eq_ok launched with ⟨open_, rfl⟩
      cases step
      cases lifecycle : scheduler.lifecycle with
      | idle => exact .started lifecycle
      | running =>
        have same : scheduler.Rule (.start launch) scheduler := .startAgain lifecycle
        cases scheduler
        simp_all
      | stopped => exact absurd lifecycle open_
    · next failure failed =>
      cases step
      exact .startFailed failed
  | submit submission reading now =>
    cases step
    exact rule_of_openCall (.submit submission reading now)
  | idle trigger reading now =>
    cases step
    unfold onIdle
    split
    · next decided => exact rule_of_openCall (.idle reading now decided)
    · next declined => exact .declined declined
  | enqueue id launch => exact rule_of_enqueue step
  | answerCall id execution => exact rule_of_answerCall step
  | recordCall id reading now => exact rule_of_recordCall step
  | returnCall id =>
    simp only [Scheduler.step, returnCall] at step
    split at step
    · next request analysis found =>
      cases step
      exact .returnedCall found
    · cases step
  | workerPoll =>
    simp only [Scheduler.step, workerPoll] at step
    split at step
    · next looping =>
      cases step
      exact .polled looping
    · cases step
  | workerReceive => exact rule_of_workerReceive step
  | workerBegin => exact rule_of_workerBegin step
  | workerAnswer execution => exact rule_of_workerAnswer step
  | workerRecord reading now => exact rule_of_workerRecord step
  | workerDeliver => exact rule_of_workerDeliver step
  | workerPost accepted =>
    simp only [Scheduler.step, workerPost] at step
    split at step
    · next request analysis posting =>
      cases step
      cases accepted with
      | true => exact .posted posting
      | false => exact .dropped posting
    · cases step
  | workerClear =>
    simp only [Scheduler.step, workerClear] at step
    split at step
    · next leaves clearing =>
      cases step
      exact .cleared clearing
    · cases step
  | shutdown =>
    cases step
    exact rule_of_shutdown
  | joinWorker =>
    simp only [Scheduler.step, joinWorker] at step
    split at step
    · next count closing exited =>
      cases step
      exact .joined closing exited
    · cases step
  | giveUpWorker => exact rule_of_giveUpWorker step
  | pump =>
    simp only [Scheduler.step, UiQueue.take?] at step
    split at step
    · cases step
    · next answered rest jobs =>
      cases step
      exact .pumped jobs
  | dropPump =>
    cases step
    exact .droppedPump

theorem Submits.isWorker_eq_false {submission : Submission Snapshot Callback} {idleTriggered : Bool}
    {reading : Attempt Version} {now : Instant}
    (submits : scheduler.Submits event submission idleTriggered reading now) :
    event.isWorker = false := by
  cases submits <;> rfl

/-- Once it is started only its own steps move the worker. -/
theorem worker_of_rule (rule : scheduler.Rule event next) (other : event.isWorker = false)
    (begun : scheduler.lifecycle ≠ .idle) : next.worker = scheduler.worker := by
  cases rule with
  | started idle => exact absurd idle begun
  | enqueued => exact if_neg begun
  | polled | receivedNone | receivedTerminate | receivedRequest | skipped | began | answered | failed
  | gaveUp | recordFaulted | recorded | superseded | lost | completed | posted | dropped
  | cleared => cases other
  | _ => rfl

section Work

variable {request : Request Snapshot Callback} {analysis : Analysis Output}

/-- The worker skips the request it holds, or it begins it. -/
theorem Rule.of_holding (rule : scheduler.Rule event next) (works : event.isWorker = true)
    (holding : scheduler.worker = .holding request) :
    (event = .workerBegin ∧ scheduler.cancelled = true ∧ next = { scheduler with
        completions := endAll .aborted [request.id] scheduler.completions
        stats := if (scheduler.outcome? request.id).isSome then scheduler.stats
          else scheduler.stats.addAborted
        worker := .clearing true }) ∨
      event = .workerBegin ∧ scheduler.cancelled = false ∧ next = { scheduler with
        inFlight := some request.id
        busy := true
        stats := scheduler.stats.addExecuted
        worker := .executing request } := by
  cases rule with
  | skipped same cancelled =>
    cases holding.symm.trans same
    exact .inl ⟨rfl, cancelled, rfl⟩
  | began same uncancelled =>
    cases holding.symm.trans same
    exact .inr ⟨rfl, uncancelled, rfl⟩
  | refused submits | faulted submits | openedRecent submits | openedInline submits
  | openedQueued submits => simp [submits.isWorker_eq_false] at works
  | _ => simp_all [Event.isWorker]

/-- The worker comes back from the analyzer with a result, with nothing, or because it gave up. -/
theorem Rule.of_executing (rule : scheduler.Rule event next) (works : event.isWorker = true)
    (executing : scheduler.worker = .executing request) :
    ∃ execution, event = .workerAnswer execution ∧
      ((∃ analysis, execution.verdict = .ready analysis ∧
          next = { scheduler with worker := .recording request analysis }) ∨
        (execution.verdict = .failed ∧ next = { scheduler with
          completions := endAll .abandoned [request.id] scheduler.completions
          stats := if (scheduler.outcome? request.id).isSome then scheduler.stats
            else scheduler.stats.addAbandoned
          worker := .clearing false }) ∨
        execution.verdict = .cancelled ∧ next = { scheduler with
          completions := endAll .aborted [request.id] scheduler.completions
          stats := if (scheduler.outcome? request.id).isSome then scheduler.stats
            else scheduler.stats.addAborted
          worker := .clearing scheduler.cancelled }) := by
  cases rule with
  | answered same ready =>
    cases executing.symm.trans same
    exact ⟨_, rfl, .inl ⟨_, ready, rfl⟩⟩
  | failed same failed =>
    cases executing.symm.trans same
    exact ⟨_, rfl, .inr (.inl ⟨failed, rfl⟩)⟩
  | gaveUp same cancelled =>
    cases executing.symm.trans same
    exact ⟨_, rfl, .inr (.inr ⟨cancelled, rfl⟩)⟩
  | refused submits | faulted submits | openedRecent submits | openedInline submits
  | openedQueued submits => simp [submits.isWorker_eq_false] at works
  | _ => simp_all [Event.isWorker]

/-- The worker loses the result with the version source, or it records it. -/
theorem Rule.of_recording (rule : scheduler.Rule event next) (works : event.isWorker = true)
    (recording : scheduler.worker = .recording request analysis) :
    ∃ reading now, event = .workerRecord reading now ∧
      ((∃ payload, scheduler.recordResult request analysis reading now = .error payload ∧
          next = { scheduler with
            completions := endAll .abandoned [request.id] scheduler.completions
            worker := .clearing false }) ∨
        ∃ recorded, scheduler.recordResult request analysis reading now = .ok recorded ∧
          next = { scheduler with
            cache := recorded.cache
            lastCompletionMs := recorded.lastCompletionMs
            worker := .delivering request analysis }) := by
  cases rule with
  | recordFaulted same fault =>
    cases recording.symm.trans same
    exact ⟨_, _, rfl, .inl ⟨_, fault, rfl⟩⟩
  | recorded same records =>
    cases recording.symm.trans same
    exact ⟨_, _, rfl, .inr ⟨_, records, rfl⟩⟩
  | refused submits | faulted submits | openedRecent submits | openedInline submits
  | openedQueued submits => simp [submits.isWorker_eq_false] at works
  | _ => simp_all [Event.isWorker]

/-- The worker drops the result for newer work, loses it to a shutdown, or completes the request. -/
theorem Rule.of_delivering (rule : scheduler.Rule event next) (works : event.isWorker = true)
    (delivering : scheduler.worker = .delivering request analysis) :
    event = .workerDeliver ∧
      ((scheduler.isOutdone request = true ∧ next = { scheduler with
          completions := endAll .superseded [request.id] scheduler.completions
          stats := if (scheduler.outcome? request.id).isSome then scheduler.stats
            else scheduler.stats.addSuperseded
          worker := .clearing false }) ∨
        (scheduler.isOutdone request = false ∧ (scheduler.outcome? request.id).isSome ∧
          next = { scheduler with worker := .clearing false }) ∨
        scheduler.isOutdone request = false ∧ scheduler.outcome? request.id = none ∧
          next = { scheduler with
            completions := endAll (.completed analysis) [request.id] scheduler.completions
            stats := scheduler.stats.addDelivered
            worker := .posting request analysis }) := by
  cases rule with
  | superseded same outdone =>
    cases delivering.symm.trans same
    exact ⟨rfl, .inl ⟨outdone, rfl⟩⟩
  | lost same wanted lost =>
    cases delivering.symm.trans same
    exact ⟨rfl, .inr (.inl ⟨wanted, lost, rfl⟩)⟩
  | completed same wanted pending =>
    cases delivering.symm.trans same
    exact ⟨rfl, .inr (.inr ⟨wanted, pending, rfl⟩)⟩
  | refused submits | faulted submits | openedRecent submits | openedInline submits
  | openedQueued submits => simp [submits.isWorker_eq_false] at works
  | _ => simp_all [Event.isWorker]

/-- The worker posts the callback, or the dispatcher fails it. -/
theorem Rule.of_posting (rule : scheduler.Rule event next) (works : event.isWorker = true)
    (posting : scheduler.worker = .posting request analysis) :
    (event = .workerPost true ∧ next = { scheduler with
        ui := scheduler.ui.post ⟨request, analysis⟩
        worker := .clearing false }) ∨
      event = .workerPost false ∧ next = { scheduler with worker := .clearing false } := by
  cases rule with
  | posted same =>
    cases posting.symm.trans same
    exact .inl ⟨rfl, rfl⟩
  | dropped same => exact .inr ⟨rfl, rfl⟩
  | refused submits | faulted submits | openedRecent submits | openedInline submits
  | openedQueued submits => simp [submits.isWorker_eq_false] at works
  | _ => simp_all [Event.isWorker]

/-- The worker clears the marks and leaves or goes on. -/
theorem Rule.of_clearing {leaves : Bool} (rule : scheduler.Rule event next)
    (works : event.isWorker = true) (clearing : scheduler.worker = .clearing leaves) :
    event = .workerClear ∧ next = { scheduler with
      inFlight := none
      busy := false
      worker := if leaves then .exited else .looping } := by
  cases rule with
  | cleared same =>
    cases clearing.symm.trans same
    exact ⟨rfl, rfl⟩
  | refused submits | faulted submits | openedRecent submits | openedInline submits
  | openedQueued submits => simp [submits.isWorker_eq_false] at works
  | _ => simp_all [Event.isWorker]

end Work

/-- Requests are constructed one at a time, and only by a submission that is let in. -/
theorem length_of_rule (rule : scheduler.Rule event next) :
    next.completions.length = scheduler.completions.length ∨
      next.completions.length = scheduler.completions.length + 1 ∧
        scheduler.lifecycle ≠ .stopped ∧ ∃ submission idleTriggered reading now,
          scheduler.Submits event submission idleTriggered reading now := by
  cases rule with
  | openedRecent submits open_ | openedInline submits open_ | openedQueued submits open_ =>
    right
    exact ⟨by simp, open_, _, _, _, _, submits⟩
  | turnedAway | enqueued | failedCall | cancelledCall | faultedCall | deliveredCall | skipped
  | failed | gaveUp | recordFaulted | superseded | completed | stopping | gaveUpRequest =>
    left
    exact Completion.length_endAll _ _ _
  | _ => exact .inl rfl

theorem born_of_rule {id : RequestId} (rule : scheduler.Rule event next)
    (born : id < scheduler.completions.length) : id < next.completions.length := by
  apply Nat.lt_of_lt_of_le born
  rcases length_of_rule rule with same | ⟨more, _⟩
  · exact Nat.le_of_eq same.symm
  · rw [more]
    exact Nat.le_succ _

end Scheduler

end EditorAnalysis
