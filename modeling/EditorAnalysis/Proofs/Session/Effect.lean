import EditorAnalysis.Proofs.Scheduler.Busy
import EditorAnalysis.Proofs.Scheduler.Coalescing
import EditorAnalysis.Proofs.Session.Deed

/-!
# What a step adds to the ledger

Most steps that carry a deed on begin nothing: no handle is handed out, and no analyzer call and no
callback begins. What such a step adds to the ledger is read off the scheduler after it.
-/

namespace EditorAnalysis

variable {Snapshot Callback Output : Type}

theorem Completion.map_outcome_endAll {cells : List (Completion Output)} {id : RequestId}
    (outcome : Outcome Output) (pending : recorded cells id = none) :
    (endAll outcome [id] cells).map Completion.outcome =
      (cells.map Completion.outcome).set id (some outcome) := by
  apply List.ext_getElem?
  intro index
  simp only [recorded] at pending
  simp only [endAll, List.foldl_cons, List.foldl_nil, List.getElem?_map, List.getElem?_modify,
    List.getElem?_set, List.length_map]
  by_cases same : id = index
  · subst same
    cases found : cells[id]? with
    | none =>
      have beyond := List.getElem?_eq_none_iff.mp found
      simp [Nat.not_lt.mpr beyond]
    | some cell =>
      have inside := (List.getElem?_eq_some_iff.mp found).1
      have unended : cell.outcome = none := by simpa [found] using pending
      simp [inside, outcome_finish, unended]
  · simp [same]

/-- The worker waits for work, or will once it has cleared its marks. -/
def Worker.Free : Worker Snapshot Callback Output → Prop
  | .looping | .receiving | .clearing false => True
  | _ => False

namespace Scheduler

variable {scheduler before after : Scheduler Snapshot Callback Output}
  {event : Event Snapshot Callback Output}

/-- Nothing waits, and the worker is free or was never started. -/
structure Rests (scheduler : Scheduler Snapshot Callback Output) : Prop where
  mailbox : scheduler.mailbox = {}
  worker : scheduler.lifecycle = .idle ∧ scheduler.worker = .unstarted ∨
    scheduler.lifecycle = .running ∧ scheduler.worker.Free

/-- Nothing moves but a free worker. -/
structure Still (scheduler : Scheduler Snapshot Callback Output) : Prop where
  calls : scheduler.calls = []
  rests : scheduler.Rests
  jobs : scheduler.ui.jobs = []

theorem Rests.request?_eq_none (rests : scheduler.Rests) : scheduler.worker.request? = none := by
  rcases rests.worker with ⟨_, never⟩ | ⟨_, free⟩
  · simp [never, Worker.request?]
  · cases at_ : scheduler.worker <;> simp [at_, Worker.Free, Worker.request?] at free ⊢

theorem Rests.ne_executing (rests : scheduler.Rests) (request : Request Snapshot Callback) :
    scheduler.worker ≠ .executing request := by
  intro executing
  simpa [executing, Worker.request?] using rests.request?_eq_none

theorem Rests.analyzing_eq (rests : scheduler.Rests) :
    scheduler.analyzing = scheduler.calls.filterMap fun call =>
      match call.phase with
      | .executing => some call.request
      | _ => none := by
  cases at_ : scheduler.worker with
  | executing request => exact absurd at_ (rests.ne_executing request)
  | _ =>
    simp only [analyzing, at_]
    exact List.append_nil _

/-- A free worker goes on to be free until it takes a request. -/
theorem free_of_worker (free : before.worker.Free) (uncancelled : before.cancelled = false)
    (rule : before.Rule event after) (works : event.isWorker = true)
    (notReceive : event ≠ .workerReceive) :
    ∃ worker inFlight busy, after = { before with worker, inFlight, busy } ∧ worker.Free := by
  cases rule with
  | polled looping =>
    refine ⟨_, _, _, rfl, ?_⟩
    rw [uncancelled]
    exact trivial
  | @cleared leaves clearing =>
    cases leaves with
    | true => simp [clearing, Worker.Free] at free
    | false => exact ⟨.looping, none, false, rfl, trivial⟩
  | receivedNone | receivedTerminate | receivedRequest => exact absurd rfl notReceive
  | skipped at_ | began at_ | answered at_ | failed at_ | gaveUp at_ | recordFaulted at_
  | recorded at_ | superseded at_ | lost at_ | completed at_ | posted at_ | dropped at_ =>
    simp [at_, Worker.Free] at free
  | refused submits | faulted submits | openedRecent submits | openedInline submits
  | openedQueued submits => simp [submits.isWorker_eq_false] at works
  | _ => cases works

theorem Rests.work (rests : before.Rests) (uncancelled : before.cancelled = false)
    (rule : before.Rule event after) (works : event.isWorker = true) :
    ∃ worker inFlight busy, after = { before with worker, inFlight, busy } ∧ after.Rests := by
  rcases rests.worker with ⟨_, never⟩ | ⟨running, free⟩
  · cases rule with
    | refused submits | faulted submits | openedRecent submits | openedInline submits
    | openedQueued submits => simp [submits.isWorker_eq_false] at works
    | _ => simp_all [Event.isWorker]
  · by_cases receives : event = .workerReceive
    · subst receives
      have empty : before.mailbox.pop = (none, {}) := by rw [rests.mailbox]; rfl
      cases rule with
      | receivedNone receiving pops =>
        rw [empty] at pops
        cases pops
        refine ⟨.looping, before.inFlight, before.busy, ?_, rfl, .inr ⟨running, trivial⟩⟩
        rw [← rests.mailbox]
      | receivedTerminate receiving pops | receivedRequest receiving pops =>
        rw [empty] at pops
        cases pops
      | refused submits | faulted submits | openedRecent submits | openedInline submits
      | openedQueued submits => cases submits
    · rcases free_of_worker free uncancelled rule works receives
        with ⟨worker, inFlight, busy, rfl, free⟩
      exact ⟨worker, inFlight, busy, rfl, rests.mailbox, .inr ⟨running, free⟩⟩

/-- What holds of the scheduler throughout a session. -/
structure Sane (sufficient : Reason → Bool) (scheduler : Scheduler Snapshot Callback Output) :
    Prop where
  sound : scheduler.Sound
  flagged : scheduler.Flagged
  open_ : scheduler.lifecycle ≠ .stopped
  named : (ThreadName.ofString? scheduler.config.threadName).isSome
  sufficient : scheduler.sufficient = sufficient
  hasPump : scheduler.ui.hasPump = true

theorem config_of_rule (rule : before.Rule event after) :
    after.config = before.config ∧ after.sufficient = before.sufficient := by
  cases rule <;> exact ⟨rfl, rfl⟩

theorem Sane.of_rule {sufficient : Reason → Bool} (sane : before.Sane sufficient)
    (rule : before.Rule event after) (notShutdown : event ≠ .shutdown)
    (notDropPump : event ≠ .dropPump) : after.Sane sufficient where
  sound := sane.sound.of_rule rule
  flagged := sane.flagged.of_rule sane.sound.orderly rule
  open_ := by
    cases rule with
    | neverStarted | stopping => exact absurd rfl notShutdown
    | started | enqueued => simp
    | _ => exact sane.open_
  named := by
    rw [(config_of_rule rule).1]
    exact sane.named
  sufficient := (config_of_rule rule).2.trans sane.sufficient
  hasPump := by
    have pump := sane.hasPump
    cases rule with
    | droppedPump => exact absurd rfl notDropPump
    | posted => simp [UiQueue.post, pump]
    | _ => exact pump

theorem Sane.uncancelled {sufficient : Reason → Bool} (sane : scheduler.Sane sufficient) :
    scheduler.cancelled = false :=
  (sane.sound.orderly.uncancelled sane.open_).1

theorem Sane.start {sufficient : Reason → Bool} (sane : scheduler.Sane sufficient) :
    ∃ started, scheduler.start .started = .ok started := by
  rcases Option.isSome_iff_exists.mp sane.named with ⟨name, named⟩
  cases lifecycle : scheduler.lifecycle with
  | idle => simp [Scheduler.start, lifecycle, named]
  | running => simp [Scheduler.start, lifecycle]
  | stopped => exact absurd lifecycle sane.open_

/-- A worker that has begun a request runs. -/
theorem Sane.running_of_work {sufficient : Reason → Bool} {phase : WorkPhase Output}
    {id : RequestId} (sane : scheduler.Sane sufficient)
    (works : scheduler.worker.work? = some (id, phase)) : scheduler.lifecycle = .running := by
  cases lifecycle : scheduler.lifecycle with
  | idle => simp [(sane.sound.orderly.unstarted lifecycle).1, Worker.work?] at works
  | running => rfl
  | stopped => exact absurd lifecycle sane.open_

theorem eq_of_call? {request : Request Snapshot Callback} {phase : CallPhase Output}
    {call : Call Snapshot Callback Output} {id : RequestId}
    (called : scheduler.calls = [⟨request, phase⟩]) (found : scheduler.call? id = some call) :
    call = ⟨request, phase⟩ ∧ id = request.id := by
  have member := List.mem_of_find?_eq_some found
  rw [called, List.mem_singleton] at member
  subst member
  exact ⟨rfl, (request_id_of_call? found).symm⟩

theorem call?_of_nil (calls : scheduler.calls = []) (id : RequestId) :
    scheduler.call? id = none := by
  simp [call?, calls]

/-- Only where an idle check is recorded does a step leave a duration. -/
theorem lastCompletion_of_rule (rule : before.Rule event after)
    (called : ∀ id request analysis, before.call? id = some ⟨request, .recording analysis⟩ →
      request.idleTriggered = false)
    (worked : ∀ request analysis, before.worker = .recording request analysis →
      request.idleTriggered = false) :
    after.lastCompletionMs = before.lastCompletionMs := by
  cases rule with
  | lostCall found records | deliveredCall found records =>
    refine (lastCompletionMs_of_recordResult records).trans ?_
    simp [called _ _ _ found]
  | recorded recording records =>
    refine (lastCompletionMs_of_recordResult records).trans ?_
    simp [worked _ _ recording]
  | _ => rfl

theorem Still.lastCompletion_of_rule (still : before.Still) (rule : before.Rule event after) :
    after.lastCompletionMs = before.lastCompletionMs := by
  apply Scheduler.lastCompletion_of_rule rule
  · intro id request analysis found
    simp [call?_of_nil still.calls] at found
  · intro request analysis recording
    simpa [recording, Worker.request?] using still.rests.request?_eq_none

/-- What is remembered once an analysis is recorded while the version source is up. -/
theorem cache_of_records {version : Version} {now : Instant}
    {scheduler next : Scheduler Snapshot Callback Output}
    (records : scheduler.recordResult request analysis (.ok version) now = .ok next) :
    next.cache =
      if (request.reason.updatesRecentResult && !analysis.aborted) &&
          analysis.version = version then
        scheduler.cache.record request.source analysis
      else scheduler.cache := by
  have remembers := cacheAfter_of_recordResult records
  unfold cacheAfter at remembers
  split at remembers
  · next updates => simpa [updates] using (Except.ok.inj remembers).symm
  · next keeps => simpa [keeps] using (Except.ok.inj remembers).symm

end Scheduler

theorem Ledger.cache_remember (ledger : Ledger Snapshot Callback Output)
    (versions : SourceId → Version) (request : Request Snapshot Callback)
    (analysis : Analysis Output) :
    (ledger.remember versions request analysis).cache =
      if (request.reason.updatesRecentResult && !analysis.aborted) &&
          analysis.version = versions request.source then
        ledger.cache.record request.source analysis
      else ledger.cache := by
  rw [Ledger.remember]
  split <;> rfl

theorem Ledger.remember_eq (ledger : Ledger Snapshot Callback Output)
    (versions : SourceId → Version) (request : Request Snapshot Callback)
    (analysis : Analysis Output) :
    ledger.remember versions request analysis =
      { ledger with cache := (ledger.remember versions request analysis).cache } := by
  rw [Ledger.remember]
  split <;> rfl

namespace Session

open Scheduler

variable {analyzer : Analyzer Snapshot Callback Output}
  {session : Session Snapshot Callback Output} {event : Event Snapshot Callback Output}
  {after : Scheduler Snapshot Callback Output} {request : Request Snapshot Callback}
  {analysis : Analysis Output}

/-- A step that carries a deed on. -/
structure Moves (analyzer : Analyzer Snapshot Callback Output)
    (session : Session Snapshot Callback Output) (event : Event Snapshot Callback Output)
    (after : Scheduler Snapshot Callback Output) : Prop where
  answers : session.Answers analyzer event
  rule : session.scheduler.Rule event after

theorem isWorker_of_moves (moves : session.Moves analyzer event after)
    (calls : session.scheduler.calls = [])
    (notPump : event ≠ .pump) : event.isWorker = true := by
  cases moves.rule with
  | setActive | startAgain | startFailed | started | declined | neverStarted | stoppedAgain
  | stopping | joined | gaveUpNothing | gaveUpRequest | droppedPump => exact moves.answers.elim
  | refused submits | faulted submits | openedRecent submits | openedInline submits
  | openedQueued submits => cases submits <;> exact moves.answers.elim
  | turnedAway found | enqueued found | answeredCall found | failedCall found
  | cancelledCall found | faultedCall found | lostCall found | deliveredCall found
  | returnedCall found => simp [call?_of_nil calls] at found
  | pumped waiting => exact absurd rfl notPump
  | _ => rfl

theorem works_of_moves (moves : session.Moves analyzer event after)
    (jobs : session.scheduler.ui.jobs = []) (calls : session.scheduler.calls = []) :
    event.isWorker = true := by
  apply isWorker_of_moves moves calls
  rintro rfl
  cases moves.rule with
  | pumped waiting => simp [jobs] at waiting
  | refused submits | faulted submits | openedRecent submits | openedInline submits
  | openedQueued submits => cases submits

theorem works_of_uncalled (moves : session.Moves analyzer event after)
    (jobs : session.scheduler.ui.jobs = [])
    (uncalled : event.callId? = none) : event.isWorker = true := by
  cases event with
  | pump =>
    cases moves.rule with
    | pumped waiting => simp [jobs] at waiting
    | refused submits | faulted submits | openedRecent submits | openedInline submits
    | openedQueued submits => cases submits
  | _ => first | rfl | exact moves.answers.elim | cases uncalled

theorem filter_of_called {phase : CallPhase Output}
    (called : session.scheduler.calls = [⟨request, phase⟩]) :
    (session.scheduler.calls.filter fun call => call.request.id != request.id) = [] := by
  simp [called]

theorem ledger_advance : (session.advance event after).ledger =
    { stats := after.stats
      cache := after.cache
      outcomes := after.completions.map Completion.outcome
      handles := session.ledger.handles ++
        (Transition.mk session.scheduler event after).handles.map
          fun handle => { handle with synchronous := false }
      analyses := session.ledger.analyses ++
        (Transition.mk session.scheduler event after).analyses.map Request.data
      callbacks := session.ledger.callbacks ++
        (Transition.mk session.scheduler event after).callbacks.map
          fun run => ⟨run.answered.request.data, run.answered.analysis⟩ } := by
  simp [ledger, advance]

theorem handles_of_answers (answers : session.Answers analyzer event) :
    (Transition.mk session.scheduler event after).handles = [] := by
  cases event <;> first | rfl | exact answers.elim

theorem pumped_of_ne (notPump : event ≠ .pump) :
    (Transition.mk session.scheduler event after).pumped = [] := by
  cases event <;> first | rfl | exact absurd rfl notPump

/-- What a step changes in which nothing begins. -/
theorem ledger_of_silent (handles : (Transition.mk session.scheduler event after).handles = [])
    (analyzing : after.analyzing ⊆ session.scheduler.analyzing)
    (callingBack : after.callingBack ⊆ session.scheduler.callingBack) (notPump : event ≠ .pump) :
    (session.advance event after).ledger = { session.ledger with
      stats := after.stats
      cache := after.cache
      outcomes := after.completions.map Completion.outcome } := by
  rw [ledger_advance, handles, Transition.analyses, Transition.callbacks,
    Transition.newIn_of_subset analyzing, Transition.newIn_of_subset callingBack,
    pumped_of_ne notPump]
  simp

/-- A step of the worker that does not begin a request. -/
theorem ledger_of_work (moves : session.Moves analyzer event after) (works : event.isWorker = true)
    (notExecuting : ∀ request, after.worker ≠ .executing request) :
    (session.advance event after).ledger = { session.ledger with
      stats := after.stats
      cache := after.cache
      outcomes := after.completions.map Completion.outcome } := by
  have calls := calls_of_worker moves.rule works
  apply ledger_of_silent (handles_of_answers moves.answers)
  · exact analyzing_subset (by simp [calls]) notExecuting
  · exact callingBack_subset (by simp [calls])
  · rintro rfl
    cases works

/-- A free worker changes nothing that can be seen. -/
theorem rests_of_work {sufficient : Reason → Bool} (sane : session.scheduler.Sane sufficient)
    (rests : session.scheduler.Rests) (moves : session.Moves analyzer event after)
    (works : event.isWorker = true) :
    after.Rests ∧ after.calls = session.scheduler.calls ∧
      after.ui.jobs = session.scheduler.ui.jobs ∧
        (session.advance event after).ledger = session.ledger := by
  rcases rests.work sane.uncancelled moves.rule works with ⟨worker, inFlight, busy, rfl, rests⟩
  exact ⟨rests, rfl, rfl, ledger_of_work moves works rests.ne_executing⟩

/-- A step that takes a submission off the list. -/
theorem ledger_of_return (moves : session.Moves analyzer event after) (notPump : event ≠ .pump)
    (calls : after.calls = []) (notExecuting : ∀ request, after.worker ≠ .executing request) :
    (session.advance event after).ledger = { session.ledger with
      stats := after.stats
      cache := after.cache
      outcomes := after.completions.map Completion.outcome } := by
  apply ledger_of_silent (handles_of_answers moves.answers) _ _ notPump
  · exact analyzing_subset (by simp [calls]) notExecuting
  · exact callingBack_subset (by simp [calls])

theorem ledger_of_began (moves : session.Moves analyzer event after) (works : event.isWorker = true)
    (calls : session.scheduler.calls = [])
    (holding : session.scheduler.worker = .holding request)
    (executing : after.worker = .executing request)
    (stats : after.stats = session.scheduler.stats.addExecuted)
    (cache : after.cache = session.scheduler.cache)
    (completions : after.completions = session.scheduler.completions) :
    (session.advance event after).ledger = session.ledger.execute request.data := by
  have idle : session.scheduler.analyzing = [] := by simp [analyzing, calls, holding]
  have busy : after.analyzing = [request] := by
    simp [analyzing, calls_of_worker moves.rule works, calls, executing]
  rw [ledger_advance, handles_of_answers moves.answers, callbacks_of_worker moves.rule works,
    Transition.analyses, Transition.newIn_of_nil idle, busy, stats, cache, completions]
  simp [Ledger.execute, ledger]

/-- What has been let in last has no outcome. -/
theorem pending_of_last {outcomes : List (Option (Outcome Output))}
    (seen : session.ledger.outcomes = outcomes ++ [none]) :
    session.scheduler.outcome? outcomes.length = none := by
  have last : (session.scheduler.completions.map Completion.outcome)[outcomes.length]? =
      some none := by
    change session.ledger.outcomes[outcomes.length]? = _
    simp [seen]
  rw [List.getElem?_map, Option.map_eq_some_iff] at last
  rcases last with ⟨cell, found, unended⟩
  simp [outcome?, found, unended]

/-- A step that gives a request its outcome. -/
theorem ledger_of_conclude {outcome : Outcome Output} (count : Stats → Stats)
    (changes : (session.advance event after).ledger = { session.ledger with
      stats := after.stats
      cache := after.cache
      outcomes := after.completions.map Completion.outcome })
    (pending : session.scheduler.outcome? request.id = none)
    (completions : after.completions =
      Completion.endAll outcome [request.id] session.scheduler.completions)
    (stats : after.stats = count session.scheduler.stats)
    (cache : after.cache = session.scheduler.cache) :
    (session.advance event after).ledger =
      session.ledger.conclude request.data.id outcome count := by
  rw [changes, completions, Completion.map_outcome_endAll outcome pending, stats, cache]
  rfl

/-- A step that records an analysis and ends nothing. -/
theorem ledger_of_remember {versions : SourceId → Version}
    (changes : (session.advance event after).ledger = { session.ledger with
      stats := after.stats
      cache := after.cache
      outcomes := after.completions.map Completion.outcome })
    (completions : after.completions = session.scheduler.completions)
    (stats : after.stats = session.scheduler.stats)
    (cache : after.cache = (session.ledger.remember versions request.data analysis).cache) :
    (session.advance event after).ledger =
      session.ledger.remember versions request.data analysis := by
  rw [changes, completions, stats, cache, Ledger.remember_eq]
  rfl

/-- A step in which the callback begins inside the submission. -/
theorem ledger_of_calledBack (moves : session.Moves analyzer event after) (notPump : event ≠ .pump)
    (analyzing : after.analyzing ⊆ session.scheduler.analyzing)
    (before : session.scheduler.callingBack = [])
    (begins : after.callingBack = [⟨request, analysis⟩]) :
    (session.advance event after).ledger = Ledger.callBack { session.ledger with
      stats := after.stats
      cache := after.cache
      outcomes := after.completions.map Completion.outcome } request.data analysis := by
  rw [ledger_advance, handles_of_answers moves.answers, Transition.analyses,
    Transition.newIn_of_subset analyzing, Transition.callbacks, Transition.newIn_of_nil before,
    begins, pumped_of_ne notPump]
  cases callback : request.callback with
  | none => simp [Ledger.callBack, Request.data, callback]
  | some _ => simp [Ledger.callBack, Request.data, callback]

/-- A step that records an analysis, completes its request and begins the callback. -/
theorem ledger_of_delivered {versions : SourceId → Version}
    (moves : session.Moves analyzer event after) (notPump : event ≠ .pump)
    (analyzing : after.analyzing ⊆ session.scheduler.analyzing)
    (before : session.scheduler.callingBack = [])
    (begins : after.callingBack = [⟨request, analysis⟩])
    (pending : session.scheduler.outcome? request.id = none)
    (completions : after.completions =
      Completion.endAll (.completed analysis) [request.id] session.scheduler.completions)
    (stats : after.stats = session.scheduler.stats.addDelivered)
    (cache : after.cache = (session.ledger.remember versions request.data analysis).cache) :
    (session.advance event after).ledger =
      (session.ledger.remember versions request.data analysis).complete request.data analysis := by
  rw [ledger_of_calledBack moves notPump analyzing before begins, completions,
    Completion.map_outcome_endAll _ pending, stats, cache, Ledger.remember_eq]
  rfl

theorem ledger_of_pump {ui : UiQueue (Answered Snapshot Callback Output)}
    (jobs : session.scheduler.ui.jobs = [⟨request, analysis⟩]) :
    (session.advance .pump { session.scheduler with ui }).ledger =
      session.ledger.callBack request.data analysis := by
  have noAnalyses : (Transition.mk session.scheduler .pump
      { session.scheduler with ui }).analyses = [] :=
    Transition.newIn_of_subset (List.Subset.refl _)
  have inline : (Transition.mk session.scheduler .pump { session.scheduler with ui }).newIn
      Scheduler.callingBack (fun answered => answered.request.id) = [] :=
    Transition.newIn_of_subset (List.Subset.refl _)
  have noHandles : (Transition.mk session.scheduler .pump
      { session.scheduler with ui }).handles = [] := rfl
  rw [ledger_advance, noHandles, noAnalyses, Transition.callbacks, inline]
  cases callback : request.callback with
  | none => simp [Transition.pumped, jobs, Ledger.callBack, Request.data, callback, ledger]
  | some _ => simp [Transition.pumped, jobs, Ledger.callBack, Request.data, callback, ledger]

section Submissions

variable {submission : Submission Snapshot Callback} {version : Version} {now : Instant}

theorem handles_of_submit {scheduler : Scheduler Snapshot Callback Output}
    (open_ : scheduler.lifecycle ≠ .stopped) :
    (Transition.mk scheduler (.submit submission (.ok version) now) after).handles.map
        (fun handle => { handle with synchronous := false }) =
      [⟨scheduler.completions.length, submission.reason, version, false⟩] := by
  cases path : scheduler.path submission <;>
    simp [Transition.handles, openCall, isShutDown, open_, path, Opening.handle?]

/-- What is seen once a submission is let in. -/
theorem ledger_of_submit (still : session.scheduler.Still)
    (open_ : session.scheduler.lifecycle ≠ .stopped) :
    (session.advance (.submit submission (.ok version) now) after).ledger =
      { stats := after.stats
        cache := after.cache
        outcomes := after.completions.map Completion.outcome
        handles := session.ledger.handles ++
          [⟨session.ledger.outcomes.length, submission.reason, version, false⟩]
        analyses := session.ledger.analyses ++ after.analyzing.map Request.data
        callbacks := session.ledger.callbacks ++
          (after.callingBack.filter fun answered => answered.request.callback.isSome).map
            fun answered => ⟨answered.request.data, answered.analysis⟩ } := by
  have unanalyzed : session.scheduler.analyzing = [] := by
    simp [still.rests.analyzing_eq, still.calls]
  have uncalled : session.scheduler.callingBack = [] := by
    simp [Scheduler.callingBack, still.calls]
  rw [ledger_advance, handles_of_submit open_, Transition.analyses, Transition.callbacks,
    Transition.newIn_of_nil unanalyzed, Transition.newIn_of_nil uncalled, pumped_of_ne (by simp)]
  simp [ledger, List.filter_map, Function.comp_def]

end Submissions

end Session

end EditorAnalysis
