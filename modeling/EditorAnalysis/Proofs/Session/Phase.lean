import EditorAnalysis.Proofs.Session.Effect

/-!
# The way of a submission

A submission goes through the queue, the worker and the UI thread, or it is answered inside the
submission. `Session.Phase` says how far a session has got with a submission on either way, and what
can be seen of it there. Every step leads from phase to phase.
-/

namespace EditorAnalysis

variable {Snapshot Callback Output : Type}

/-- A submission with all that decides what it comes to. -/
structure Task (Snapshot Callback Output : Type) where
  analyzer : Analyzer Snapshot Callback Output
  sufficient : Reason → Bool
  versions : SourceId → Version
  ledger : Ledger Snapshot Callback Output
  submission : Submission Snapshot Callback

namespace Task

variable (task : Task Snapshot Callback Output)

def request : Request Snapshot Callback := task.ledger.request task.versions task.submission

/-- The ledger while the request waits for its analyzer call. -/
def entered : Ledger Snapshot Callback Output := task.ledger.enter task.request

/-- The ledger while the analyzer is at the request. -/
def executed : Ledger Snapshot Callback Output := task.entered.execute task.request

def verdict : Verdict Output := (task.analyzer task.versions task.executed.analyses).verdict

def served : Ledger Snapshot Callback Output :=
  task.ledger.serve task.analyzer task.sufficient task.versions task.submission

/-- The recent result will not do. -/
def Unanswered : Prop := task.ledger.remembered task.sufficient task.submission = none

variable {task}

theorem served_of_remembered {analysis : Analysis Output}
    (remembers : task.ledger.remembered task.sufficient task.submission = some analysis) :
    task.served = task.entered.hit.complete task.request analysis := by
  rw [Task.served, Ledger.serve, remembers]
  rfl

theorem Unanswered.served (unanswered : task.Unanswered) :
    task.served = task.executed.settle task.versions task.request task.verdict := by
  rw [Task.served, Ledger.serve, unanswered]
  rfl

end Task

namespace Session

open Scheduler

/-- How far a session has got with a submission, and what can be seen of it. The first four phases
are inside the submission, the next six on the worker; the last two are over but for what the worker
or the UI thread has left to do. -/
inductive Phase (task : Task Snapshot Callback Output)
    (session : Session Snapshot Callback Output) : Prop where
  | queueing {request : Request Snapshot Callback}
      (called : session.scheduler.calls = [⟨request, .queueing⟩])
      (rests : session.scheduler.Rests) (jobs : session.scheduler.ui.jobs = [])
      (own : request.data = task.request) (unanswered : task.Unanswered)
      (seen : session.ledger = task.entered)
  | executing {request : Request Snapshot Callback}
      (called : session.scheduler.calls = [⟨request, .executing⟩])
      (rests : session.scheduler.Rests) (jobs : session.scheduler.ui.jobs = [])
      (own : request.data = task.request) (unanswered : task.Unanswered)
      (seen : session.ledger = task.executed)
  | recording {request : Request Snapshot Callback} {analysis : Analysis Output}
      (called : session.scheduler.calls = [⟨request, .recording analysis⟩])
      (rests : session.scheduler.Rests) (jobs : session.scheduler.ui.jobs = [])
      (own : request.data = task.request) (unanswered : task.Unanswered)
      (ready : task.verdict = .ready analysis) (seen : session.ledger = task.executed)
  | callingBack {request : Request Snapshot Callback} {analysis : Analysis Output}
      (called : session.scheduler.calls = [⟨request, .callingBack analysis⟩])
      (rests : session.scheduler.Rests) (jobs : session.scheduler.ui.jobs = [])
      (seen : session.ledger = task.served)
  | waiting {request : Request Snapshot Callback} (calls : session.scheduler.calls = [])
      (mailbox : session.scheduler.mailbox = ⟨some (.analyze request), none⟩)
      (worker : session.scheduler.worker.Free) (jobs : session.scheduler.ui.jobs = [])
      (own : request.data = task.request) (unanswered : task.Unanswered)
      (seen : session.ledger = task.entered)
  | holding {request : Request Snapshot Callback} (calls : session.scheduler.calls = [])
      (mailbox : session.scheduler.mailbox = {})
      (worker : session.scheduler.worker = .holding request)
      (jobs : session.scheduler.ui.jobs = []) (own : request.data = task.request)
      (unanswered : task.Unanswered) (seen : session.ledger = task.entered)
  | working {request : Request Snapshot Callback} (calls : session.scheduler.calls = [])
      (mailbox : session.scheduler.mailbox = {})
      (worker : session.scheduler.worker = .executing request)
      (jobs : session.scheduler.ui.jobs = []) (own : request.data = task.request)
      (unanswered : task.Unanswered) (seen : session.ledger = task.executed)
  | noting {request : Request Snapshot Callback} {analysis : Analysis Output}
      (calls : session.scheduler.calls = []) (mailbox : session.scheduler.mailbox = {})
      (worker : session.scheduler.worker = .recording request analysis)
      (jobs : session.scheduler.ui.jobs = []) (own : request.data = task.request)
      (unanswered : task.Unanswered) (ready : task.verdict = .ready analysis)
      (seen : session.ledger = task.executed)
  | delivering {request : Request Snapshot Callback} {analysis : Analysis Output}
      (calls : session.scheduler.calls = []) (mailbox : session.scheduler.mailbox = {})
      (worker : session.scheduler.worker = .delivering request analysis)
      (jobs : session.scheduler.ui.jobs = []) (own : request.data = task.request)
      (unanswered : task.Unanswered) (ready : task.verdict = .ready analysis)
      (seen : session.ledger = task.executed.remember task.versions task.request analysis)
  | posting {request : Request Snapshot Callback} {analysis : Analysis Output}
      (calls : session.scheduler.calls = []) (mailbox : session.scheduler.mailbox = {})
      (worker : session.scheduler.worker = .posting request analysis)
      (jobs : session.scheduler.ui.jobs = []) (own : request.data = task.request)
      (served : task.served = session.ledger.callBack task.request analysis)
  | posted {request : Request Snapshot Callback} {analysis : Analysis Output}
      (calls : session.scheduler.calls = []) (rests : session.scheduler.Rests)
      (jobs : session.scheduler.ui.jobs = [⟨request, analysis⟩])
      (own : request.data = task.request)
      (served : task.served = session.ledger.callBack task.request analysis)
  | settled (still : session.scheduler.Still) (seen : session.ledger = task.served)

variable {sufficient : Reason → Bool} {analyzer : Analyzer Snapshot Callback Output}
  {session : Session Snapshot Callback Output} {event : Event Snapshot Callback Output}
  {after : Scheduler Snapshot Callback Output} {task : Task Snapshot Callback Output}
  {request : Request Snapshot Callback} {analysis : Analysis Output}

theorem pending_of_executed (own : request.data = task.request)
    (seen : session.ledger = task.executed) : session.scheduler.outcome? request.id = none := by
  have number : request.id = task.ledger.outcomes.length := congrArg Request.id own
  rw [number]
  apply pending_of_last
  rw [seen]
  rfl

/-- An analyzer call comes to what the task says. -/
theorem verdict_of_answers {execution : Execution Output}
    (versions : session.versions = task.versions) (seen : session.ledger = task.executed)
    (answers : execution = task.analyzer session.versions session.ledger.analyses) :
    execution.verdict = task.verdict := by
  rw [answers, versions, seen]
  rfl

/-- A step that ends the request of an analyzer call without an analysis. -/
theorem served_of_ended {outcome : Outcome Output} {count : Stats → Stats}
    (own : request.data = task.request) (unanswered : task.Unanswered)
    (seen : session.ledger = task.executed)
    (settles : task.executed.settle task.versions task.request task.verdict =
      task.executed.conclude task.request.id outcome count)
    (changes : (session.advance event after).ledger = { session.ledger with
      stats := after.stats
      cache := after.cache
      outcomes := after.completions.map Completion.outcome })
    (completions : after.completions =
      Completion.endAll outcome [request.id] session.scheduler.completions)
    (stats : after.stats = count session.scheduler.stats)
    (cache : after.cache = session.scheduler.cache) :
    (session.advance event after).ledger = task.served := by
  rw [ledger_of_conclude count changes (pending_of_executed own seen) completions stats cache, own,
    seen, unanswered.served, settles]

theorem free_clearing (running : session.scheduler.lifecycle = .running)
    (mailbox : after.mailbox = {}) (lifecycle : after.lifecycle = session.scheduler.lifecycle)
    (clearing : after.worker = .clearing false) : after.Rests :=
  ⟨mailbox, .inr ⟨lifecycle.trans running, by rw [clearing]; exact trivial⟩⟩

/-- While a submission is under way the worker is free, so that a step of its own changes nothing. -/
theorem Phase.of_queueing (sane : session.scheduler.Sane sufficient)
    (called : session.scheduler.calls = [⟨request, .queueing⟩]) (rests : session.scheduler.Rests)
    (jobs : session.scheduler.ui.jobs = []) (own : request.data = task.request)
    (unanswered : task.Unanswered) (seen : session.ledger = task.entered)
    (moves : session.Moves analyzer event after) :
    Phase task (session.advance event after) := by
  cases which : event.callId? with
  | none =>
    rcases rests_of_work sane rests moves (works_of_uncalled moves jobs which)
      with ⟨rests, calls, ui, same⟩
    exact .queueing (calls.trans called) rests (ui.trans jobs) own unanswered (same.trans seen)
  | some id =>
    cases moves.rule with
    | enqueued found open_ pushes =>
      rcases eq_of_call? called found with ⟨same, rfl⟩
      cases same
      rw [rests.mailbox] at pushes
      cases pushes
      have calls := filter_of_called called
      have free : (if session.scheduler.lifecycle = .idle then .looping
          else session.scheduler.worker : Worker Snapshot Callback Output).Free := by
        rcases rests.worker with ⟨idle, _⟩ | ⟨running, free⟩
        · rw [if_pos idle]
          exact trivial
        · rw [if_neg (by simp [running])]
          exact free
      refine .waiting calls rfl free jobs own unanswered ?_
      have notExecuting (other : Request Snapshot Callback) :
          (if session.scheduler.lifecycle = .idle then .looping
            else session.scheduler.worker : Worker Snapshot Callback Output) ≠
            .executing other := by
        intro executing
        simp [executing, Worker.Free] at free
      have noneDisplaced (stats : Stats) :
          { stats with displaced := stats.displaced + UInt64.ofNat 0 } = stats := by
        simp
      rw [ledger_of_return moves (by simp) calls notExecuting, ← seen]
      exact congrArg (fun stats => { session.ledger with stats }) (noneDisplaced _)
    | turnedAway found failed =>
      cases moves.answers
      rcases sane.start with ⟨started, launched⟩
      simp [launched] at failed
    | answeredCall found | failedCall found | cancelledCall found | faultedCall found
    | lostCall found | deliveredCall found | returnedCall found =>
      cases (eq_of_call? called found).1
    | refused submits | faulted submits | openedRecent submits | openedInline submits
    | openedQueued submits => cases submits <;> cases which
    | _ => cases which

theorem Phase.of_executing (sane : session.scheduler.Sane sufficient)
    (versions : session.versions = task.versions)
    (called : session.scheduler.calls = [⟨request, .executing⟩]) (rests : session.scheduler.Rests)
    (jobs : session.scheduler.ui.jobs = []) (own : request.data = task.request)
    (unanswered : task.Unanswered) (seen : session.ledger = task.executed)
    (moves : session.Moves task.analyzer event after) :
    Phase task (session.advance event after) := by
  cases which : event.callId? with
  | none =>
    rcases rests_of_work sane rests moves (works_of_uncalled moves jobs which)
      with ⟨rests, calls, ui, same⟩
    exact .executing (calls.trans called) rests (ui.trans jobs) own unanswered (same.trans seen)
  | some id =>
    have pending := pending_of_executed own seen
    cases moves.rule with
    | @answeredCall id execution other analysis found ready =>
      rcases eq_of_call? called found with ⟨same, rfl⟩
      cases same
      have ready := (verdict_of_answers versions seen moves.answers).symm.trans ready
      have calls : (session.scheduler.setPhase request.id (.recording analysis)).calls =
          [⟨request, .recording analysis⟩] := by
        simp [setPhase, called]
      have rests : (session.scheduler.setPhase request.id (.recording analysis)).Rests :=
        ⟨rests.mailbox, rests.worker⟩
      refine .recording calls rests jobs own unanswered ready ?_
      rw [ledger_of_silent (handles_of_answers moves.answers)
        (analyzing_subset (by simp [calls]) rests.ne_executing)
        (callingBack_subset (by simp [calls])) (by simp)]
      exact seen
    | failedCall found failed =>
      rcases eq_of_call? called found with ⟨same, rfl⟩
      cases same
      have failed := (verdict_of_answers versions seen moves.answers).symm.trans failed
      have calls := filter_of_called called
      refine .settled ⟨calls, ⟨rests.mailbox, rests.worker⟩, jobs⟩ ?_
      exact served_of_ended own unanswered seen (by rw [failed]; rfl)
        (ledger_of_return moves (by simp) calls rests.ne_executing) rfl (by simp [pending]) rfl
    | cancelledCall found gaveUp =>
      rcases eq_of_call? called found with ⟨same, rfl⟩
      cases same
      have gaveUp := (verdict_of_answers versions seen moves.answers).symm.trans gaveUp
      have calls := filter_of_called called
      refine .settled ⟨calls, ⟨rests.mailbox, rests.worker⟩, jobs⟩ ?_
      exact served_of_ended own unanswered seen (by rw [gaveUp]; rfl)
        (ledger_of_return moves (by simp) calls rests.ne_executing) rfl (by simp [pending]) rfl
    | turnedAway found | enqueued found | faultedCall found | lostCall found | deliveredCall found
    | returnedCall found => cases (eq_of_call? called found).1
    | refused submits | faulted submits | openedRecent submits | openedInline submits
    | openedQueued submits => cases submits <;> cases which
    | _ => cases which

theorem Phase.of_recording (sane : session.scheduler.Sane sufficient)
    (versions : session.versions = task.versions)
    (called : session.scheduler.calls = [⟨request, .recording analysis⟩])
    (rests : session.scheduler.Rests) (jobs : session.scheduler.ui.jobs = [])
    (own : request.data = task.request) (unanswered : task.Unanswered)
    (ready : task.verdict = .ready analysis) (seen : session.ledger = task.executed)
    (moves : session.Moves analyzer event after) :
    Phase task (session.advance event after) := by
  cases which : event.callId? with
  | none =>
    rcases rests_of_work sane rests moves (works_of_uncalled moves jobs which)
      with ⟨rests, calls, ui, same⟩
    exact .recording (calls.trans called) rests (ui.trans jobs) own unanswered ready
      (same.trans seen)
  | some id =>
    have pending := pending_of_executed own seen
    cases moves.rule with
    | faultedCall found fault =>
      have reading := moves.answers _ found
      rw [recordResult_eq_error fault] at reading
      cases reading
    | lostCall found records lost =>
      rcases eq_of_call? called found with ⟨same, rfl⟩
      cases same
      simp [pending] at lost
    | @deliveredCall id reading now other result recorded found records =>
      rcases eq_of_call? called found with ⟨same, rfl⟩
      cases same
      cases moves.answers _ found
      have cache := (cache_of_records records).trans
        (Ledger.cache_remember session.ledger session.versions request.data analysis).symm
      have calls : (setPhase { session.scheduler with
          cache := recorded.cache
          lastCompletionMs := recorded.lastCompletionMs
          completions := Completion.endAll (.completed analysis) [request.id]
            session.scheduler.completions
          stats := session.scheduler.stats.addDelivered }
          request.id (.callingBack analysis)).calls = [⟨request, .callingBack analysis⟩] := by
        simp [setPhase, called]
      have before : session.scheduler.callingBack = [] := by simp [Scheduler.callingBack, called]
      refine .callingBack calls ⟨rests.mailbox, rests.worker⟩ jobs ?_
      rw [ledger_of_delivered moves (by simp)
        (analyzing_subset (by simp [calls]) rests.ne_executing) before
        (by simp [Scheduler.callingBack, calls]) pending rfl rfl cache, own, seen, versions,
        unanswered.served, ready]
      rfl
    | turnedAway found | enqueued found | answeredCall found | failedCall found
    | cancelledCall found | returnedCall found => cases (eq_of_call? called found).1
    | refused submits | faulted submits | openedRecent submits | openedInline submits
    | openedQueued submits => cases submits <;> cases which
    | _ => cases which

theorem Phase.of_callingBack (sane : session.scheduler.Sane sufficient)
    (called : session.scheduler.calls = [⟨request, .callingBack analysis⟩])
    (rests : session.scheduler.Rests) (jobs : session.scheduler.ui.jobs = [])
    (seen : session.ledger = task.served) (moves : session.Moves analyzer event after) :
    Phase task (session.advance event after) := by
  cases which : event.callId? with
  | none =>
    rcases rests_of_work sane rests moves (works_of_uncalled moves jobs which)
      with ⟨rests, calls, ui, same⟩
    exact .callingBack (calls.trans called) rests (ui.trans jobs) (same.trans seen)
  | some id =>
    cases moves.rule with
    | returnedCall found =>
      rcases eq_of_call? called found with ⟨same, rfl⟩
      cases same
      have calls := filter_of_called called
      refine .settled ⟨calls, ⟨rests.mailbox, rests.worker⟩, jobs⟩ ?_
      rw [ledger_of_return moves (by simp) calls rests.ne_executing]
      exact seen
    | turnedAway found | enqueued found | answeredCall found | failedCall found
    | cancelledCall found | faultedCall found | lostCall found | deliveredCall found =>
      cases (eq_of_call? called found).1
    | refused submits | faulted submits | openedRecent submits | openedInline submits
    | openedQueued submits => cases submits <;> cases which
    | _ => cases which

theorem Phase.of_waiting (sane : session.scheduler.Sane sufficient)
    (calls : session.scheduler.calls = [])
    (mailbox : session.scheduler.mailbox = ⟨some (.analyze request), none⟩)
    (free : session.scheduler.worker.Free) (jobs : session.scheduler.ui.jobs = [])
    (own : request.data = task.request) (unanswered : task.Unanswered)
    (seen : session.ledger = task.entered) (moves : session.Moves analyzer event after) :
    Phase task (session.advance event after) := by
  have works := works_of_moves moves jobs calls
  by_cases receives : event = .workerReceive
  · subst receives
    have takes : session.scheduler.mailbox.pop = (some (.analyze request), {}) := by
      rw [mailbox]
      rfl
    cases moves.rule with
    | receivedRequest receiving pops =>
      rw [takes] at pops
      cases pops
      exact .holding calls rfl rfl jobs own unanswered
        ((ledger_of_work moves works (by simp)).trans seen)
    | receivedNone receiving pops | receivedTerminate receiving pops =>
      rw [takes] at pops
      cases pops
    | refused submits | faulted submits | openedRecent submits | openedInline submits
    | openedQueued submits => cases submits
  · rcases free_of_worker free sane.uncancelled moves.rule works receives
      with ⟨worker, inFlight, busy, rfl, free⟩
    have notExecuting (request : Request Snapshot Callback) : worker ≠ .executing request := by
      rintro rfl
      exact free
    exact .waiting calls mailbox free jobs own unanswered
      ((ledger_of_work moves works notExecuting).trans seen)

theorem Phase.of_holding (sane : session.scheduler.Sane sufficient)
    (calls : session.scheduler.calls = []) (mailbox : session.scheduler.mailbox = {})
    (holding : session.scheduler.worker = .holding request)
    (jobs : session.scheduler.ui.jobs = []) (own : request.data = task.request)
    (unanswered : task.Unanswered) (seen : session.ledger = task.entered)
    (moves : session.Moves analyzer event after) :
    Phase task (session.advance event after) := by
  have works := works_of_moves moves jobs calls
  rcases moves.rule.of_holding works holding with ⟨rfl, cancelled, rfl⟩ | ⟨rfl, _, rfl⟩
  · simp [sane.uncancelled] at cancelled
  · refine .working calls mailbox rfl jobs own unanswered ?_
    rw [ledger_of_began moves works calls holding rfl rfl rfl rfl, seen, own]
    rfl

theorem Phase.of_working (sane : session.scheduler.Sane sufficient)
    (versions : session.versions = task.versions) (calls : session.scheduler.calls = [])
    (mailbox : session.scheduler.mailbox = {})
    (executing : session.scheduler.worker = .executing request)
    (jobs : session.scheduler.ui.jobs = []) (own : request.data = task.request)
    (unanswered : task.Unanswered) (seen : session.ledger = task.executed)
    (moves : session.Moves task.analyzer event after) :
    Phase task (session.advance event after) := by
  have works := works_of_moves moves jobs calls
  have running := sane.running_of_work (by rw [executing]; rfl)
  have pending := pending_of_executed own seen
  rcases moves.rule.of_executing works executing
    with ⟨execution, rfl, ⟨analysis, ready, rfl⟩ | ⟨failed, rfl⟩ | ⟨gaveUp, rfl⟩⟩
  · have ready := (verdict_of_answers versions seen moves.answers).symm.trans ready
    exact .noting calls mailbox rfl jobs own unanswered ready
      ((ledger_of_work moves works (by simp)).trans seen)
  · have failed := (verdict_of_answers versions seen moves.answers).symm.trans failed
    refine .settled ⟨calls, free_clearing running mailbox rfl rfl, jobs⟩ ?_
    exact served_of_ended own unanswered seen (by rw [failed]; rfl)
      (ledger_of_work moves works (by simp)) rfl (by simp [pending]) rfl
  · have gaveUp := (verdict_of_answers versions seen moves.answers).symm.trans gaveUp
    have clears : (.clearing session.scheduler.cancelled : Worker Snapshot Callback Output) =
        .clearing false := by
      rw [sane.uncancelled]
    refine .settled ⟨calls, free_clearing running mailbox rfl clears, jobs⟩ ?_
    exact served_of_ended own unanswered seen (by rw [gaveUp]; rfl)
      (ledger_of_work moves works (by simp)) rfl (by simp [pending]) rfl

theorem Phase.of_noting (versions : session.versions = task.versions)
    (calls : session.scheduler.calls = []) (mailbox : session.scheduler.mailbox = {})
    (recording : session.scheduler.worker = .recording request analysis)
    (jobs : session.scheduler.ui.jobs = []) (own : request.data = task.request)
    (unanswered : task.Unanswered) (ready : task.verdict = .ready analysis)
    (seen : session.ledger = task.executed) (moves : session.Moves analyzer event after) :
    Phase task (session.advance event after) := by
  have works := works_of_moves moves jobs calls
  rcases moves.rule.of_recording works recording
    with ⟨reading, now, rfl, ⟨payload, fault, rfl⟩ | ⟨recorded, records, rfl⟩⟩
  · have reading := moves.answers request (by rw [recording]; rfl)
    rw [recordResult_eq_error fault] at reading
    cases reading
  · have changes := ledger_of_work moves works (by simp)
    cases moves.answers request (by rw [recording]; rfl)
    refine .delivering calls mailbox rfl jobs own unanswered ready ?_
    have cache := (cache_of_records records).trans
      (Ledger.cache_remember session.ledger session.versions request.data analysis).symm
    rw [ledger_of_remember changes rfl rfl cache, own, seen, versions]

theorem Phase.of_delivering (sane : session.scheduler.Sane sufficient)
    (calls : session.scheduler.calls = []) (mailbox : session.scheduler.mailbox = {})
    (delivering : session.scheduler.worker = .delivering request analysis)
    (jobs : session.scheduler.ui.jobs = []) (own : request.data = task.request)
    (unanswered : task.Unanswered) (ready : task.verdict = .ready analysis)
    (seen : session.ledger = task.executed.remember task.versions task.request analysis)
    (moves : session.Moves analyzer event after) :
    Phase task (session.advance event after) := by
  have works := works_of_moves moves jobs calls
  have running := sane.running_of_work (by rw [delivering]; rfl)
  have pending := sane.sound.pending_of_work running (by rw [delivering]; rfl) rfl
  rcases moves.rule.of_delivering works delivering
    with ⟨rfl, ⟨outdone, rfl⟩ | ⟨_, lost, rfl⟩ | ⟨_, _, rfl⟩⟩
  · simp [isOutdone, mailbox, LaneSlots.contains, LaneSlots.toList] at outdone
  · simp [pending] at lost
  · refine .posting calls mailbox rfl jobs own ?_
    have changes := ledger_of_work moves works (by simp)
    rw [ledger_of_conclude Stats.addDelivered changes pending rfl rfl rfl, own, seen,
      unanswered.served, ready]
    rfl

theorem Phase.of_posting (sane : session.scheduler.Sane sufficient)
    (calls : session.scheduler.calls = []) (mailbox : session.scheduler.mailbox = {})
    (posting : session.scheduler.worker = .posting request analysis)
    (jobs : session.scheduler.ui.jobs = []) (own : request.data = task.request)
    (served : task.served = session.ledger.callBack task.request analysis)
    (moves : session.Moves analyzer event after) :
    Phase task (session.advance event after) := by
  have works := works_of_moves moves jobs calls
  have running := sane.running_of_work (by rw [posting]; rfl)
  rcases moves.rule.of_posting works posting with ⟨rfl, rfl⟩ | ⟨rfl, rfl⟩
  · have posted : (session.scheduler.ui.post ⟨request, analysis⟩).jobs = [⟨request, analysis⟩] := by
      simp [UiQueue.post, sane.hasPump, jobs]
    refine .posted calls (free_clearing running mailbox rfl rfl) posted own ?_
    rw [ledger_of_work moves works (by simp)]
    exact served
  · cases moves.answers

theorem Phase.of_posted (sane : session.scheduler.Sane sufficient)
    (calls : session.scheduler.calls = []) (rests : session.scheduler.Rests)
    (jobs : session.scheduler.ui.jobs = [⟨request, analysis⟩]) (own : request.data = task.request)
    (served : task.served = session.ledger.callBack task.request analysis)
    (moves : session.Moves analyzer event after) :
    Phase task (session.advance event after) := by
  by_cases pumps : event = .pump
  · subst pumps
    cases moves.rule with
    | pumped waiting =>
      rw [jobs] at waiting
      cases waiting
      refine .settled ⟨calls, ⟨rests.mailbox, rests.worker⟩, rfl⟩ ?_
      rw [ledger_of_pump jobs, own, served]
    | refused submits | faulted submits | openedRecent submits | openedInline submits
    | openedQueued submits => cases submits
  · rcases rests_of_work sane rests moves (isWorker_of_moves moves calls pumps)
      with ⟨rests, uncalled, ui, same⟩
    refine .posted (uncalled.trans calls) rests (ui.trans jobs) own ?_
    rw [same]
    exact served

theorem still_of_moves (sane : session.scheduler.Sane sufficient)
    (still : session.scheduler.Still) (moves : session.Moves analyzer event after) :
    after.Still ∧ (session.advance event after).ledger = session.ledger := by
  have works := works_of_moves moves still.jobs still.calls
  rcases rests_of_work sane still.rests moves works with ⟨rests, calls, ui, same⟩
  exact ⟨⟨calls.trans still.calls, rests, ui.trans still.jobs⟩, same⟩

section Opening

variable {submission : Submission Snapshot Callback} {now : Instant}

theorem remembered_eq (scheduler : Scheduler Snapshot Callback Output)
    (submission : Submission Snapshot Callback) :
    scheduler.remembered submission =
      match scheduler.path submission with
      | .recent analysis => some analysis
      | .inline | .queued => none := by
  cases remembers : scheduler.remembered submission with
  | some analysis => simp [path, remembers]
  | none =>
    simp only [path, remembers]
    by_cases inline : submission.synchronous || !scheduler.config.asyncEnabled <;> simp [inline]

/-- A submission that is let in is in one of the first phases. -/
theorem Phase.of_submit (analyzer : Analyzer Snapshot Callback Output)
    (sane : session.scheduler.Sane sufficient) (still : session.scheduler.Still)
    (rule : session.scheduler.Rule
      (.submit submission (.ok (session.versions submission.source)) now) after) :
    Phase ⟨analyzer, sufficient, session.versions, session.ledger, submission⟩
      (session.advance (.submit submission (.ok (session.versions submission.source)) now)
        after) := by
  have number : session.ledger.outcomes.length = session.scheduler.completions.length := by
    simp [ledger]
  have remembers : session.ledger.remembered sufficient submission =
      session.scheduler.remembered submission := by
    rw [Ledger.remembered, Scheduler.remembered, sane.sufficient]
    rfl
  have rests : after.Rests := by
    cases rule <;> exact ⟨still.rests.mailbox, still.rests.worker⟩
  have analyzing := rests.analyzing_eq
  have enters (call : Call Snapshot Callback Output) :
      session.scheduler.calls ++ [call] = [call] := by
    simp [still.calls]
  cases rule with
  | refused submits stopped => exact absurd stopped sane.open_
  | faulted submits => cases submits
  | @openedRecent _ _ _ _ _ analysis submits open_ path =>
    cases submits
    rw [remembered_eq, path] at remembers
    refine .callingBack (enters _) rests still.jobs ?_
    rw [ledger_of_submit still open_, analyzing, Scheduler.callingBack, enters,
      Task.served_of_remembered remembers]
    cases callback : submission.callback <;>
      simp [Task.entered, Task.request, Ledger.complete, Ledger.callBack, Ledger.conclude,
        Ledger.hit, Ledger.enter, Ledger.request, built, Request.data, Completion.pending, callback,
        ledger]
  | openedInline submits open_ path =>
    cases submits
    rw [remembered_eq, path] at remembers
    refine .executing (enters _) rests still.jobs ?_ remembers ?_
    · simp [Request.data, built, Task.request, Ledger.request, number]
    · rw [ledger_of_submit still open_, analyzing, Scheduler.callingBack, enters]
      simp [Task.executed, Task.entered, Task.request, Ledger.execute, Ledger.enter, Ledger.request,
        built, Request.data, Completion.pending, ledger]
  | openedQueued submits open_ path =>
    cases submits
    rw [remembered_eq, path] at remembers
    refine .queueing (enters _) rests still.jobs ?_ remembers ?_
    · simp [Request.data, built, Task.request, Ledger.request, number]
    · rw [ledger_of_submit still open_, analyzing, Scheduler.callingBack, enters]
      simp [Task.entered, Task.request, Ledger.enter, Ledger.request, Completion.pending, ledger]

end Opening

/-- Every step leads from phase to phase. -/
theorem Phase.of_moves (sane : session.scheduler.Sane sufficient)
    (versions : session.versions = task.versions) (phase : Phase task session)
    (moves : session.Moves task.analyzer event after) :
    Phase task (session.advance event after) := by
  cases phase with
  | queueing called rests jobs own unanswered seen =>
    exact of_queueing sane called rests jobs own unanswered seen moves
  | executing called rests jobs own unanswered seen =>
    exact of_executing sane versions called rests jobs own unanswered seen moves
  | recording called rests jobs own unanswered ready seen =>
    exact of_recording sane versions called rests jobs own unanswered ready seen moves
  | callingBack called rests jobs seen => exact of_callingBack sane called rests jobs seen moves
  | waiting calls mailbox free jobs own unanswered seen =>
    exact of_waiting sane calls mailbox free jobs own unanswered seen moves
  | holding calls mailbox holding jobs own unanswered seen =>
    exact of_holding sane calls mailbox holding jobs own unanswered seen moves
  | working calls mailbox executing jobs own unanswered seen =>
    exact of_working sane versions calls mailbox executing jobs own unanswered seen moves
  | noting calls mailbox recording jobs own unanswered ready seen =>
    exact of_noting versions calls mailbox recording jobs own unanswered ready seen moves
  | delivering calls mailbox delivering jobs own unanswered ready seen =>
    exact of_delivering sane calls mailbox delivering jobs own unanswered ready seen moves
  | posting calls mailbox posting jobs own served =>
    exact of_posting sane calls mailbox posting jobs own served moves
  | posted calls rests jobs own served => exact of_posted sane calls rests jobs own served moves
  | settled still seen =>
    have stays := still_of_moves sane still moves
    exact .settled stays.1 (stays.2.trans seen)

theorem plain_of_own (own : request.data = task.request) : request.idleTriggered = false :=
  congrArg Request.idleTriggered own

/-- No idle check is under way in a session, so no step leaves a duration. -/
theorem Phase.lastCompletion_of_moves (phase : Phase task session)
    (moves : session.Moves analyzer event after) :
    after.lastCompletionMs = session.scheduler.lastCompletionMs := by
  apply lastCompletion_of_rule moves.rule
  · intro id request analysis found
    cases phase with
    | recording called rests jobs own =>
      cases (eq_of_call? called found).1
      exact plain_of_own own
    | queueing called | executing called | callingBack called =>
      cases (eq_of_call? called found).1
    | waiting calls | holding calls | working calls | noting calls | delivering calls
    | posting calls | posted calls => simp [call?_of_nil calls] at found
    | settled still => simp [call?_of_nil still.calls] at found
  · intro request analysis recording
    cases phase with
    | noting calls mailbox at_ jobs own =>
      cases at_.symm.trans recording
      exact plain_of_own own
    | holding calls mailbox at_ | working calls mailbox at_ | delivering calls mailbox at_
    | posting calls mailbox at_ => cases at_.symm.trans recording
    | waiting calls mailbox free => simp [recording, Worker.Free] at free
    | queueing called rests | executing called rests | recording called rests
    | callingBack called rests | posted calls rests =>
      simpa [recording, Worker.request?] using rests.request?_eq_none
    | settled still => simpa [recording, Worker.request?] using still.rests.request?_eq_none

/-- Where nothing moves any more a submission is over. -/
theorem Phase.of_quiet (phase : Phase task session) (quiet : session.scheduler.Quiet) :
    session.scheduler.Still ∧ session.ledger = task.served := by
  rcases quiet with ⟨uncalled, unsent, ⟨unworked, _⟩, unposted⟩
  cases phase with
  | queueing called | executing called | recording called | callingBack called =>
    simp [called] at uncalled
  | waiting calls mailbox => simp [mailbox, LaneSlots.toList] at unsent
  | holding calls mailbox at_ | working calls mailbox at_ | noting calls mailbox at_
  | delivering calls mailbox at_ | posting calls mailbox at_ =>
    simp [at_, Worker.request?] at unworked
  | posted calls rests jobs => simp [jobs] at unposted
  | settled still seen => exact ⟨still, seen⟩

end Session

end EditorAnalysis
