import EditorAnalysis.Proofs.Scheduler.Drain
import EditorAnalysis.Proofs.Session.Phase

/-!
# Queued and synchronous execution agree

A deed leads into a `Session.Phase` or is over at once, the steps after it lead on from phase to
phase, and where nothing moves any more the ledger is the one that `Ledger.undergo` tells. From every
phase such a point can be reached. So what can be seen of a session is settled by its deeds: neither
the setting that keeps submissions out of the queue nor the order in which the threads take their
steps makes a difference.
-/

namespace EditorAnalysis

variable {Snapshot Callback Output : Type}

/-- A bound on the steps that a submission is away from its end. One that enters the queue has the
whole way of the worker before it. -/
def CallPhase.stepsLeft : CallPhase Output → Nat
  | .callingBack _ => 1
  | .recording _ => 2
  | .executing => 3
  | .queueing => 23

theorem Worker.Free.atWork {worker : Worker Snapshot Callback Output} (free : worker.Free) :
    worker.AtWork := by
  cases worker with
  | looping | receiving => exact trivial
  | clearing leaves =>
    cases leaves with
    | true => exact free.elim
    | false => exact trivial
  | _ => exact free.elim

namespace Scheduler

variable {scheduler before after : Scheduler Snapshot Callback Output}
  {event : Event Snapshot Callback Output}

/-- A bound on the steps until nothing moves any more. The worker counts twice, since in one of its
steps it hands the UI thread a job. -/
def movesLeft (scheduler : Scheduler Snapshot Callback Output) : Nat :=
  scheduler.calls.foldr (fun call steps => call.phase.stepsLeft + steps) 0 +
    2 * scheduler.stepsLeft + scheduler.ui.jobs.length

theorem length_jobs_of_rule (rule : before.Rule event after) :
    after.ui.jobs.length ≤ before.ui.jobs.length + 1 := by
  cases rule with
  | posted =>
    simp only [UiQueue.post]
    split <;> simp
  | pumped jobs =>
    simp only [jobs, List.length_cons]
    omega
  | droppedPump => simp [UiQueue.dropPump]
  | _ => exact Nat.le_succ _

theorem Orderly.movesLeft_of_work (orderly : before.Orderly) (rule : before.Rule event after)
    (works : event.isWorker = true)
    (unfinished : before.worker.request? ≠ none ∨ before.waiting ≠ []) :
    after.movesLeft < before.movesLeft := by
  have nearer := orderly.stepsLeft_of_rule rule works unfinished
  have jobs := length_jobs_of_rule rule
  rw [movesLeft, movesLeft, calls_of_worker rule works]
  omega

/-- Every step of a submission that is under way alone brings it nearer to its end. What the way
through the worker adds is more than made up for by the end of the submission. -/
theorem movesLeft_of_call {request : Request Snapshot Callback} {phase : CallPhase Output}
    {id : RequestId} (called : before.calls = [⟨request, phase⟩]) (mailbox : before.mailbox = {})
    (rule : before.Rule event after) (carries : event.callId? = some id) :
    after.movesLeft < before.movesLeft := by
  cases rule with
  | enqueued found open_ pushes =>
    rcases eq_of_call? called found with ⟨same, rfl⟩
    cases same
    rw [mailbox] at pushes
    cases pushes
    have slower : (if before.lifecycle = .idle then .looping
        else before.worker : Worker Snapshot Callback Output).stepsLeft ≤
          before.worker.stepsLeft + 2 := by
      split
      · exact Nat.le_add_left 2 _
      · exact Nat.le_add_right _ 2
    simp only [movesLeft, stepsLeft, waiting, called, mailbox]
    simp [LaneSlots.toList, CallPhase.stepsLeft, Job.request?]
    omega
  | answeredCall found | deliveredCall found =>
    rcases eq_of_call? called found with ⟨same, rfl⟩
    cases same
    simp [movesLeft, stepsLeft, waiting, setPhase, called, CallPhase.stepsLeft]
  | turnedAway found | failedCall found | cancelledCall found | faultedCall found | lostCall found
  | returnedCall found =>
    rcases eq_of_call? called found with ⟨same, rfl⟩
    cases same
    simp [movesLeft, stepsLeft, waiting, called, CallPhase.stepsLeft]
  | refused submits | faulted submits | openedRecent submits | openedInline submits
  | openedQueued submits => cases submits <;> cases carries
  | _ => cases carries

/-- Nothing but a mark to clear keeps a scheduler moving that is still. -/
theorem Still.quiet_or_clearing (still : scheduler.Still) :
    scheduler.Quiet ∨ scheduler.worker = .clearing false := by
  rcases still with ⟨calls, ⟨mailbox, worker⟩, jobs⟩
  have empty : scheduler.mailbox.toList = [] := by
    rw [mailbox]
    rfl
  rcases worker with ⟨_, never⟩ | ⟨_, free⟩
  · exact .inl ⟨calls, empty, by simp [never, Worker.request?], jobs⟩
  · cases at_ : scheduler.worker with
    | looping | receiving => exact .inl ⟨calls, empty, by simp [at_, Worker.request?], jobs⟩
    | clearing leaves =>
      cases leaves with
      | true => simp [at_, Worker.Free] at free
      | false => exact .inr rfl
    | _ => simp [at_, Worker.Free] at free

theorem Sane.isBusy_of_quiet {sufficient : Reason → Bool} (sane : scheduler.Sane sufficient)
    (quiet : scheduler.Quiet) : scheduler.isBusy = false := by
  have unworked : scheduler.worker.work? = none := by
    have none := quiet.worker.1
    cases at_ : scheduler.worker <;> simp [at_, Worker.request?, Worker.work?] at none ⊢
  rw [isBusy, sane.flagged quiet.worker.2, unworked, LaneSlots.isEmpty_eq sane.sound.orderly.proper,
    quiet.mailbox]
  rfl

end Scheduler

namespace Session

open Scheduler

variable {analyzer : Analyzer Snapshot Callback Output} {sufficient : Reason → Bool}
  {versions : SourceId → Version} {target : Ledger Snapshot Callback Output}
  {session next started : Session Snapshot Callback Output} {deed : Deed Snapshot Callback}
  {event : Event Snapshot Callback Output} {after : Scheduler Snapshot Callback Output}

/-- The session carries out a deed that comes to the given ledger. -/
structure Carries (analyzer : Analyzer Snapshot Callback Output) (sufficient : Reason → Bool)
    (versions : SourceId → Version) (target : Ledger Snapshot Callback Output)
    (session : Session Snapshot Callback Output) : Prop where
  sane : session.scheduler.Sane sufficient
  unedited : session.versions = versions
  unstamped : session.scheduler.lastCompletionMs = 0
  phase : session.scheduler.Still ∧ session.ledger = target ∨
    ∃ task : Task Snapshot Callback Output, task.analyzer = analyzer ∧
      session.versions = task.versions ∧ task.served = target ∧ Phase task session

theorem Carries.of_continues (carries : session.Carries analyzer sufficient versions target)
    (continues : Continues analyzer session next) :
    next.Carries analyzer sufficient versions target := by
  cases continues with
  | @step event after answers step =>
    have moves : session.Moves analyzer event after := ⟨answers, rule_of_step step⟩
    have notShutdown : event ≠ .shutdown := by
      rintro rfl
      exact answers
    have notDropPump : event ≠ .dropPump := by
      rintro rfl
      exact answers
    have sane := carries.sane.of_rule moves.rule notShutdown notDropPump
    rcases carries.phase with ⟨still, seen⟩ | ⟨task, rfl, unedited, served, phase⟩
    · rcases still_of_moves carries.sane still moves with ⟨stays, same⟩
      have unstamped := still.lastCompletion_of_rule moves.rule
      exact ⟨sane, carries.unedited, unstamped.trans carries.unstamped,
        .inl ⟨stays, same.trans seen⟩⟩
    · have unstamped := phase.lastCompletion_of_moves moves
      exact ⟨sane, carries.unedited, unstamped.trans carries.unstamped,
        .inr ⟨task, rfl, unedited, served, phase.of_moves carries.sane unedited moves⟩⟩

theorem Carries.of_all (carries : session.Carries analyzer sufficient versions target)
    (continues : Relation.ReflTransGen (Continues analyzer) session next) :
    next.Carries analyzer sufficient versions target := by
  induction continues with
  | refl => exact carries
  | tail _ continues ih => exact ih.of_continues continues

theorem Carries.of_quiet (carries : session.Carries analyzer sufficient versions target)
    (quiet : session.scheduler.Quiet) :
    session.scheduler.Still ∧ session.ledger = target ∧ session.sight = target.sight := by
  have ends : session.scheduler.Still ∧ session.ledger = target := by
    rcases carries.phase with settled | ⟨task, _, _, rfl, phase⟩
    · exact settled
    · exact phase.of_quiet quiet
  rcases ends with ⟨still, seen⟩
  have open_ : session.scheduler.isShutDown = false := by
    simpa [isShutDown] using carries.sane.open_
  refine ⟨still, seen, ?_⟩
  rw [sight, seen, carries.sane.isBusy_of_quiet quiet, lastCompletion, carries.unstamped, open_]
  rfl

section Progress

theorem nearer_of_work (sane : session.scheduler.Sane sufficient)
    (atWork : session.scheduler.worker.AtWork)
    (unfinished : session.scheduler.worker.request? ≠ none ∨ session.scheduler.waiting ≠ []) :
    ∃ next, Continues analyzer session next ∧
      next.scheduler.movesLeft < session.scheduler.movesLeft := by
  let current := (session.scheduler.worker.request?.map fun request =>
    session.versions request.source).getD {}
  let event := session.scheduler.nextWork (analyzer session.versions session.ledger.analyses)
    (.ok current)
  have answers : session.Answers analyzer event := by
    cases at_ : session.scheduler.worker <;>
      simp [event, current, nextWork, at_, Answers, Worker.request?]
  rcases Option.isSome_iff_exists.mp (isSome_step_nextWork _ _ atWork) with ⟨after, step⟩
  have works : event.isWorker = true := isWorker_nextWork _ _
  exact ⟨_, .step answers step,
    sane.sound.orderly.movesLeft_of_work (rule_of_step step) works unfinished⟩

theorem nearer_of_call {request : Request Snapshot Callback} {phase : CallPhase Output}
    (called : session.scheduler.calls = [⟨request, phase⟩])
    (mailbox : session.scheduler.mailbox = {}) :
    ∃ next, Continues analyzer session next ∧
      next.scheduler.movesLeft < session.scheduler.movesLeft := by
  have found : session.scheduler.call? request.id = some ⟨request, phase⟩ := by
    simp [call?, called]
  have possible : ∃ event, session.Answers analyzer event ∧ event.callId? = some request.id ∧
      (session.scheduler.step event).isSome := by
    cases phase with
    | queueing =>
      refine ⟨.enqueue request.id .started, rfl, rfl, ?_⟩
      simp only [step, enqueue, found]
      split <;> rfl
    | executing =>
      refine ⟨.answerCall request.id _, rfl, rfl, ?_⟩
      simp only [step, answerCall, found]
      split <;> rfl
    | recording analysis =>
      refine ⟨.recordCall request.id (.ok (session.versions request.source)) 0, ?_, rfl, ?_⟩
      · intro call same
        cases found.symm.trans same
        rfl
      · simp only [step, recordCall, found]
        split
        · rfl
        · split <;> rfl
    | callingBack analysis =>
      refine ⟨.returnCall request.id, trivial, rfl, ?_⟩
      simp [step, returnCall, found]
  rcases possible with ⟨event, answers, carries, possible⟩
  rcases Option.isSome_iff_exists.mp possible with ⟨after, step⟩
  exact ⟨_, .step answers step, movesLeft_of_call called mailbox (rule_of_step step) carries⟩

theorem nearer_of_pump {answered : Answered Snapshot Callback Output}
    (jobs : session.scheduler.ui.jobs = [answered]) :
    ∃ next, Continues analyzer session next ∧
      next.scheduler.movesLeft < session.scheduler.movesLeft := by
  have step : session.scheduler.step .pump =
      some { session.scheduler with ui := { session.scheduler.ui with jobs := [] } } := by
    simp [Scheduler.step, UiQueue.take?, jobs]
  have answers : session.Answers analyzer .pump := trivial
  refine ⟨_, .step answers step, ?_⟩
  simp [movesLeft, stepsLeft, waiting, advance, jobs]

theorem nearer_of_clearing (clearing : session.scheduler.worker = .clearing false) :
    ∃ next, Continues analyzer session next ∧
      next.scheduler.movesLeft < session.scheduler.movesLeft := by
  have step : session.scheduler.step .workerClear =
      some { session.scheduler with inFlight := none, busy := false, worker := .looping } := by
    simp [Scheduler.step, workerClear, clearing]
  have answers : session.Answers analyzer .workerClear := trivial
  refine ⟨_, .step answers step, ?_⟩
  simp [movesLeft, stepsLeft, waiting, advance, clearing, Worker.stepsLeft]

theorem Phase.exists_nearer {task : Task Snapshot Callback Output}
    (sane : session.scheduler.Sane sufficient) (phase : Phase task session)
    (unquiet : ¬ session.scheduler.Quiet) :
    ∃ next, Continues analyzer session next ∧
      next.scheduler.movesLeft < session.scheduler.movesLeft := by
  cases phase with
  | queueing called rests | executing called rests | recording called rests
  | callingBack called rests => exact nearer_of_call called rests.mailbox
  | waiting calls mailbox free =>
    have waits : session.scheduler.waiting ≠ [] := by
      simp [Scheduler.waiting, mailbox, LaneSlots.toList, Job.request?]
    exact nearer_of_work sane free.atWork (.inr waits)
  | holding calls mailbox at_ | working calls mailbox at_ | noting calls mailbox at_
  | delivering calls mailbox at_ | posting calls mailbox at_ =>
    refine nearer_of_work sane ?_ (.inl (by simp [at_, Worker.request?]))
    rw [at_]
    exact trivial
  | posted calls rests jobs => exact nearer_of_pump jobs
  | settled still => exact nearer_of_clearing (still.quiet_or_clearing.resolve_left unquiet)

end Progress

/-- From everywhere on the way the session can come to where nothing moves any more. -/
theorem Carries.exists_settled (carries : session.Carries analyzer sufficient versions target) :
    ∃ settled, Relation.ReflTransGen (Continues analyzer) session settled ∧
      settled.scheduler.Quiet := by
  generalize left : session.scheduler.movesLeft = moves
  induction moves using Nat.strongRecOn generalizing session with
  | ind moves ih =>
    by_cases quiet : session.scheduler.Quiet
    · exact ⟨session, .refl, quiet⟩
    · have possible : ∃ next, Continues analyzer session next ∧
          next.scheduler.movesLeft < session.scheduler.movesLeft := by
        rcases carries.phase with ⟨still, _⟩ | ⟨task, _, _, _, phase⟩
        · exact nearer_of_clearing (still.quiet_or_clearing.resolve_left quiet)
        · exact phase.exists_nearer carries.sane quiet
      rcases possible with ⟨next, continues, nearer⟩
      rcases ih _ (left ▸ nearer) (carries.of_continues continues) rfl
        with ⟨settled, later, settles⟩
      exact ⟨settled, .head continues later, settles⟩

theorem exists_starts (session : Session Snapshot Callback Output)
    (deed : Deed Snapshot Callback) : ∃ started, session.Starts deed started := by
  cases deed with
  | submit submission => exact ⟨_, .submit submission 0 rfl rfl⟩
  | setActive source => exact ⟨_, .setActive source rfl⟩
  | edit source version => exact ⟨_, .edit source version⟩

theorem Carries.of_starts (analyzer : Analyzer Snapshot Callback Output)
    (sane : session.scheduler.Sane sufficient) (still : session.scheduler.Still)
    (unstamped : session.scheduler.lastCompletionMs = 0) (starts : session.Starts deed started) :
    started.Carries analyzer sufficient (deed.versions session.versions)
      (session.ledger.undergo analyzer sufficient session.versions deed) := by
  cases starts with
  | submit submission now asks step =>
    subst asks
    have rule := rule_of_step step
    exact ⟨sane.of_rule rule (by simp) (by simp), rfl,
      (still.lastCompletion_of_rule rule).trans unstamped,
      .inr ⟨⟨analyzer, sufficient, session.versions, session.ledger, submission⟩, rfl, rfl, rfl,
        Phase.of_submit analyzer sane still rule⟩⟩
  | setActive source step =>
    have rule := rule_of_step step
    cases step
    refine ⟨sane.of_rule rule (by simp) (by simp), rfl, unstamped, .inl ⟨?_, ?_⟩⟩
    · exact ⟨still.calls, ⟨still.rests.mailbox, still.rests.worker⟩, still.jobs⟩
    · exact ledger_of_silent rfl (List.Subset.refl _) (List.Subset.refl _) (by simp)
  | edit source version => exact ⟨sane, rfl, unstamped, .inl ⟨still, rfl⟩⟩

/-- What is seen of a session is what `Ledger.undergo` tells of its deeds. -/
theorem performs_iff (sane : session.scheduler.Sane sufficient) (still : session.scheduler.Still)
    (unstamped : session.scheduler.lastCompletionMs = 0)
    (script : List (Deed Snapshot Callback)) (sights : List (Sight Snapshot Callback Output)) :
    session.Performs analyzer script sights ↔
      sights = (session.ledger.undergoAll analyzer sufficient session.versions script).map
        Ledger.sight := by
  induction script generalizing session sights with
  | nil =>
    constructor
    · intro performs
      cases performs
      rfl
    · rintro rfl
      exact .done session
  | cons deed rest ih =>
    constructor
    · intro performs
      cases performs with
      | deed starts continues quiet later =>
        have carries := (Carries.of_starts analyzer sane still unstamped starts).of_all continues
        rcases carries.of_quiet quiet with ⟨still, seen, shows⟩
        rw [(ih carries.sane still carries.unstamped _).mp later, shows, seen, carries.unedited]
        rfl
    · rintro rfl
      rcases session.exists_starts deed with ⟨started, starts⟩
      have opened := Carries.of_starts analyzer sane still unstamped starts
      rcases opened.exists_settled with ⟨settled, continues, quiet⟩
      have carries := opened.of_all continues
      rcases carries.of_quiet quiet with ⟨still, seen, shows⟩
      have later := (ih carries.sane still carries.unstamped _).mpr rfl
      rw [seen, carries.unedited] at later
      have performs := Performs.deed starts continues quiet later
      rw [shows] at performs
      exact performs

theorem performs_new_iff (versions : SourceId → Version) (config : Config)
    (sufficient : Reason → Bool) (named : (ThreadName.ofString? config.threadName).isSome)
    (script : List (Deed Snapshot Callback)) (sights : List (Sight Snapshot Callback Output)) :
    (new versions config sufficient).Performs analyzer script sights ↔
      sights = (Ledger.empty.undergoAll analyzer sufficient versions script).map
        Ledger.sight := by
  let scheduler : Scheduler Snapshot Callback Output := .new config sufficient
  have sane : scheduler.Sane sufficient := by
    refine ⟨sound_new config sufficient, flagged_new config sufficient, ?_, named, rfl, rfl⟩
    intro stopped
    cases stopped
  have still : scheduler.Still := ⟨rfl, ⟨rfl, .inl ⟨rfl, rfl⟩⟩, rfl⟩
  exact performs_iff sane still rfl script sights

/-- Queued and synchronous execution cannot be told apart. Whichever of the two is configured, a
session can be gone through to its end, and there is but one thing to be seen after each of its
deeds, the same for both. -/
theorem modes_agree (analyzer : Analyzer Snapshot Callback Output)
    (versions : SourceId → Version) (config : Config) (sufficient : Reason → Bool)
    (named : (ThreadName.ofString? config.threadName).isSome)
    (script : List (Deed Snapshot Callback)) :
    ∃ sights, ∀ asyncEnabled observed,
      (new versions { config with asyncEnabled } sufficient).Performs analyzer script observed ↔
        observed = sights := by
  refine ⟨(Ledger.empty.undergoAll analyzer sufficient versions script).map Ledger.sight, ?_⟩
  intro asyncEnabled observed
  exact performs_new_iff versions { config with asyncEnabled } sufficient named script observed

/-- An analyzer that answers its first call and raises an exception in every other. -/
def firstAnswers : Analyzer Unit Unit Unit := fun versions calls =>
  if calls.length = 1 then .ok (.ok { payload := some (), version := versions ⟨"a"⟩ })
  else .error (.number 1)

/-- A document is checked, asked about, edited and asked about again. -/
def editedDocument : List (Deed Unit Unit) :=
  let submission (reason : Reason) (requireFresh : Bool) : Submission Unit Unit :=
    { source := ⟨"a"⟩, position := {}, reason, snapshot := (), requireFresh, callback := some () }
  [.setActive (some ⟨"a"⟩), .submit (submission .fullTypeCheck false),
    .submit (submission .quickInfo false), .edit ⟨"a"⟩ ⟨1⟩, .submit (submission .quickInfo true)]

theorem modes_agree_editedDocument :
    ∃ sights : List (Sight Unit Unit Unit),
      (∀ asyncEnabled observed,
        (new (fun _ => {}) { Config.default with asyncEnabled } fun _ => true).Performs firstAnswers
          editedDocument observed ↔ observed = sights) ∧
      (sights.getLast?.map fun sight => sight.ledger.outcomes) =
        some [some (.completed ⟨some (), {}, false⟩), some (.completed ⟨some (), {}, false⟩),
          some .abandoned] := by
  rcases modes_agree firstAnswers (fun _ => {}) .default (fun _ => true) rfl editedDocument
    with ⟨sights, agree⟩
  have told := (performs_new_iff _ _ _ rfl _ _).mp ((agree true sights).mpr rfl)
  refine ⟨sights, agree, ?_⟩
  rw [told]
  rfl

end Session

end EditorAnalysis
