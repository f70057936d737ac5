import EditorAnalysis.Proofs.Scheduler.Accounting
import EditorAnalysis.Proofs.Scheduler.Callback
import EditorAnalysis.Proofs.Scheduler.Rest
import Mathlib.Data.List.Nodup

/-!
# The course of a scheduler's life

A scheduler starts its worker lazily, somewhere inside a submission, and may be shut down from
anywhere. `Scheduler.life_of_step` says of a step that it starts the worker or finds it started,
shuts the scheduler down, or leaves its life alone. So the life a scheduler is in tells what has
happened (`Scheduler.Lived`): it is idle as long as nothing was started or shut down, and stopped
from the first shutdown on.
-/

namespace EditorAnalysis

variable {Snapshot Callback Output : Type}

/-- How the life of a scheduler may go on. -/
inductive Lifecycle.Follows : Lifecycle → Lifecycle → Prop where
  | stays (life : Lifecycle) : Follows life life
  | start : Follows .idle .running
  | stop : Follows .running .stopped
  | skip : Follows .idle .stopped

namespace Transition

variable (transition : Transition Snapshot Callback Output)

/-- A caller saw to it that the worker runs, or a request entered the queue, and neither failed. -/
def Starts : Prop :=
  match transition.event with
  | .start launch => ∃ started, transition.before.start launch = .ok started
  | .enqueue id launch => ∃ next, transition.before.enqueue id launch = some (.ok (), next)
  | _ => False

/-- A worker was put in place. Whatever else moves the worker is a step of its own. -/
def Launches : Prop :=
  transition.event.isWorker = false ∧ transition.after.worker ≠ transition.before.worker

/-- The report of the shutdown that is over with the transition. -/
def report? : Option ShutdownReport :=
  match transition.event with
  | .shutdown => transition.before.shutdown.1
  | .joinWorker => transition.before.joinWorker.map Prod.fst
  | .giveUpWorker => transition.before.giveUpWorker.map Prod.fst
  | _ => none

end Transition

namespace Scheduler

variable {scheduler before after final : Scheduler Snapshot Callback Output}
  {event : Event Snapshot Callback Output} {events : List (Event Snapshot Callback Output)}
  {past later : List (Transition Snapshot Callback Output)}
  {transition : Transition Snapshot Callback Output}

section Steps

/-- The three things that a step may do to the life of a scheduler. -/
inductive Lives (transition : Transition Snapshot Callback Output) : Prop where
  | starts (starts : transition.Starts) (open_ : transition.before.lifecycle ≠ .stopped)
      (running : transition.after.lifecycle = .running)
  | stops (notStarts : ¬ transition.Starts) (shutdown : transition.event = .shutdown)
      (stopped : transition.after.lifecycle = .stopped)
  | stays (notStarts : ¬ transition.Starts) (notShutdown : transition.event ≠ .shutdown)
      (same : transition.after.lifecycle = transition.before.lifecycle)

theorem lives_of_start {launch : Launch} (step : before.step (.start launch) = some after) :
    Lives ⟨before, .start launch, after⟩ := by
  cases launched : before.start launch with
  | ok started =>
    simp only [Scheduler.step, launched, Option.some.injEq] at step
    rcases start_eq_ok launched with ⟨open_, same⟩
    exact .starts ⟨started, launched⟩ open_ (by rw [← step, same])
  | error failure =>
    simp only [Scheduler.step, launched, Option.some.injEq] at step
    refine .stays ?_ (by simp) (by rw [step])
    rintro ⟨started, succeeded⟩
    simp [launched] at succeeded

theorem lives_of_enqueue {id : RequestId} {launch : Launch}
    (rule : before.Rule (.enqueue id launch) after) :
    Lives ⟨before, .enqueue id launch, after⟩ := by
  cases rule with
  | turnedAway found failed =>
    refine .stays ?_ (by simp) rfl
    rintro ⟨next, entered⟩
    simp [enqueue, found, failed] at entered
  | enqueued found open_ pushes launched =>
    rcases launched with ⟨started, launched⟩
    exact .starts ⟨_, by simp only [enqueue, found, launched]; rfl⟩ open_ rfl
  | refused submits | faulted submits | openedRecent submits | openedInline submits
  | openedQueued submits => cases submits

theorem lives_of_step (step : before.step event = some after) : Lives ⟨before, event, after⟩ := by
  have rule := rule_of_step step
  cases rule with
  | startAgain | startFailed | started => exact lives_of_start step
  | turnedAway | enqueued => exact lives_of_enqueue (rule_of_step step)
  | neverStarted | stopping => exact .stops id rfl rfl
  | stoppedAgain stopped => exact .stops id rfl stopped
  | refused submits | faulted submits | openedRecent submits | openedInline submits
  | openedQueued submits => cases submits <;> exact .stays id (by simp) rfl
  | _ => exact .stays id (by simp) rfl

theorem Lives.follows (lives : Lives transition) :
    transition.before.lifecycle.Follows transition.after.lifecycle ∧
      (transition.after.lifecycle ≠ transition.before.lifecycle →
        transition.Starts ∨ transition.event = .shutdown) := by
  cases lives with
  | starts starts open_ running =>
    refine ⟨?_, fun _ => .inl starts⟩
    rw [running]
    cases life : transition.before.lifecycle with
    | idle => exact .start
    | running => exact .stays _
    | stopped => exact absurd life open_
  | stops _ shutdown stopped =>
    refine ⟨?_, fun _ => .inr shutdown⟩
    rw [stopped]
    cases transition.before.lifecycle with
    | idle => exact .skip
    | running => exact .stop
    | stopped => exact .stays _
  | stays _ _ same =>
    refine ⟨?_, fun changed => absurd same changed⟩
    rw [same]
    exact .stays _

theorem Lives.idle_iff (lives : Lives transition) : transition.after.lifecycle = .idle ↔
    transition.before.lifecycle = .idle ∧ ¬ transition.Starts ∧ transition.event ≠ .shutdown := by
  cases lives with
  | starts starts _ running => simp [running, starts]
  | stops _ shutdown stopped => simp [stopped, shutdown]
  | stays notStarts notShutdown same => simp [same, notStarts, notShutdown]

theorem Lives.stopped_iff (lives : Lives transition) : transition.after.lifecycle = .stopped ↔
    transition.before.lifecycle = .stopped ∨ transition.event = .shutdown := by
  cases lives with
  | starts starts open_ running =>
    have notShutdown : transition.event ≠ .shutdown := by
      intro shutdown
      simp [Transition.Starts, shutdown] at starts
    simp [running, open_, notShutdown]
  | stops _ shutdown stopped => simp [stopped, shutdown]
  | stays _ notShutdown same => simp [same, notShutdown]

/-- A worker is put in place exactly when the scheduler gets to run. -/
theorem Orderly.launches_iff (orderly : before.Orderly) (rule : before.Rule event after) :
    (Transition.mk before event after).Launches ↔
      before.lifecycle ≠ .running ∧ after.lifecycle = .running := by
  constructor
  · rintro ⟨other, moved⟩
    have idle : before.lifecycle = .idle := by
      apply Decidable.byContradiction
      intro begun
      exact moved (worker_of_rule rule other begun)
    refine ⟨by simp [idle], ?_⟩
    cases rule with
    | started | enqueued => rfl
    | startAgain running => exact running
    | polled | receivedNone | receivedTerminate | receivedRequest | skipped | began | answered
    | failed | gaveUp | recordFaulted | recorded | superseded | lost | completed | posted | dropped
    | cleared => cases other
    | _ => exact absurd rfl moved
  · rintro ⟨notYet, running⟩
    cases rule with
    | started idle => exact ⟨rfl, by simp [(orderly.unstarted idle).1]⟩
    | enqueued found open_ =>
      have idle : before.lifecycle = .idle := by
        cases life : before.lifecycle <;> simp_all
      exact ⟨rfl, by simp [(orderly.unstarted idle).1, idle]⟩
    | neverStarted | stopping => cases running
    | _ => exact absurd running notYet

end Steps

section Runs

/-- What the life of a scheduler tells of the run so far. -/
structure Lived (past : List (Transition Snapshot Callback Output))
    (scheduler : Scheduler Snapshot Callback Output) : Prop where
  orderly : scheduler.Orderly
  idle : scheduler.lifecycle = .idle ↔ ∀ other ∈ past, ¬ other.Starts ∧ other.event ≠ .shutdown
  stopped : scheduler.lifecycle = .stopped ↔ ∃ other ∈ past, other.event = .shutdown
  launched : ∀ other ∈ past, other.Launches → other.Starts
  once : past.Pairwise fun first second => ¬ (first.Launches ∧ second.Launches)

theorem lived_new (config : Config) (sufficient : Reason → Bool) :
    Lived [] (new config sufficient : Scheduler Snapshot Callback Output) where
  orderly := orderly_new config sufficient
  idle := by simp [new]
  stopped := by simp [new]
  launched := by simp
  once := List.Pairwise.nil

/-- A scheduler gets to run where it is first started. -/
theorem Lived.begins_iff (known : Lived past transition.before) (lives : Lives transition) :
    transition.before.lifecycle ≠ .running ∧ transition.after.lifecycle = .running ↔
      transition.Starts ∧ ∀ other ∈ past, ¬ other.Starts := by
  constructor
  · rintro ⟨notYet, running⟩
    cases lives with
    | starts starts open_ =>
      have idle : transition.before.lifecycle = .idle := by
        cases life : transition.before.lifecycle <;> simp_all
      exact ⟨starts, fun other member => (known.idle.mp idle other member).1⟩
    | stops _ _ stopped => simp [stopped] at running
    | stays _ _ same => exact absurd (same.symm.trans running) notYet
  · rintro ⟨starts, first⟩
    cases lives with
    | starts _ open_ running =>
      have idle : transition.before.lifecycle = .idle := by
        apply known.idle.mpr
        intro other member
        exact ⟨first other member, fun shutdown => open_ (known.stopped.mpr ⟨_, member, shutdown⟩)⟩
      exact ⟨by simp [idle], running⟩
    | stops notStarts | stays notStarts => exact absurd starts notStarts

theorem Lived.launches_iff (known : Lived past before) (step : before.step event = some after) :
    (Transition.mk before event after).Launches ↔
      (Transition.mk before event after).Starts ∧ ∀ other ∈ past, ¬ other.Starts := by
  rw [known.orderly.launches_iff (rule_of_step step)]
  exact known.begins_iff (lives_of_step step)

theorem Lived.step (known : Lived past before) (step : before.step event = some after) :
    Lived (past ++ [⟨before, event, after⟩]) after := by
  have lives := lives_of_step step
  have launches := known.launches_iff step
  refine ⟨known.orderly.of_rule (rule_of_step step), ?_, ?_, ?_, ?_⟩
  · rw [lives.idle_iff, known.idle, List.forall_mem_append, List.forall_mem_singleton]
  · rw [lives.stopped_iff, known.stopped]
    simp [or_and_right, exists_or]
  · intro other member launched
    rcases List.mem_append.mp member with old | new
    · exact known.launched other old launched
    · cases List.mem_singleton.mp new
      exact (launches.mp launched).1
  · refine List.pairwise_append.mpr ⟨known.once, List.pairwise_singleton _ _, ?_⟩
    rintro first old second new ⟨firstLaunches, secondLaunches⟩
    cases List.mem_singleton.mp new
    exact (launches.mp secondLaunches).2 first old (known.launched first old firstLaunches)

theorem lived_of_run {config : Config} {sufficient : Reason → Bool}
    (run : (new config sufficient).run events = some final) :
    Lived ((new config sufficient).trace events) final :=
  run_induction (lived_new config sufficient) (fun _ _ _ _ known step => known.step step) run

theorem exists_queueing {id : RequestId} {launch : Launch}
    (rule : before.Rule (.enqueue id launch) after) :
    ∃ request, before.call? id = some ⟨request, .queueing⟩ := by
  cases rule with
  | turnedAway found | enqueued found => exact ⟨_, found⟩
  | refused submits | faulted submits | openedRecent submits | openedInline submits
  | openedQueued submits => cases submits

/-- A submission answered on its own thread never enters the queue, and so does not start the
worker. -/
theorem not_enqueued_of_synchronous {config : Config} {sufficient : Reason → Bool} {handle : Handle}
    {launch : Launch} (run : (new config sufficient).run events = some final)
    (handed : handle ∈ (new config sufficient).handlesOf events)
    (inline : handle.synchronous = true) : .enqueue handle.id launch ∉ events := by
  intro entered
  rw [← map_event_trace run] at entered
  rcases List.mem_map.mp entered with ⟨⟨before, event, after⟩, member, rfl⟩
  rcases List.append_of_mem member with ⟨past, later, split⟩
  rcases exists_run_of_split run split with ⟨earlier, _, earlierRun, traces, step, _⟩
  rcases exists_queueing (rule_of_step step) with ⟨request, found⟩
  have known := calledBack_of_run earlierRun
  rcases exists_handle earlierRun (known.sound.staged.born_of_call? found) with ⟨other, old, same⟩
  have otherHanded : other ∈ (new config sufficient).handlesOf events := by
    rw [handlesOf, split, ← traces, List.flatMap_append]
    exact List.mem_append_left _ old
  have distinct : (((new config sufficient).handlesOf events).map Handle.id).Nodup := by
    rw [map_id_handlesOf run]
    exact List.nodup_range
  have unique : other = handle := List.inj_on_of_nodup_map distinct otherHanded handed same
  rw [unique] at old
  rcases known.paths handle old with ⟨stage, stands, path⟩
  have called := phase_mem_of_call? found
  rw [stands] at called
  cases Stage.eq_called called
  rw [if_pos inline] at path
  cases path

/-- Once it waits, the order to go waits until the worker obeys it. -/
theorem order_stays {config : Config} {sufficient : Reason → Bool}
    (run : (new config sufficient).run events = some final)
    (member : transition ∈ (new config sufficient).trace events)
    (waits : .terminate ∈ transition.before.mailbox.toList) :
    .terminate ∈ transition.after.mailbox.toList ∨ transition.Obeys := by
  rcases exists_run_of_mem run member with ⟨earlier, earlierRun, step⟩
  have summons := summons_of_run earlierRun
  have cancelled := cancelled_of_rule (summons.order.mp waits).1 (rule_of_step step)
  have unobeyed := (summons.order.mp waits).2
  by_cases obeys : transition.Obeys
  · exact .inr obeys
  · left
    apply (summons.step step).order.mpr
    rw [obeyed_append]
    exact ⟨cancelled, not_or.mpr ⟨unobeyed, obeys⟩⟩

theorem unoccupied_of_idle (reachable : scheduler.Reachable) (idle : scheduler.lifecycle = .idle) :
    scheduler.mailbox.toList = [] ∧ scheduler.inFlight = none ∧ scheduler.busy = false := by
  rcases (sound_of_reachable reachable).orderly.unstarted idle with ⟨never, empty, unpublished⟩
  have flagged := flagged_of_reachable reachable (by simp [never])
  refine ⟨empty, unpublished, ?_⟩
  rw [flagged, never]
  rfl

/-- What a shutdown answers that finds another before it, and what the first one does. -/
theorem report?_of_shutdown {config : Config} {sufficient : Reason → Bool}
    (run : (new config sufficient).run events = some final)
    (split : (new config sufficient).trace events = past ++ transition :: later)
    (shutdown : transition.event = .shutdown) :
    ((∃ other ∈ past, other.event = .shutdown) →
      transition.report? = some ⟨.alreadyStopped, 0⟩ ∧ transition.after = transition.before) ∧
    ((∀ other ∈ past, other.event ≠ .shutdown) →
      (transition.report?.map ShutdownReport.outcome = some .notStarted ↔
        transition.before.lifecycle = .idle) ∧
      (transition.report? = none ↔ transition.before.lifecycle = .running)) := by
  rcases exists_run_of_split run split with ⟨earlier, _, earlierRun, rfl, step, _⟩
  have lived := lived_of_run earlierRun
  rcases transition with ⟨before, event, after⟩
  cases shutdown
  simp only [Scheduler.step, Option.some.injEq] at step
  constructor
  · intro again
    have stopped := lived.stopped.mpr again
    subst step
    simp only at stopped
    simp [Transition.report?, Scheduler.shutdown, stopped]
  · intro first
    have open_ : before.lifecycle ≠ .stopped := by
      intro stopped
      rcases lived.stopped.mp stopped with ⟨other, member, shutdown⟩
      exact first other member shutdown
    cases life : before.lifecycle with
    | idle => simp [Transition.report?, Scheduler.shutdown, life]
    | running => simp [Transition.report?, Scheduler.shutdown, life]
    | stopped => exact absurd life open_

theorem outcome_of_report? {report : ShutdownReport} (reports : transition.report? = some report)
    (notShutdown : transition.event ≠ .shutdown) :
    report.outcome = .completed ∨ report.outcome = .timedOut := by
  rcases transition with ⟨before, event, after⟩
  cases event with
  | shutdown => exact absurd rfl notShutdown
  | joinWorker =>
    rcases Option.map_eq_some_iff.mp reports with ⟨joined, joins, rfl⟩
    simp only [joinWorker] at joins
    split at joins
    · cases joins
      exact .inl rfl
    · cases joins
  | giveUpWorker =>
    rcases Option.map_eq_some_iff.mp reports with ⟨gone, givesUp, rfl⟩
    simp only [giveUpWorker] at givesUp
    split at givesUp
    · cases givesUp
    · split at givesUp
      · cases givesUp
      · split at givesUp <;> cases givesUp <;> exact .inr rfl
  | _ => cases reports

end Runs

/-- The life of a scheduler goes one way, over every run.

It gets to run, and the one worker there ever is is put in place, where it is first started, be it
by itself or by a request that enters the queue; besides only a shutdown changes its life, and a
submission answered on its own thread never enters the queue. Until then nothing waits or is worked
on. The order to go waits from the shutdown of a running scheduler on until the worker obeys it,
with no request beside it. Shutdowns after the first do nothing and say so. -/
theorem life_course {config : Config} {sufficient : Reason → Bool}
    (run : (new config sufficient).run events = some final) :
    (∀ transition ∈ (new config sufficient).trace events,
      transition.before.lifecycle.Follows transition.after.lifecycle ∧
      (transition.after.lifecycle ≠ transition.before.lifecycle →
        transition.Starts ∨ transition.event = .shutdown)) ∧
    (∀ past transition later,
      (new config sufficient).trace events = past ++ transition :: later →
      (transition.before.lifecycle ≠ .running ∧ transition.after.lifecycle = .running ↔
        transition.Starts ∧ ∀ other ∈ past, ¬ other.Starts) ∧
      (transition.Launches ↔ transition.Starts ∧ ∀ other ∈ past, ¬ other.Starts)) ∧
    ((new config sufficient).trace events).Pairwise
      (fun first second => ¬ (first.Launches ∧ second.Launches)) ∧
    (∀ handle ∈ (new config sufficient).handlesOf events, handle.synchronous = true →
      ∀ launch, .enqueue handle.id launch ∉ events) ∧
    (final.lifecycle = .idle →
      final.mailbox.toList = [] ∧ final.inFlight = none ∧ final.busy = false) ∧
    (final.lifecycle = .stopped ↔ .shutdown ∈ events) ∧
    (final.lifecycle ≠ .stopped → .terminate ∉ final.mailbox.toList) ∧
    (final.lifecycle = .stopped → final.waiting = []) ∧
    (∀ transition ∈ (new config sufficient).trace events,
      .terminate ∈ transition.before.mailbox.toList →
        .terminate ∈ transition.after.mailbox.toList ∨ transition.Obeys) ∧
    (∀ past transition later,
      (new config sufficient).trace events = past ++ transition :: later →
      transition.event = .shutdown →
      ((∃ other ∈ past, other.event = .shutdown) →
        transition.report? = some ⟨.alreadyStopped, 0⟩ ∧ transition.after = transition.before) ∧
      ((∀ other ∈ past, other.event ≠ .shutdown) →
        (transition.report?.map ShutdownReport.outcome = some .notStarted ↔
          transition.before.lifecycle = .idle) ∧
        (transition.report? = none ↔ transition.before.lifecycle = .running))) ∧
    (∀ transition ∈ (new config sufficient).trace events, ∀ report,
      transition.report? = some report → transition.event ≠ .shutdown →
        report.outcome = .completed ∨ report.outcome = .timedOut) := by
  have lived := lived_of_run run
  refine ⟨?_, ?_, lived.once, ?_, ?_, ?_, ?_, ?_, ?_, ?_, ?_⟩
  · intro transition member
    rcases exists_run_of_mem run member with ⟨_, _, step⟩
    exact (lives_of_step step).follows
  · intro past transition later split
    rcases exists_run_of_split run split with ⟨earlier, _, earlierRun, rfl, step, _⟩
    have known := lived_of_run earlierRun
    exact ⟨known.begins_iff (lives_of_step step), known.launches_iff step⟩
  · intro handle handed inline launch
    exact not_enqueued_of_synchronous run handed inline
  · exact unoccupied_of_idle ⟨_, _, _, run⟩
  · rw [lived.stopped, ← List.mem_map, map_event_trace run]
  · exact fun open_ => (lived.orderly.uncancelled open_).2.2
  · intro stopped
    have empty := (summons_of_run run).emptied stopped
    rw [requestIds_mailbox] at empty
    exact List.map_eq_nil_iff.mp empty
  · intro transition member waits
    exact order_stays run member waits
  · intro past transition later split shutdown
    exact report?_of_shutdown run split shutdown
  · intro transition _ report reports notShutdown
    exact outcome_of_report? reports notShutdown

/-- A check on the submitting thread, a start that fails, a parse that starts the worker, and two
shutdowns. -/
def lateStart : List (Event Unit Unit Unit) :=
  let submission : Submission Unit Unit :=
    { source := ⟨"a"⟩, position := {}, reason := .parseFile, snapshot := () }
  [.submit { submission with reason := .fullTypeCheck, synchronous := true } (.ok {}) 0,
    .answerCall 0 (.ok (.error (.failed "no check"))), .start (.failed "no thread"),
    .submit submission (.ok {}) 0, .enqueue 1 .started, .workerPoll, .shutdown, .workerReceive,
    .joinWorker, .shutdown]

theorem life_course_lateStart : ∃ final : Scheduler Unit Unit Unit,
    (new .default fun _ => false).run lateStart = some final ∧
      (∀ launch, .enqueue 0 launch ∉ lateStart) ∧ final.lifecycle = .stopped ∧
      final.waiting = [] ∧ final.shutdown.1 = some ⟨.alreadyStopped, 0⟩ := by
  have run : (new .default fun _ => false : Scheduler Unit Unit Unit).run lateStart = some _ := rfl
  rcases life_course run with ⟨_, _, _, inline, _, stopped, _, drained, _, shutdowns, _⟩
  have isStopped := stopped.mpr (by simp [lateStart])
  have again := (shutdowns (((new .default fun _ => false).trace lateStart).take 9)
    ⟨_, .shutdown, _⟩ [] rfl rfl).1 ⟨_, .tail _ (.tail _ (.tail _ (.tail _ (.tail _
      (.tail _ (.head _)))))), rfl⟩
  exact ⟨_, run, inline _ (.head _) rfl, isStopped, drained isStopped, again.1⟩

end Scheduler

end EditorAnalysis
