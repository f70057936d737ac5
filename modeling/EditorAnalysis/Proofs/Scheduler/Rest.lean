import EditorAnalysis.Proofs.Scheduler.Analyses
import EditorAnalysis.Proofs.Scheduler.Busy

/-!
# The busy mark of a worker at rest

A shutdown leaves the order to go in the queue, and the worker leaves in one of four ways. It may
take the order out, it may find that its token has fired at the head of its loop, or it may break
out of the loop with a request that it skips or whose analyzer gave up. In the last three ways the
order stays where it is for good.

This file follows the order: it waits from the shutdown on until the worker has obeyed it
(`Summons`). So `Scheduler.busy_at_rest` tells exactly when a scheduler is busy although no request
is analyzed and none waits.
-/

namespace EditorAnalysis

variable {Snapshot Callback Output : Type}

namespace Worker

/-- The worker waits for a job, is inside the analyzer, or does not run. -/
def AtRest : Worker Snapshot Callback Output → Prop
  | .unstarted | .looping | .receiving | .executing _ | .exited => True
  | _ => False

variable {worker : Worker Snapshot Callback Output}

theorem AtRest.ne_clearing (rests : worker.AtRest) (leaves : Bool) :
    worker ≠ .clearing leaves := by
  rintro rfl
  exact rests

theorem AtRest.isSome_work? (rests : worker.AtRest) :
    worker.work?.isSome = true ↔ ∃ request, worker = .executing request := by
  cases worker with
  | unstarted | looping | receiving | exited => simp [work?]
  | executing request => simp [work?]
  | _ => exact rests.elim

end Worker

/-- The worker takes the order to leave out of the queue. -/
def Transition.Obeys (transition : Transition Snapshot Callback Output) : Prop :=
  transition.event = .workerReceive ∧ transition.after.worker = .exited

/-- The worker has taken the order to leave out of the queue. -/
def Obeyed (past : List (Transition Snapshot Callback Output)) : Prop :=
  ∃ transition ∈ past, transition.Obeys

theorem obeyed_append {past : List (Transition Snapshot Callback Output)}
    {transition : Transition Snapshot Callback Output} :
    Obeyed (past ++ [transition]) ↔ Obeyed past ∨ transition.Obeys := by
  simp [Obeyed, or_and_right, exists_or]

namespace Scheduler

variable {scheduler before after final : Scheduler Snapshot Callback Output}
  {event : Event Snapshot Callback Output} {events : List (Event Snapshot Callback Output)}
  {past : List (Transition Snapshot Callback Output)}

theorem Orderly.stopped_of_cancelled (orderly : scheduler.Orderly)
    (cancelled : scheduler.cancelled = true) : scheduler.lifecycle = .stopped := by
  apply Decidable.byContradiction
  intro open_
  simp [(orderly.uncancelled open_).1] at cancelled

theorem eq_terminate_of_requestIds {jobs : List (Job Snapshot Callback)}
    (drained : Job.requestIds jobs = []) : ∀ job ∈ jobs, job = .terminate := by
  induction jobs with
  | nil => exact nofun
  | cons first jobs ih =>
    cases first with
    | analyze request => cases drained
    | terminate => simpa using ih drained

theorem eq_singleton_of_pop_terminate {slots rest : LaneSlots (Job Snapshot Callback)}
    (proper : slots.Proper) (drained : Job.requestIds slots.toList = [])
    (pops : slots.pop = (some .terminate, rest)) : rest.toList = [] := by
  have orders := eq_terminate_of_requestIds drained
  rcases slots with ⟨_ | first, _ | second⟩
  · simp [LaneSlots.pop] at pops
  · exact proper.elim
  · cases pops
    rfl
  · have background : lane second = .background := proper.2
    rw [orders second (by simp [LaneSlots.toList])] at background
    cases background

/-- Only three kinds of steps change the queue or fire the token. -/
theorem mailbox_cancelled_of_rule (rule : before.Rule event after)
    (notEnqueue : ∀ id launch, event ≠ .enqueue id launch) (notReceive : event ≠ .workerReceive)
    (notShutdown : event ≠ .shutdown) :
    after.mailbox = before.mailbox ∧ after.cancelled = before.cancelled := by
  cases rule with
  | enqueued => exact absurd rfl (notEnqueue _ _)
  | receivedNone | receivedTerminate | receivedRequest => exact absurd rfl notReceive
  | stopping => exact absurd rfl notShutdown
  | _ => exact ⟨rfl, rfl⟩

/-- The order to go waits from the shutdown on until the worker has obeyed it. -/
structure Summons (past : List (Transition Snapshot Callback Output))
    (scheduler : Scheduler Snapshot Callback Output) : Prop where
  sound : scheduler.Sound
  emptied : scheduler.Emptied
  obeyed : Obeyed past → scheduler.lifecycle = .stopped
  order : .terminate ∈ scheduler.mailbox.toList ↔ scheduler.cancelled = true ∧ ¬ Obeyed past

theorem summons_new (config : Config) (sufficient : Reason → Bool) :
    Summons [] (new config sufficient : Scheduler Snapshot Callback Output) where
  sound := sound_new config sufficient
  emptied := emptied_new config sufficient
  obeyed := by simp [Obeyed]
  order := by simp [new, LaneSlots.toList]

/-- A step that does not take the order out leaves it as it is, with the queue. -/
theorem Summons.stays (summons : Summons past before) (rule : before.Rule event after)
    (mailbox : after.mailbox = before.mailbox) (cancelled : after.cancelled = before.cancelled)
    (disobeys : ¬ (Transition.mk before event after).Obeys) :
    Summons (past ++ [⟨before, event, after⟩]) after where
  sound := summons.sound.of_rule rule
  emptied := summons.emptied.of_rule summons.sound.orderly rule
  obeyed obeyed := by
    rw [obeyed_append, or_iff_left disobeys] at obeyed
    exact stopped_of_rule (summons.obeyed obeyed) rule
  order := by
    rw [obeyed_append, or_iff_left disobeys, mailbox, cancelled]
    exact summons.order

/-- Before a shutdown nothing was obeyed and there is no order. -/
theorem Summons.of_open (summons : Summons past before) (rule : before.Rule event after)
    (open_ : after.lifecycle ≠ .stopped) (disobeys : ¬ (Transition.mk before event after).Obeys) :
    Summons (past ++ [⟨before, event, after⟩]) after where
  sound := summons.sound.of_rule rule
  emptied := summons.emptied.of_rule summons.sound.orderly rule
  obeyed obeyed := by
    rw [obeyed_append, or_iff_left disobeys] at obeyed
    exact stopped_of_rule (summons.obeyed obeyed) rule
  order := by
    rcases (summons.sound.of_rule rule).orderly.uncancelled open_ with ⟨uncancelled, _, noOrder⟩
    simp [uncancelled, noOrder]

theorem Summons.enqueue {id : RequestId} {launch : Launch} (summons : Summons past before)
    (rule : before.Rule (.enqueue id launch) after) :
    Summons (past ++ [⟨before, .enqueue id launch, after⟩]) after := by
  have disobeys : ¬ (Transition.mk before (.enqueue id launch) after).Obeys := by
    simp [Transition.Obeys]
  cases rule' : rule with
  | enqueued => exact summons.of_open rule (by simp) disobeys
  | turnedAway => exact summons.stays rule rfl rfl disobeys
  | refused submits | faulted submits | openedRecent submits | openedInline submits
  | openedQueued submits => cases submits

theorem Summons.receive (summons : Summons past before)
    (rule : before.Rule .workerReceive after) :
    Summons (past ++ [⟨before, .workerReceive, after⟩]) after := by
  have orderly := summons.sound.orderly
  cases rule' : rule with
  | receivedNone receiving pops =>
    exact summons.stays rule (LaneSlots.toList_of_pop_none pops) rfl (by simp [Transition.Obeys])
  | receivedTerminate receiving pops =>
    have waits : .terminate ∈ before.mailbox.toList := by
      rw [LaneSlots.toList_of_pop_some pops]
      exact List.mem_cons_self
    have stopped := orderly.stopped_of_cancelled (summons.order.mp waits).1
    refine ⟨summons.sound.of_rule rule, summons.emptied.of_rule orderly rule, fun _ => stopped, ?_⟩
    rw [obeyed_append]
    simp [eq_singleton_of_pop_terminate orderly.proper (summons.emptied stopped) pops,
      Transition.Obeys]
  | receivedRequest receiving pops =>
    refine summons.of_open rule ?_ (by simp [Transition.Obeys])
    intro stopped
    have empty := summons.emptied stopped
    rw [LaneSlots.toList_of_pop_some pops] at empty
    cases empty
  | refused submits | faulted submits | openedRecent submits | openedInline submits
  | openedQueued submits => cases submits

theorem Summons.shutdown (summons : Summons past before) (rule : before.Rule .shutdown after) :
    Summons (past ++ [⟨before, .shutdown, after⟩]) after := by
  have disobeys : ¬ (Transition.mk before (.shutdown) after).Obeys := by simp [Transition.Obeys]
  cases rule' : rule with
  | neverStarted | stoppedAgain => exact summons.stays rule rfl rfl disobeys
  | stopping running =>
    have unobeyed : ¬ Obeyed past := by
      intro obeyed
      have stopped := summons.obeyed obeyed
      simp [running] at stopped
    refine ⟨summons.sound.of_rule rule, fun _ => rfl, fun _ => rfl, ?_⟩
    rw [obeyed_append, or_iff_left disobeys]
    simp [unobeyed, LaneSlots.toList]
  | refused submits | faulted submits | openedRecent submits | openedInline submits
  | openedQueued submits => cases submits

theorem Summons.step (summons : Summons past before) (step : before.step event = some after) :
    Summons (past ++ [⟨before, event, after⟩]) after := by
  have rule := rule_of_step step
  cases event with
  | enqueue id launch => exact summons.enqueue rule
  | workerReceive => exact summons.receive rule
  | shutdown => exact summons.shutdown rule
  | _ =>
    rcases mailbox_cancelled_of_rule rule (by simp) (by simp) (by simp) with ⟨mailbox, cancelled⟩
    exact summons.stays rule mailbox cancelled (by simp [Transition.Obeys])

theorem summons_of_run {config : Config} {sufficient : Reason → Bool}
    (run : (new config sufficient).run events = some final) :
    Summons ((new config sufficient).trace events) final :=
  run_induction (summons_new config sufficient) (fun _ _ _ _ known step => known.step step) run

/-- The worker's token fires only once the worker runs, and the worker leaves only after that. -/
structure Heedful (scheduler : Scheduler Snapshot Callback Output) : Prop where
  running : scheduler.lifecycle = .running → scheduler.worker ≠ .unstarted
  unstarted : scheduler.worker = .unstarted → scheduler.cancelled = false
  leaving : scheduler.worker = .clearing true ∨ scheduler.worker = .exited →
    scheduler.cancelled = true

theorem heedful_new (config : Config) (sufficient : Reason → Bool) :
    (new config sufficient : Scheduler Snapshot Callback Output).Heedful where
  running := nofun
  unstarted _ := rfl
  leaving := by simp [new]

/-- A worker that goes on is not about to leave. -/
theorem heedful_of_stays (begun : after.worker ≠ .unstarted) (stays : after.worker ≠ .exited)
    (goesOn : after.worker ≠ .clearing true) : after.Heedful :=
  ⟨fun _ => begun, fun never => absurd never begun, by simp [stays, goesOn]⟩

theorem heedful_of_cancelled (begun : after.worker ≠ .unstarted)
    (cancelled : after.cancelled = true) : after.Heedful :=
  ⟨fun _ => begun, fun never => absurd never begun, fun _ => cancelled⟩

theorem Heedful.of_rule (heedful : before.Heedful) (orderly : before.Orderly)
    (rule : before.Rule event after) : after.Heedful := by
  cases rule with
  | started | receivedNone | receivedRequest | began | answered | failed | recordFaulted
  | recorded | superseded | lost | completed | posted | dropped =>
    exact heedful_of_stays (by simp) (by simp) (by simp)
  | enqueued found open_ =>
    have uncancelled := (orderly.uncancelled open_).1
    have unheeded := heedful.leaving
    by_cases idle : before.lifecycle = .idle
    · exact heedful_of_stays (by simp [idle]) (by simp [idle]) (by simp [idle])
    · refine ⟨?_, fun _ => uncancelled, by simpa [idle] using unheeded⟩
      intro _
      have running : before.lifecycle = .running := by
        cases lifecycle : before.lifecycle <;> simp_all
      simpa [idle] using heedful.running running
  | polled looping =>
    by_cases cancelled : before.cancelled = true
    · exact heedful_of_cancelled (by simp [cancelled]) cancelled
    · exact heedful_of_stays (by simp [cancelled]) (by simp [cancelled]) (by simp [cancelled])
  | receivedTerminate receiving pops =>
    refine heedful_of_cancelled (by simp) ?_
    have stopped : before.lifecycle = .stopped := by
      apply Decidable.byContradiction
      intro open_
      have noOrder := (orderly.uncancelled open_).2.2
      rw [LaneSlots.toList_of_pop_some pops] at noOrder
      exact noOrder List.mem_cons_self
    rcases orderly.fired stopped with fired | ⟨never, _⟩
    · exact fired
    · simp [receiving] at never
  | skipped holding cancelled => exact heedful_of_cancelled (by simp) cancelled
  | gaveUp executing =>
    exact ⟨by simp, by simp, by simp⟩
  | @cleared leaves clearing =>
    cases leaves with
    | false => exact heedful_of_stays (by simp) (by simp) (by simp)
    | true => exact heedful_of_cancelled (by simp) (heedful.leaving (.inl clearing))
  | neverStarted => exact ⟨nofun, heedful.unstarted, heedful.leaving⟩
  | stopping running => exact heedful_of_cancelled (heedful.running running) rfl
  | _ => exact ⟨heedful.running, heedful.unstarted, heedful.leaving⟩

theorem heedful_of_run {config : Config} {sufficient : Reason → Bool}
    (run : (new config sufficient).run events = some final) : final.Heedful := by
  have along := run_preserves (motive := fun state => state.Orderly ∧ state.Heedful)
    (fun _ _ _ known rule => ⟨known.1.of_rule rule, known.2.of_rule known.1 rule⟩)
    ⟨orderly_new config sufficient, heedful_new config sufficient⟩ run
  exact along.2

theorem onIdle_eq_busy_iff {trigger : IdleTrigger Snapshot Callback}
    (refresh : trigger.needsRefresh = true) (reading : Attempt Version) (now : Instant) :
    (scheduler.onIdle trigger reading now).1.1 = .busy ↔ scheduler.isBusy = true := by
  cases busy : scheduler.isBusy with
  | true => simp [onIdle_of_isBusy busy refresh]
  | false =>
    rw [onIdle_of_not_isBusy busy refresh]
    split <;> simp

/-- The queue holds requests, or the order to go. -/
theorem toList_mailbox_eq_nil_iff (scheduler : Scheduler Snapshot Callback Output) :
    scheduler.mailbox.toList = [] ↔
      scheduler.waiting = [] ∧ .terminate ∉ scheduler.mailbox.toList := by
  rw [waiting]
  cases scheduler.mailbox.toList with
  | nil => simp
  | cons job jobs => cases job <;> simp [Job.request?]

/-- A scheduler whose worker rests is busy if a request is being analyzed by the worker or waits,
and besides only because of an order to go that the worker has not obeyed. So it tells the truth
until a running worker is shut down, and once the worker has left, the idle loop is held back for
good unless the worker had obeyed. -/
theorem busy_at_rest {config : Config} {sufficient : Reason → Bool}
    (run : (new config sufficient).run events = some final) (rests : final.worker.AtRest) :
    (final.isBusy = true ↔ (∃ request, final.worker = .executing request) ∨ final.waiting ≠ [] ∨
      final.cancelled = true ∧ ¬ Obeyed ((new config sufficient).trace events)) ∧
    (final.lifecycle ≠ .stopped ∨ final.worker = .unstarted →
      (final.isBusy = true ↔
        (∃ request, final.worker = .executing request) ∨ final.waiting ≠ [])) ∧
    (final.worker = .exited → ∀ trigger reading now, trigger.needsRefresh = true →
      ((final.onIdle trigger reading now).1.1 = .busy ↔
        ¬ Obeyed ((new config sufficient).trace events))) := by
  have summons := summons_of_run run
  have heedful := heedful_of_run run
  have busy : final.isBusy = true ↔ (∃ request, final.worker = .executing request) ∨
      final.waiting ≠ [] ∨
        final.cancelled = true ∧ ¬ Obeyed ((new config sufficient).trace events) := by
    rw [isBusy_eq ⟨_, _, _, run⟩ rests.ne_clearing, Bool.or_eq_true, rests.isSome_work?,
      Bool.not_eq_true', List.isEmpty_eq_false_iff, Ne, toList_mailbox_eq_nil_iff,
      Classical.not_and_iff_not_or_not, Classical.not_not, summons.order]
  refine ⟨busy, ?_, ?_⟩
  · intro early
    have uncancelled : final.cancelled = false := by
      rcases early with open_ | never
      · exact (summons.sound.orderly.uncancelled open_).1
      · exact heedful.unstarted never
    simpa [uncancelled] using busy
  · intro exited trigger reading now refresh
    have cancelled := heedful.leaving (.inr exited)
    have stopped := summons.sound.orderly.stopped_of_cancelled cancelled
    have noneWaits : final.waiting = [] := by
      have empty := summons.emptied stopped
      rw [requestIds_mailbox] at empty
      exact List.map_eq_nil_iff.mp empty
    rw [onIdle_eq_busy_iff refresh, busy]
    simp [exited, noneWaits, cancelled]

/-- A goto whose analyzer gives up because a shutdown has come. -/
def cancelledGoto : List (Event Unit Unit Unit) :=
  [.submit { source := ⟨"a"⟩, position := {}, reason := .goto, snapshot := () } (.ok {}) 0,
    .enqueue 0 .started, .workerPoll, .workerReceive, .workerBegin, .shutdown,
    .workerAnswer (.ok (.error .cancelled)), .workerClear, .joinWorker]

/-- A shutdown of a worker that waits for a job. -/
def obeyedShutdown : List (Event Unit Unit Unit) :=
  [.start .started, .workerPoll, .shutdown, .workerReceive, .joinWorker]

theorem busy_at_rest_cancelledGoto : ∃ left obeyed : Scheduler Unit Unit Unit,
    (new .default fun _ => false).run cancelledGoto = some left ∧
      (new .default fun _ => false).run obeyedShutdown = some obeyed ∧
      left.isBusy = true ∧ left.waiting = [] ∧ left.worker = .exited ∧
      (left.onIdle lateTick (.ok {}) 0).1.1 = .busy ∧
      obeyed.worker = .exited ∧ (obeyed.onIdle lateTick (.ok {}) 0).1.1 ≠ .busy := by
  have leftRun : (new .default fun _ => false : Scheduler Unit Unit Unit).run cancelledGoto =
    some _ := rfl
  have obeyedRun : (new .default fun _ => false : Scheduler Unit Unit Unit).run obeyedShutdown =
    some _ := rfl
  have law := busy_at_rest leftRun trivial
  have obeys : Obeyed ((new .default fun _ => false : Scheduler Unit Unit Unit).trace
      obeyedShutdown) := ⟨_, .tail _ (.tail _ (.tail _ (.head _))), rfl, rfl⟩
  have unobeyed : ¬ Obeyed ((new .default fun _ => false : Scheduler Unit Unit Unit).trace
      cancelledGoto) := by
    rcases law.1.mp rfl with ⟨request, executing⟩ | waits | ⟨_, unobeyed⟩
    · cases executing
    · exact absurd rfl waits
    · exact unobeyed
  have held := (law.2.2 rfl lateTick (.ok {}) 0 rfl).mpr unobeyed
  have free := fun ticked =>
    ((busy_at_rest obeyedRun trivial).2.2 rfl lateTick (.ok {}) 0 rfl).mp ticked obeys
  exact ⟨_, _, leftRun, obeyedRun, rfl, rfl, rfl, held, rfl, free⟩

theorem cancelledGoto_busy : ¬ ∀ scheduler : Scheduler Unit Unit Unit, scheduler.Reachable →
    scheduler.worker.AtRest → (scheduler.isBusy = true ↔
      (∃ request, scheduler.worker = .executing request) ∨ scheduler.waiting ≠ []) := by
  intro honest
  have run : (new .default fun _ => false : Scheduler Unit Unit Unit).run cancelledGoto =
    some _ := rfl
  rcases (honest _ ⟨_, _, _, run⟩ trivial).mp rfl with ⟨request, executing⟩ | waits
  · cases executing
  · exact waits rfl

end Scheduler

end EditorAnalysis
