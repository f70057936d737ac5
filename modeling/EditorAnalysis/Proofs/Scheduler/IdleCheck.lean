import EditorAnalysis.Proofs.Duration
import EditorAnalysis.Proofs.Scheduler.Busy
import EditorAnalysis.Proofs.Scheduler.Containment
import EditorAnalysis.Proofs.Scheduler.Dropping
import EditorAnalysis.Proofs.Scheduler.Execution
import EditorAnalysis.Proofs.Scheduler.LifeCourse
import EditorAnalysis.Proofs.Scheduler.Origin
import EditorAnalysis.Proofs.Scheduler.VersionOrder

/-!
# Idle checks

A tick of the idle loop looks at three things in turn: whether the view is out of date, whether the
scheduler is busy, and how far the last edit lies back. Only if all of them allow it a full check is
submitted, which neither takes the recent result for an answer nor is dropped for newer work.

Between the decision and the queue there is time for others to act. As long as no other submission
comes in between, and the worker begins what it takes out of the queue before anything else happens,
an idle check finds the queue empty and the worker free (`Scheduler.Spaced`), and so idle checks throw
nothing out and never pile up.
-/

namespace EditorAnalysis

variable {Snapshot Callback Output : Type}

namespace Event

/-- The event makes a submission. -/
def submits : Event Snapshot Callback Output → Bool
  | .submit _ _ _ | .idle _ _ _ => true
  | _ => false

/-- The request that the event is to let into the queue. -/
def enters? : Event Snapshot Callback Output → Option RequestId
  | .enqueue id _ => some id
  | _ => none

/-- The worker begins the request that it has taken out of the queue. -/
def begins : Event Snapshot Callback Output → Bool
  | .workerBegin => true
  | _ => false

end Event

/-- The analysis cannot be recorded because the version source raises an exception. -/
def Answered.faults (answered : Answered Snapshot Callback Output) (reading : Attempt Version) :
    Bool :=
  match reading with
  | .error _ => answered.request.reason.updatesRecentResult && !answered.analysis.aborted
  | .ok _ => false

namespace Transition

variable (transition : Transition Snapshot Callback Output)

/-- While a submission is about to enter the queue no other one is made and no other one enters. -/
def Serial : Prop :=
  ∀ call ∈ transition.before.calls, call.phase.isInline = false →
    transition.event.submits = false ∧
      transition.event.enters?.all (fun id => id == call.request.id) = true

/-- What the worker has taken out of the queue it begins before anything else happens. -/
def Unbroken : Prop :=
  transition.before.worker.held?.isSome = true → transition.event.begins = true

instance : Decidable transition.Serial :=
  inferInstanceAs (Decidable (∀ call ∈ transition.before.calls, _ → _ ∧ _))

instance : Decidable transition.Unbroken :=
  inferInstanceAs (Decidable (_ → _))

end Transition

namespace Scheduler

/-- The quiet period in nanoseconds. -/
def delayNanos (scheduler : Scheduler Snapshot Callback Output) : Nat :=
  (scheduler.config.idleDelay scheduler.lastCompletion).toNanos

/-- The decision that a tick is to come to when the last edit lies so many nanoseconds back. -/
structure Decides (scheduler : Scheduler Snapshot Callback Output)
    (trigger : IdleTrigger Snapshot Callback) (quiet : Nat) (decision : IdleDecision) : Prop where
  notNeeded : decision = .notNeeded ↔ trigger.needsRefresh = false
  busy : decision = .busy ↔ trigger.needsRefresh = true ∧ scheduler.isBusy = true
  waiting : ∀ remaining, decision = .waiting remaining ↔
    trigger.needsRefresh = true ∧ scheduler.isBusy = false ∧ quiet < scheduler.delayNanos ∧
      remaining.toNanos = scheduler.delayNanos - quiet
  submit : decision = .submit ↔
    trigger.needsRefresh = true ∧ scheduler.isBusy = false ∧ scheduler.delayNanos ≤ quiet
  bounded : ∀ remaining, decision = .waiting remaining →
    0 < remaining.toNanos ∧ remaining.toNanos ≤ scheduler.config.maxIdleDelay.toNanos

variable {scheduler before after final : Scheduler Snapshot Callback Output}
  {event : Event Snapshot Callback Output} {events : List (Event Snapshot Callback Output)}
  {request : Request Snapshot Callback} {trigger : IdleTrigger Snapshot Callback}

section Decision

theorem decides_idleDecision (scheduler : Scheduler Snapshot Callback Output)
    (trigger : IdleTrigger Snapshot Callback) :
    scheduler.Decides trigger trigger.quiet.toNanos
      (scheduler.idleDecision trigger.needsRefresh trigger.quiet) := by
  cases refresh : trigger.needsRefresh with
  | false => constructor <;> simp [idleDecision, refresh]
  | true =>
    cases busy : scheduler.isBusy with
    | true => constructor <;> simp [idleDecision, refresh, busy]
    | false =>
      cases passed : (scheduler.config.idleDelay scheduler.lastCompletion).le trigger.quiet with
      | true =>
        have far := Duration.le_iff.mp passed
        constructor <;> simp [idleDecision, refresh, busy, passed, delayNanos] <;> omega
      | false =>
        have near := Duration.not_le.mp passed
        have left := Duration.toNanos_sub (Nat.le_of_lt near)
        have capped := Config.idleDelay_le scheduler.lastCompletion scheduler.config
        have decided : scheduler.idleDecision true trigger.quiet =
            .waiting ((scheduler.config.idleDelay scheduler.lastCompletion).sub trigger.quiet) := by
          simp [idleDecision, busy, passed]
        rw [decided]
        refine ⟨by simp [refresh], by simp [busy], ?_, ?_, ?_⟩
        · intro remaining
          simp only [IdleDecision.waiting.injEq, refresh, busy, true_and]
          constructor
          · intro same
            exact ⟨near, same ▸ left⟩
          · rintro ⟨_, same⟩
            apply Duration.toNanos_injective
            exact left.trans same.symm
        · simp only [reduceCtorEq, false_iff]
          intro passes
          simp only [delayNanos] at passes
          omega
        · intro remaining same
          cases same
          omega

end Decision

section Duration

variable {analysis : Analysis Output} {reading : Attempt Version} {now : Instant}

end Duration

section Runs

variable {config : Config} {sufficient : Reason → Bool}
  {transition : Transition Snapshot Callback Output}

end Runs

section Spacing

/-- An idle check that is about to enter the queue finds nothing there and nothing on the worker, and
besides it there is one idle check at most. -/
structure Spaced (scheduler : Scheduler Snapshot Callback Output) : Prop where
  sound : scheduler.Sound
  flagged : scheduler.Flagged
  alone : ∀ call ∈ scheduler.calls, call.phase.isInline = false →
    call.request.idleTriggered = true → scheduler.remaining = []
  single : (scheduler.remaining.filter fun request => request.idleTriggered).length ≤ 1

variable {config : Config} {sufficient : Reason → Bool}
  {transition : Transition Snapshot Callback Output}

/-- A tick that submits finds nothing in the queue and nothing on the worker. -/
theorem remaining_of_decided (sound : scheduler.Sound) (flagged : scheduler.Flagged)
    (notHolding : scheduler.worker.held? = none)
    (decided : scheduler.idleDecision trigger.needsRefresh trigger.quiet = .submit) :
    scheduler.remaining = [] := by
  have free := ((scheduler.decides_idleDecision trigger).submit.mp decided).2.1
  simp only [isBusy, Bool.or_eq_false_iff, Bool.not_eq_false',
    LaneSlots.isEmpty_eq sound.orderly.proper, List.isEmpty_iff] at free
  have rests : scheduler.worker.request? = none := by
    cases worker : scheduler.worker with
    | holding request => simp [worker, Worker.held?] at notHolding
    | executing | recording | delivering | posting =>
      have marked := flagged (by simp [worker])
      simp [free.1, worker, Worker.work?] at marked
    | _ => rfl
  simp [remaining, rests, waiting, free.2]

/-- Nothing but what enters the queue adds to the requests that wait or are on the worker. -/
theorem remaining_of_rule (rule : before.Rule event after)
    (notEnqueue : ∀ id launch, event ≠ .enqueue id launch) :
    after.remaining.Sublist before.remaining := by
  have kept (worker : after.worker.request?.toList.Sublist before.worker.request?.toList)
      (mailbox : after.mailbox.toList.Sublist before.mailbox.toList) :
      after.remaining.Sublist before.remaining :=
    worker.append (mailbox.filterMap Job.request?)
  cases rule with
  | enqueued => exact absurd rfl (notEnqueue _ _)
  | started | skipped | failed | gaveUp | recordFaulted | superseded | lost | posted | dropped =>
    exact kept (List.nil_sublist _) (List.Sublist.refl _)
  | polled =>
    refine kept ?_ (List.Sublist.refl _)
    cases before.cancelled <;> exact List.nil_sublist _
  | @cleared leaves =>
    refine kept ?_ (List.Sublist.refl _)
    cases leaves <;> exact List.nil_sublist _
  | began present | answered present | recorded present | completed present =>
    refine kept ?_ (List.Sublist.refl _)
    rw [present]
    exact List.Sublist.refl _
  | receivedNone receiving pops =>
    refine kept (List.nil_sublist _) ?_
    rw [LaneSlots.toList_of_pop_none pops]
  | receivedTerminate receiving pops =>
    refine kept (List.nil_sublist _) ?_
    rw [LaneSlots.toList_of_pop_some pops]
    exact List.sublist_cons_self _ _
  | receivedRequest receiving pops =>
    rw [remaining, remaining, waiting, waiting, receiving, LaneSlots.toList_of_pop_some pops]
    exact List.Sublist.refl _
  | stopping => exact (List.Sublist.refl _).append (List.nil_sublist _)
  | _ => exact List.Sublist.refl _

/-- What enters the queue comes last. -/
theorem Sound.remaining_of_enqueue {id : RequestId} {launch : Launch} (sound : before.Sound)
    (rule : before.Rule (.enqueue id launch) after)
    (found : before.call? id = some ⟨request, .queueing⟩) :
    after.remaining.Sublist (before.remaining ++ [request.bound]) := by
  cases rule with
  | refused submits | faulted submits | openedRecent submits | openedInline submits
  | openedQueued submits => cases submits
  | turnedAway => exact List.sublist_append_left _ _
  | enqueued other open_ pushes =>
    cases found.symm.trans other
    rw [remaining, remaining, List.append_assoc]
    refine List.Sublist.append ?_
      (sound.enters_of_push found open_ pushes rfl rfl rfl).waiting_sublist
    dsimp only
    split
    · exact List.nil_sublist _
    · exact List.Sublist.refl _

theorem id_ne_of_enqueue {id : RequestId} {launch : Launch} {call : Call Snapshot Callback Output}
    (rule : before.Rule (.enqueue id launch) after) (called : call ∈ after.calls) :
    call.request.id ≠ id := by
  cases rule with
  | refused submits | faulted submits | openedRecent submits | openedInline submits
  | openedQueued submits => cases submits
  | turnedAway | enqueued => simpa using (List.mem_filter.mp called).2

/-- A submission that enters the queue was the only one about to. -/
theorem called_of_enqueue {id : RequestId} {launch : Launch} {call : Call Snapshot Callback Output}
    (rule : before.Rule (.enqueue id launch) after)
    (serial : (Transition.mk before (.enqueue id launch) after).Serial)
    (called : call ∈ before.calls) (queueing : call.phase.isInline = false) :
    call.request.id = id ∧ call ∉ after.calls := by
  have own : id = call.request.id := by simpa [Event.enters?] using (serial call called queueing).2
  exact ⟨own.symm, fun still => id_ne_of_enqueue rule still own.symm⟩

/-- While an idle check is about to enter the queue, nobody else gets there. The tick that decides on it
is no step of the worker, so that under the assumptions the worker holds nothing then. -/
theorem Spaced.alone_step (spaced : before.Spaced) (step : before.step event = some after)
    (serial : (Transition.mk before event after).Serial)
    (unbroken : (Transition.mk before event after).Unbroken) :
    ∀ call ∈ after.calls, call.phase.isInline = false → call.request.idleTriggered = true →
      after.remaining = [] := by
  intro call called queueing idle
  have rule := rule_of_step step
  have stays (notEnqueue : ∀ id launch, event ≠ .enqueue id launch)
      (empty : before.remaining = []) : after.remaining = [] := by
    have fewer := remaining_of_rule rule notEnqueue
    rw [empty] at fewer
    exact List.sublist_nil.mp fewer
  rcases spaced.sound.mem_calls_of_rule rule called
    with ⟨old, present, same, inline⟩ | ⟨submission, mark, version, now, submits, open_, rfl⟩
  · rw [← inline] at queueing
    apply stays
    · rintro id launch rfl
      have own := (called_of_enqueue rule serial present queueing).1
      rw [same] at own
      exact id_ne_of_enqueue rule called own
    · apply spaced.alone old present queueing
      rw [same]
      exact idle
  · cases submits with
    | submit => cases idle
    | @idle trigger _ _ decided =>
      apply stays
      · exact fun _ _ => nofun
      · apply remaining_of_decided spaced.sound spaced.flagged _ decided
        apply Option.not_isSome_iff_eq_none.mp
        intro holds
        cases unbroken holds

/-- Whoever enters the queue, there is one idle check at most behind it. -/
theorem Spaced.single_step (spaced : before.Spaced) (step : before.step event = some after) :
    (after.remaining.filter fun request => request.idleTriggered).length ≤ 1 := by
  have rule := rule_of_step step
  by_cases enqueues : ∃ id launch, event = .enqueue id launch
  · rcases enqueues with ⟨id, launch, rfl⟩
    rcases exists_queueing rule with ⟨request, found⟩
    have entered := (spaced.sound.remaining_of_enqueue rule found).filter
      fun request => request.idleTriggered
    apply Nat.le_trans entered.length_le
    cases idle : request.idleTriggered with
    | true =>
      have empty := spaced.alone _ (List.mem_of_find?_eq_some found) rfl idle
      rw [empty, List.nil_append]
      exact List.length_filter_le _ _
    | false =>
      have plain : request.bound.idleTriggered = false := idle
      rw [List.filter_append, List.filter_singleton, plain]
      simpa using spaced.single
  · have fewer := remaining_of_rule rule fun id launch same => enqueues ⟨id, launch, same⟩
    exact Nat.le_trans (fewer.filter _).length_le spaced.single

theorem Spaced.step (spaced : before.Spaced) (step : before.step event = some after)
    (serial : (Transition.mk before event after).Serial)
    (unbroken : (Transition.mk before event after).Unbroken) : after.Spaced where
  sound := spaced.sound.of_rule (rule_of_step step)
  flagged := spaced.flagged.of_rule spaced.sound.orderly (rule_of_step step)
  alone := spaced.alone_step step serial unbroken
  single := spaced.single_step step

end Spacing

end Scheduler

end EditorAnalysis
