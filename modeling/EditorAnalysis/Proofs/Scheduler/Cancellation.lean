import EditorAnalysis.Proofs.Scheduler.Analyses
import EditorAnalysis.Proofs.Scheduler.Origin

/-!
# Cancellation

A request is bound to the worker's token where it enters the queue and has a token of its own
otherwise. The worker's token fires where the running worker is shut down and stays so. The two facts
together tell at every point of a run which requests see their token fired: all those that took the
queue, from one step on, and no others.
-/

namespace EditorAnalysis

variable {Snapshot Callback Output : Type}

/-- A caller shuts the running worker down. -/
def Transition.StopsWorker (transition : Transition Snapshot Callback Output) : Prop :=
  transition.event = .shutdown ∧ transition.before.lifecycle = .running

/-- The request of a given number took the queue, as its handle tells. -/
def TookQueue (handles : List Handle) (id : RequestId) : Prop :=
  ∃ handle ∈ handles, handle.id = id ∧ handle.synchronous = false

namespace Scheduler

/-- The requests that analyzer calls and callbacks of a run see, have seen or may come to see. -/
inductive Seen (scheduler : Scheduler Snapshot Callback Output)
    (events : List (Event Snapshot Callback Output)) : Request Snapshot Callback → Prop where
  | analyzed {request : Request Snapshot Callback} (begun : request ∈ scheduler.analysesOf events) :
      Seen scheduler events request
  | calledBack {callback : CallbackRun Snapshot Callback Output}
      (begun : callback ∈ scheduler.callbacksOf events) :
      Seen scheduler events callback.answered.request
  | sent {request : Request Snapshot Callback} (entered : request ∈ scheduler.sentOf events) :
      Seen scheduler events request

variable {scheduler before after final : Scheduler Snapshot Callback Output}
  {event : Event Snapshot Callback Output} {events : List (Event Snapshot Callback Output)}
  {request : Request Snapshot Callback} {transition : Transition Snapshot Callback Output}

section Firing

/-- The worker's token has fired if it had before, or if the running worker is shut down now. -/
theorem cancelled_iff_of_rule (rule : before.Rule event after) :
    after.cancelled = true ↔
      before.cancelled = true ∨ (Transition.mk before event after).StopsWorker := by
  by_cases stops : (Transition.mk before event after).StopsWorker
  · rcases stops with ⟨rfl, running⟩
    cases rule with
    | refused submits | faulted submits | openedRecent submits | openedInline submits
    | openedQueued submits => cases submits
    | neverStarted idle => cases running.symm.trans idle
    | stoppedAgain stopped => cases running.symm.trans stopped
    | stopping running => exact iff_of_true rfl (.inr ⟨rfl, running⟩)
  · have same : after.cancelled = before.cancelled := by
      cases rule with
      | stopping running => exact absurd ⟨rfl, running⟩ stops
      | _ => rfl
    rw [same]
    simp [stops]

theorem cancelled_iff_of_run {config : Config} {sufficient : Reason → Bool}
    (run : (new config sufficient).run events = some final) :
    final.cancelled = true ↔
      ∃ transition ∈ (new config sufficient).trace events, transition.StopsWorker := by
  apply run_induction (motive := fun past (state : Scheduler Snapshot Callback Output) =>
    state.cancelled = true ↔ ∃ transition ∈ past, transition.StopsWorker) ?_ ?_ run
  · simp [new]
  · intro past before event after fired step
    rw [cancelled_iff_of_rule (rule_of_step step), fired]
    simp [or_and_right, exists_or]

/-- The step that fires the token finds it not fired. -/
theorem Orderly.uncancelled_of_stopsWorker (orderly : transition.before.Orderly)
    (stops : transition.StopsWorker) : transition.before.cancelled = false := by
  apply (orderly.uncancelled _).1
  simp [stops.2]

end Firing

section Tokens

variable {config : Config} {sufficient : Reason → Bool}

/-- A submission answered on its own thread shows its request with a token of its own. -/
theorem path_of_call {call : Call Snapshot Callback Output}
    (run : (new config sufficient).run events = some final) (called : call ∈ final.calls)
    (inline : call.phase.isInline = true) :
    call.request.token = .own ∧ ∃ handle ∈ (new config sufficient).handlesOf events,
      handle.id = call.request.id ∧ handle.synchronous = true := by
  refine ⟨own_of_run run called, ?_⟩
  rcases exists_handle_of_call run called with ⟨handle, handed, tells, path⟩
  exact ⟨handle, handed, tells.id, path.trans inline⟩

/-- What is on its way behind the queue has entered it. -/
theorem mem_sentOf_of_pipeline (run : (new config sufficient).run events = some final)
    (onTheWay : request ∈ final.pipeline) : request ∈ (new config sufficient).sentOf events :=
  (ordered_of_run run).inOrder.subset onTheWay

/-- Whatever sees a request sees it with the token of its path. -/
theorem path_of_seen (run : (new config sufficient).run events = some final)
    (seen : (new config sufficient).Seen events request) :
    (request.token = .worker ∧ ∃ handle ∈ (new config sufficient).handlesOf events,
      handle.id = request.id ∧ handle.synchronous = false) ∨
    (request.token = .own ∧ ∃ handle ∈ (new config sufficient).handlesOf events,
      handle.id = request.id ∧ handle.synchronous = true) := by
  have queued {other : Request Snapshot Callback}
      (member : other ∈ (new config sufficient).sentOf events) :
      other.token = .worker ∧ ∃ handle ∈ (new config sufficient).handlesOf events,
        handle.id = other.id ∧ handle.synchronous = false := by
    rcases exists_handle_of_sent run member with ⟨token, handle, handed, tells, path⟩
    exact ⟨token, handle, handed, tells.id, path⟩
  cases seen with
  | sent entered => exact .inl (queued entered)
  | analyzed begun =>
    rcases List.mem_flatMap.mp begun with ⟨transition, member, new⟩
    rcases exists_split_of_mem run member with ⟨past, rest, rfl, pastRun, step, _⟩
    have untilNow := run_concat pastRun step
    rw [List.append_cons] at run queued ⊢
    rcases mem_analyzing.mp ((Transition.mem_newIn _).mp new).1 with called | executing
    · right
      rcases path_of_call untilNow called rfl with ⟨token, handle, handed, path⟩
      refine ⟨token, handle, ?_, path⟩
      rw [handlesOf_append untilNow]
      exact List.mem_append_left _ handed
    · left
      apply queued
      rw [sentOf_append untilNow]
      apply List.mem_append_left
      apply mem_sentOf_of_pipeline untilNow
      simp [pipeline, remaining, executing, Worker.request?]
  | @calledBack callback begun =>
    rcases List.mem_flatMap.mp begun with ⟨⟨before, event, after⟩, member, new⟩
    rcases exists_split_of_mem run member with ⟨past, rest, rfl, pastRun, step, _⟩
    cases begins_of_mem_callbacks new with
    | submission calling fresh =>
      right
      have untilNow := run_concat pastRun step
      rcases path_of_call untilNow (callPhase_of_mem_callingBack calling) rfl
        with ⟨token, handle, handed, path⟩
      refine ⟨token, handle, ?_, path⟩
      rw [List.append_cons, handlesOf_append untilNow]
      exact List.mem_append_left _ handed
    | pump pumps jobs =>
      left
      apply queued
      rw [sentOf_append pastRun]
      apply List.mem_append_left
      apply mem_sentOf_of_pipeline pastRun
      simp [pipeline, jobs]

/-- The token of a request that is seen is the worker's exactly if the request took the queue. -/
theorem token_of_seen (run : (new config sufficient).run events = some final)
    (seen : (new config sufficient).Seen events request) :
    request.token = .worker ↔ TookQueue ((new config sufficient).handlesOf events) request.id := by
  rcases path_of_seen run seen with ⟨token, queued⟩ | ⟨token, handle, handed, own, synchronous⟩
  · exact ⟨fun _ => queued, fun _ => token⟩
  · constructor
    · intro bound
      simp [token] at bound
    · rintro ⟨other, otherHanded, otherOwn, queued⟩
      have same := eq_of_handle_id run handed otherHanded (own.trans otherOwn.symm)
      simp [same, queued] at synchronous

theorem isCancelled_iff : scheduler.isCancelled request = true ↔
    request.token = .worker ∧ scheduler.cancelled = true := by
  cases token : request.token <;> simp [isCancelled, token]

end Tokens

/-- Cancellation, over every run. A request that an analyzer call or a callback sees is cancelled
exactly if it took the queue and the running worker has been shut down. Every such request sees it in
the very step of that shutdown and from then on; a request answered on the submitting thread never
does, whenever the shutdown comes. -/
theorem cancellation_exact {config : Config} {sufficient : Reason → Bool}
    (run : (new config sufficient).run events = some final) :
    (∀ request, (new config sufficient).Seen events request →
      (final.isCancelled request = true ↔
        TookQueue ((new config sufficient).handlesOf events) request.id ∧
          ∃ transition ∈ (new config sufficient).trace events, transition.StopsWorker)) ∧
    (∀ request, (new config sufficient).Seen events request →
      ∀ transition ∈ (new config sufficient).trace events,
        (transition.before.isCancelled request = true →
          transition.after.isCancelled request = true) ∧
        (transition.before.isCancelled request = false ∧
            transition.after.isCancelled request = true ↔
          TookQueue ((new config sufficient).handlesOf events) request.id ∧
            transition.StopsWorker)) ∧
    (∀ handle ∈ (new config sufficient).handlesOf events, handle.synchronous = true →
      ∀ request, (new config sufficient).Seen events request → request.id = handle.id →
        ∀ transition ∈ (new config sufficient).trace events,
          transition.before.isCancelled request = false ∧
            transition.after.isCancelled request = false) := by
  refine ⟨?_, ?_, ?_⟩
  · intro request seen
    rw [isCancelled_iff, token_of_seen run seen, cancelled_iff_of_run run]
  · intro request seen transition member
    rcases exists_run_of_mem run member with ⟨earlier, earlierRun, step⟩
    have orderly := (calledBack_of_run earlierRun).sound.orderly
    have fires := cancelled_iff_of_rule (rule_of_step step)
    rw [← Bool.not_eq_true, isCancelled_iff, isCancelled_iff, token_of_seen run seen, fires]
    refine ⟨fun ⟨took, fired⟩ => ⟨took, .inl fired⟩, ?_, ?_⟩
    · rintro ⟨unseen, took, fired | stops⟩
      · exact absurd ⟨took, fired⟩ unseen
      · exact ⟨took, stops⟩
    · rintro ⟨took, stops⟩
      refine ⟨?_, took, .inr stops⟩
      simp [orderly.uncancelled_of_stopsWorker stops]
  · intro handle handed synchronous request seen own transition _
    have unbound : request.token ≠ .worker := by
      rw [ne_eq, token_of_seen run seen]
      rintro ⟨other, otherHanded, otherOwn, queued⟩
      have same := eq_of_handle_id run handed otherHanded (own.symm.trans otherOwn.symm)
      simp [same, queued] at synchronous
    constructor <;> simp [← Bool.not_eq_true, isCancelled_iff, unbound]

/-- A shutdown while one request waits for its callback, another is on the worker, a third one waits
and a fourth one is inside the analyzer on its own thread. -/
def shutdownAmidst : List (Event Unit Unit Unit) :=
  let submission : Submission Unit Unit :=
    { source := ⟨"a"⟩, position := {}, reason := .completeWord, snapshot := (), callback := some () }
  [.submit submission (.ok {}) 0, .enqueue 0 .started, .workerPoll, .workerReceive, .workerBegin,
    .workerAnswer (.ok (.ok ⟨some (), {}, false⟩)), .workerRecord (.ok {}) 0, .workerDeliver,
    .workerPost true, .workerClear, .submit submission (.ok {}) 0, .enqueue 1 .started, .workerPoll,
    .workerReceive, .workerBegin, .submit submission (.ok {}) 0, .enqueue 2 .started,
    .submit { submission with synchronous := true } (.ok {}) 0, .shutdown,
    .answerCall 3 (.ok (.ok ⟨none, {}, true⟩)), .recordCall 3 (.ok {}) 0, .pump]

theorem cancellation_exact_shutdownAmidst : ∃ final : Scheduler Unit Unit Unit,
    (new .default fun _ => false).run shutdownAmidst = some final ∧
      ((new .default fun _ => false).analysesOf shutdownAmidst).map
        (fun request => (request.id, final.isCancelled request)) =
          [(0, true), (1, true), (3, false)] ∧
      ((new .default fun _ => false).callbacksOf shutdownAmidst).map
        (fun callback => (callback.id, final.isCancelled callback.answered.request)) =
          [(3, false), (0, true)] ∧
      ∀ request, (new .default fun _ => false).Seen shutdownAmidst request →
        (final.isCancelled request = true ↔
          TookQueue ((new .default fun _ => false).handlesOf shutdownAmidst) request.id ∧
            ∃ transition ∈ (new .default fun _ => false).trace shutdownAmidst,
              transition.StopsWorker) :=
  ⟨_, rfl, rfl, rfl, (cancellation_exact rfl).1⟩

end Scheduler

end EditorAnalysis
