import EditorAnalysis.Proofs.Scheduler.Accounting
import EditorAnalysis.Proofs.Scheduler.Callback
import Mathlib.Data.List.Nodup

/-!
# The counters tell how the requests ended

A scheduler counts the ends of its requests at ten places. What a step does to the cells and to the
counters is one of four things (`Scheduler.Books`): nothing, one more cell, some requests ended and
counted, or one request dropped without being counted, and in each the counters keep telling how the
requests ended. `Scheduler.counters_conserved` says so after every run, and adds up the counters.
-/

namespace EditorAnalysis

variable {Snapshot Callback Output : Type}

/-- The kinds of outcomes. -/
inductive OutcomeKind where
  | completed
  | superseded
  | displaced
  | abandoned
  | aborted
  deriving DecidableEq, Repr

/-- The kind of an outcome. -/
def Outcome.kind : Outcome Output → OutcomeKind
  | .completed _ => .completed
  | .superseded => .superseded
  | .displaced => .displaced
  | .abandoned => .abandoned
  | .aborted => .aborted

/-- The counter of the requests that ended in a way. -/
def Stats.counter (stats : Stats) : OutcomeKind → UInt64
  | .completed => stats.delivered
  | .superseded => stats.superseded
  | .displaced => stats.displaced
  | .abandoned => stats.abandoned
  | .aborted => stats.aborted

/-- One more request that ended in a way. -/
def Stats.add (stats : Stats) : OutcomeKind → Stats
  | .completed => stats.addDelivered
  | .superseded => stats.addSuperseded
  | .displaced => stats.addDisplaced
  | .abandoned => stats.addAbandoned
  | .aborted => stats.addAborted

theorem Stats.counter_add (stats : Stats) (ended kind : OutcomeKind) :
    (stats.add ended).counter kind = stats.counter kind + if ended = kind then 1 else 0 := by
  cases ended <;> cases kind <;>
    simp [Stats.add, counter, addDelivered, addSuperseded, addDisplaced, addAbandoned, addAborted]

/-- The exception that ended a submission before there was a request. -/
def Opening.fault? : Opening → Option Payload
  | .faulted payload => some payload
  | _ => none

namespace Transition

variable (transition : Transition Snapshot Callback Output)

/-- The exception that ended a submission before there was a request. -/
def faults : List Payload :=
  match transition.event with
  | .submit submission reading now =>
      (transition.before.openCall submission false reading now).1.fault?.toList
  | .idle trigger reading now =>
      ((transition.before.onIdle trigger reading now).1.2.bind Opening.fault?).toList
  | _ => []

/-- The request that was dropped on the way: the worker could not be started for it, or the version
source raised an exception while its result was being recorded. -/
def forsaken : List RequestId :=
  match transition.event with
  | .enqueue id launch =>
      match transition.before.enqueue id launch with
      | some (.error _, _) => [id]
      | _ => []
  | .recordCall id reading now =>
      match transition.before.recordCall id reading now with
      | some (.error _, _) => [id]
      | _ => []
  | .workerRecord reading now =>
      match transition.before.worker with
      | .recording request analysis =>
          match transition.before.recordResult request analysis reading now with
          | .error _ => [request.id]
          | .ok _ => []
      | _ => []
  | _ => []

end Transition

namespace Scheduler

open Completion (endAll)

/-- The submissions of a run that ended by an exception before there was a request. -/
def faultsOf (scheduler : Scheduler Snapshot Callback Output)
    (events : List (Event Snapshot Callback Output)) : List Payload :=
  (scheduler.trace events).flatMap Transition.faults

/-- The requests that a run dropped on the way. -/
def forsakenOf (scheduler : Scheduler Snapshot Callback Output)
    (events : List (Event Snapshot Callback Output)) : List RequestId :=
  (scheduler.trace events).flatMap Transition.forsaken

/-- The requests that ended in a way. -/
def endedAs (scheduler : Scheduler Snapshot Callback Output) (kind : OutcomeKind) :
    List RequestId :=
  (List.range scheduler.completions.length).filter fun id =>
    (scheduler.outcome? id).map Outcome.kind = some kind

/-- The requests that ended in a way, without the abandoned ones that were dropped on the way. -/
def credits (scheduler : Scheduler Snapshot Callback Output) (lost : List RequestId)
    (kind : OutcomeKind) : List RequestId :=
  (scheduler.endedAs kind).filter fun id => ¬ (kind = .abandoned ∧ id ∈ lost)

/-- The requests without an outcome that wait, are at the worker's hands or have a submission under
way. -/
def unfinished (scheduler : Scheduler Snapshot Callback Output) : List RequestId :=
  ((scheduler.waiting ++ scheduler.worker.request?.toList ++
    scheduler.calls.map Call.request).map fun request => request.id).filter
      fun id => (scheduler.outcome? id).isNone

variable {scheduler before after final : Scheduler Snapshot Callback Output}
  {event : Event Snapshot Callback Output} {events : List (Event Snapshot Callback Output)}
  {lost forsaken : List RequestId} {id : RequestId} {kind : OutcomeKind}

section Credits

theorem mem_endedAs : id ∈ scheduler.endedAs kind ↔
    ∃ outcome, scheduler.outcome? id = some outcome ∧ outcome.kind = kind := by
  rw [endedAs, List.mem_filter, List.mem_range, decide_eq_true_iff, Option.map_eq_some_iff]
  constructor
  · rintro ⟨_, ended⟩
    exact ended
  · rintro ⟨outcome, settled, same⟩
    exact ⟨lt_length_of_outcome? settled, outcome, settled, same⟩

theorem mem_credits : id ∈ scheduler.credits lost kind ↔
    (∃ outcome, scheduler.outcome? id = some outcome ∧ outcome.kind = kind) ∧
      (kind = .abandoned → id ∉ lost) := by
  simp [credits, mem_endedAs, imp_iff_not_or]

theorem nodup_credits (scheduler : Scheduler Snapshot Callback Output) (lost : List RequestId)
    (kind : OutcomeKind) : (scheduler.credits lost kind).Nodup :=
  (List.nodup_range.filter _).filter _

end Credits

/-- What a step does to the cells and the counters, and the requests that it drops on the way. -/
inductive Books (before after : Scheduler Snapshot Callback Output) : List RequestId → Prop where
  | same (completions : after.completions = before.completions)
      (counters : ∀ kind, after.stats.counter kind = before.stats.counter kind) :
      Books before after []
  | opened {cell : Completion Output}
      (completions : after.completions = before.completions ++ [cell])
      (counters : ∀ kind, after.stats.counter kind = before.stats.counter kind +
        if cell.outcome.map Outcome.kind = some kind then 1 else 0) :
      Books before after []
  | ended {outcome : Outcome Output} {ids : List RequestId} (distinct : ids.Nodup)
      (born : ∀ id ∈ ids, id < before.completions.length)
      (pending : ∀ id ∈ ids, before.outcome? id = none)
      (completions : after.completions = endAll outcome ids before.completions)
      (counters : ∀ kind, after.stats.counter kind = before.stats.counter kind +
        if outcome.kind = kind then UInt64.ofNat ids.length else 0) :
      Books before after []
  | dropped {id : RequestId} (born : id < before.completions.length)
      (uncounted : before.outcome? id ≠ some .abandoned)
      (completions : after.completions = endAll .abandoned [id] before.completions)
      (counters : ∀ kind, after.stats.counter kind = before.stats.counter kind) :
      Books before after [id]

section Balance

theorem mem_credits_opened {cell : Completion Output}
    (completions : after.completions = before.completions ++ [cell])
    (fresh : before.completions.length ∉ lost) : id ∈ after.credits lost kind ↔
      id ∈ before.credits lost kind ∨
        id ∈ if cell.outcome.map Outcome.kind = some kind then [before.completions.length]
          else [] := by
  have unborn : before.outcome? before.completions.length = none :=
    Completion.recorded_eq_none_of_le (Nat.le_refl _)
  have now : after.outcome? id =
      if id = before.completions.length then cell.outcome else before.outcome? id := by
    rw [outcome?_eq_recorded, completions, Completion.recorded_append]
    rfl
  rw [mem_credits, mem_credits, now]
  by_cases last : id = before.completions.length
  · subst last
    by_cases counts : cell.outcome.map Outcome.kind = some kind
    · simpa [unborn, counts, fresh] using Option.map_eq_some_iff.mp counts
    · have other : ¬ ∃ outcome, cell.outcome = some outcome ∧ outcome.kind = kind :=
        fun ended => counts (Option.map_eq_some_iff.mpr ended)
      simp [unborn, counts, other]
  · by_cases counts : cell.outcome.map Outcome.kind = some kind <;> simp [last, counts]

theorem mem_credits_ended {outcome : Outcome Output} {ids : List RequestId}
    (born : ∀ id ∈ ids, id < before.completions.length)
    (pending : ∀ id ∈ ids, before.outcome? id = none)
    (completions : after.completions = endAll outcome ids before.completions)
    (fresh : ∀ id ∈ ids, id ∉ lost) : id ∈ after.credits lost kind ↔
      id ∈ before.credits lost kind ∨ id ∈ if outcome.kind = kind then ids else [] := by
  rw [mem_credits, mem_credits, outcome?_endAll completions]
  by_cases member : id ∈ ids
  · by_cases counts : outcome.kind = kind <;>
      simp [member, born id member, pending id member, counts, fresh id member]
  · by_cases counts : outcome.kind = kind <;> simp [member, counts]

/-- A request dropped on the way counts neither before nor after. -/
theorem mem_credits_dropped {target : RequestId} (born : target < before.completions.length)
    (uncounted : before.outcome? target ≠ some .abandoned)
    (completions : after.completions = endAll .abandoned [target] before.completions) :
    id ∈ after.credits (lost ++ [target]) kind ↔ id ∈ before.credits lost kind := by
  rw [mem_credits, mem_credits, outcome?_endAll completions]
  by_cases here : id = target
  · subst here
    rw [if_pos ⟨List.mem_singleton_self id, born⟩]
    cases known : before.outcome? id with
    | none => simp [Outcome.kind, eq_comm]
    | some outcome =>
      have other : outcome.kind ≠ .abandoned := by
        intro same
        cases outcome <;> first | exact uncounted known | cases same
      simp only [Option.getD_some, Option.some.injEq, exists_eq_left']
      apply and_congr_right
      rintro rfl
      simp [other]
  · simp [here]

theorem length_credits {more new : List RequestId} (distinct : new.Nodup)
    (pending : ∀ id ∈ new, before.outcome? id = none)
    (members : ∀ id, id ∈ after.credits more kind ↔ id ∈ before.credits lost kind ∨ id ∈ new) :
    (after.credits more kind).length = (before.credits lost kind).length + new.length := by
  have apart : (before.credits lost kind ++ new).Nodup := by
    apply List.Nodup.append (nodup_credits before lost kind) distinct
    intro id old fresh
    rcases (mem_credits.mp old).1 with ⟨outcome, settled, _⟩
    rw [pending id fresh] at settled
    cases settled
  have perm : (after.credits more kind).Perm (before.credits lost kind ++ new) := by
    apply (List.perm_ext_iff_of_nodup (nodup_credits after more kind) apart).mpr
    intro id
    rw [members, List.mem_append]
  rw [perm.length_eq, List.length_append]

/-- The counters keep telling how the requests ended. -/
theorem Books.balanced (books : Books before after forsaken)
    (settled : ∀ id ∈ lost, (before.outcome? id).isSome)
    (balanced : ∀ kind, before.stats.counter kind = UInt64.ofNat (before.credits lost kind).length)
    (kind : OutcomeKind) : after.stats.counter kind =
      UInt64.ofNat (after.credits (lost ++ forsaken) kind).length := by
  have fresh {id : RequestId} (pending : before.outcome? id = none) : id ∉ lost := by
    intro member
    have known := settled id member
    simp [pending] at known
  cases books with
  | same completions counters =>
    rw [counters, balanced, List.append_nil]
    simp only [credits, endedAs, outcome?_eq_recorded, completions]
    rfl
  | opened completions counters =>
    have unborn : before.outcome? before.completions.length = none :=
      Completion.recorded_eq_none_of_le (Nat.le_refl _)
    rw [counters, balanced, List.append_nil,
      length_credits ?_ ?_ fun _ => mem_credits_opened completions (fresh unborn),
      UInt64.ofNat_add]
    · split <;> rfl
    · split <;> simp
    · intro id member
      split at member
      · rw [List.mem_singleton.mp member]
        exact unborn
      · cases member
  | ended distinct born pending completions counters =>
    rw [counters, balanced, List.append_nil,
      length_credits ?_ ?_ fun _ => mem_credits_ended born pending completions fun id member =>
        fresh (pending id member), UInt64.ofNat_add]
    · split <;> rfl
    · split
      · exact distinct
      · exact List.nodup_nil
    · intro id member
      split at member
      · exact pending id member
      · cases member
  | dropped born uncounted completions counters =>
    rw [counters, balanced, length_credits List.nodup_nil (by simp) fun id => by
      rw [mem_credits_dropped born uncounted completions, iff_self_or]
      exact nofun]
    rfl

end Balance

section Steps

/-- Ending a request that may have an outcome already. -/
theorem Books.of_conclude {outcome : Outcome Output} (born : id < before.completions.length)
    (completions : after.completions = endAll outcome [id] before.completions)
    (stats : after.stats =
      if (before.outcome? id).isSome then before.stats else before.stats.add outcome.kind) :
    Books before after [] := by
  by_cases settled : (before.outcome? id).isSome
  · rw [if_pos settled] at stats
    refine .same (completions.trans ?_) fun kind => by rw [stats]
    exact Completion.modify_finish_of_recorded outcome settled
  · rw [if_neg settled] at stats
    rw [Option.not_isSome_iff_eq_none] at settled
    refine .ended (List.nodup_singleton id) ?_ ?_ completions fun kind => ?_
    · intro other member
      rw [List.mem_singleton.mp member]
      exact born
    · intro other member
      rw [List.mem_singleton.mp member]
      exact settled
    · rw [stats, Stats.counter_add]
      rfl

/-- A shutdown adds what it aborts to one counter. -/
theorem stats_of_stopping {count : Nat} {aborted : Scheduler Snapshot Callback Output}
    (aborts : abortJobs { before with
      lifecycle := .stopped, cancelled := true, mailbox := ⟨some .terminate, none⟩ }
        before.mailbox.toList = (count, aborted)) :
    aborted.stats = { before.stats with
      aborted := before.stats.aborted + UInt64.ofNat count } := by
  have added := stats_abortJobs { before with
    lifecycle := .stopped, cancelled := true, mailbox := ⟨some .terminate, none⟩ }
      before.mailbox.toList
  rwa [aborts] at added

/-- Ending requests that wait. -/
theorem Sound.books_of_waiting {outcome : Outcome Output} {ids : List RequestId}
    (sound : before.Sound)
    (waiting : ids.Sublist (before.waiting.map fun request => request.id))
    (completions : after.completions = endAll outcome ids before.completions)
    (counters : ∀ kind, after.stats.counter kind = before.stats.counter kind +
      if outcome.kind = kind then UInt64.ofNat ids.length else 0) : Books before after [] := by
  refine .ended (sound.nodup_waiting.sublist waiting) ?_ ?_ completions counters
  · intro id member
    rcases List.mem_map.mp (waiting.subset member) with ⟨request, waits, rfl⟩
    exact sound.born_of_waiting waits
  · intro id member
    rcases List.mem_map.mp (waiting.subset member) with ⟨request, waits, rfl⟩
    exact sound.outcome?_of_waiting waits

/-- Every step keeps its books in one of the four ways. -/
theorem Sound.books (sound : before.Sound) (rule : before.Rule event after) :
    Books before after (Transition.mk before event after).forsaken := by
  cases rule with
  | refused submits => cases submits <;> exact .same rfl fun _ => rfl
  | faulted submits => cases submits <;> exact .same rfl fun kind => by cases kind <;> rfl
  | openedRecent submits =>
    cases submits <;>
    · refine .opened rfl fun kind => ?_
      rw [Completion.outcome_finish]
      cases kind <;>
        simp [Stats.counter, Stats.addSubmitted, Stats.addFastPathHit, Stats.addDelivered,
          Completion.pending, Outcome.kind]
  | openedInline submits =>
    cases submits <;>
    · refine .opened rfl fun kind => ?_
      cases kind <;>
        simp [Stats.counter, Stats.addSubmitted, Stats.addExecuted, Completion.pending]
  | openedQueued submits =>
    cases submits <;>
    · refine .opened rfl fun kind => ?_
      cases kind <;> simp [Stats.counter, Stats.addSubmitted, Completion.pending]
  | turnedAway found failed =>
    have pending := sound.staged.recorded_of_call? found
    simp only [Transition.forsaken, enqueue, found, failed]
    refine .dropped (sound.staged.born_of_call? found) ?_ rfl fun _ => rfl
    rw [outcome?_eq_recorded, pending]
    intro abandoned
    cases abandoned
  | @enqueued id launch request pushed mailbox found open_ pushes launched =>
    rcases launched with ⟨started, launched⟩
    have gone := LaneSlots.displaced_push_sublist (Job.analyze request.bound) sound.orderly.proper
    rw [pushes] at gone
    simp only [Transition.forsaken, enqueue, found, launched]
    refine sound.books_of_waiting (Job.requestIds_sublist gone) rfl fun kind => ?_
    cases kind <;> simp [Stats.counter, Outcome.kind]
  | failedCall found =>
    have born := sound.staged.born_of_call? found
    exact .of_conclude born rfl rfl
  | cancelledCall found =>
    have born := sound.staged.born_of_call? found
    exact .of_conclude born rfl rfl
  | faultedCall found fault =>
    have pending := sound.staged.recorded_of_call? found
    simp only [Transition.forsaken, recordCall, found, fault]
    refine .dropped (sound.staged.born_of_call? found) ?_ rfl fun _ => rfl
    rw [outcome?_eq_recorded, pending]
    intro abandoned
    cases abandoned
  | lostCall found records lost =>
    rw [outcome?_eq_recorded, sound.staged.recorded_of_call? found] at lost
    cases lost
  | @deliveredCall id _ _ _ _ recorded found records pending =>
    have born := sound.staged.born_of_call? found
    have unlost : recorded.outcome? id = none := by
      rw [recordResult_eq_ok records]
      exact pending
    simp only [Transition.forsaken, recordCall, found, records, unlost]
    exact .of_conclude born rfl (by rw [pending]; rfl)
  | skipped holding =>
    have born := sound.born_of_worker (by rw [holding]; rfl)
    exact .of_conclude born rfl rfl
  | failed executing =>
    have born := sound.born_of_worker (by rw [executing]; rfl)
    exact .of_conclude born rfl rfl
  | gaveUp executing =>
    have born := sound.born_of_worker (by rw [executing]; rfl)
    exact .of_conclude born rfl rfl
  | @recordFaulted _ _ request analysis _ recording fault =>
    simp only [Transition.forsaken, recording, fault]
    refine .dropped (sound.born_of_worker (by rw [recording]; rfl)) ?_ rfl fun _ => rfl
    rcases sound.staged request.id with ⟨stage, stands⟩
    rcases stage_of_work? stands (by rw [recording]; rfl) with ⟨marked, rfl⟩
    rw [show before.outcome? request.id = _ from congrArg View.outcome stands]
    intro abandoned
    cases marked <;> cases abandoned
  | recorded recording records =>
    simp only [Transition.forsaken, recording, records]
    exact .same rfl fun _ => rfl
  | superseded delivering =>
    have born := sound.born_of_worker (by rw [delivering]; rfl)
    exact .of_conclude born rfl rfl
  | completed delivering wanted pending =>
    have born := sound.born_of_worker (by rw [delivering]; rfl)
    exact .of_conclude born rfl (by rw [pending]; rfl)
  | @stopping count aborted running aborts =>
    have pending : ∀ id ∈ Job.requestIds before.mailbox.toList, before.outcome? id = none := by
      intro id named
      rcases List.mem_map.mp named with ⟨request, waits, rfl⟩
      exact sound.outcome?_of_waiting waits
    have counted : count = (Job.requestIds before.mailbox.toList).length :=
      (congrArg Prod.fst aborts).symm.trans (abortJobs_count _ _ sound.nodup_waiting pending)
    refine sound.books_of_waiting (List.Sublist.refl _) rfl fun kind => ?_
    cases kind <;>
      simp [stats_of_stopping aborts, counted, Stats.counter, Outcome.kind, requestIds_mailbox]
  | gaveUpRequest closing present published =>
    have born := sound.born_of_inFlight published
    exact .of_conclude born rfl rfl
  | _ => exact .same rfl fun kind => by cases kind <;> rfl

theorem Books.settled (books : Books before after forsaken) :
    ∀ id ∈ forsaken, (after.outcome? id).isSome := by
  intro id member
  cases books with
  | dropped born uncounted completions counters =>
    rw [List.mem_singleton.mp member, outcome?_endAll completions,
      if_pos ⟨List.mem_singleton_self _, born⟩]
    rfl
  | _ => cases member

end Steps

section Submissions

/-- A submission is counted if it hands out a handle or ends by an exception. -/
theorem submitted_of_openCall (scheduler : Scheduler Snapshot Callback Output)
    (submission : Submission Snapshot Callback) (idleTriggered : Bool) (reading : Attempt Version)
    (now : Instant) :
    (scheduler.openCall submission idleTriggered reading now).2.stats.submitted =
      scheduler.stats.submitted + UInt64.ofNat
        ((scheduler.openCall submission idleTriggered reading now).1.handle?.toList.length +
          (scheduler.openCall submission idleTriggered reading now).1.fault?.toList.length) := by
  unfold openCall
  by_cases down : scheduler.isShutDown
  · simp [down, Opening.handle?, Opening.fault?]
  · cases reading with
    | error payload => simp [down, Opening.handle?, Opening.fault?, Stats.addSubmitted]
    | ok version =>
      have unchanged (state : Scheduler Snapshot Callback Output) (id : RequestId)
          (outcome : Outcome Output) :
          (state.conclude id outcome Stats.addDelivered).stats.submitted =
            state.stats.submitted := by
        unfold conclude
        split <;> rfl
      cases scheduler.path submission <;>
        simp [down, unchanged, addCall, Opening.handle?, Opening.fault?, Stats.addSubmitted,
          Stats.addFastPathHit, Stats.addExecuted]

theorem submitted_of_rule (rule : before.Rule event after)
    (silent : ∀ submission idleTriggered reading now,
      ¬ before.Submits event submission idleTriggered reading now) :
    after.stats.submitted = before.stats.submitted := by
  cases rule with
  | faulted submits | openedRecent submits | openedInline submits | openedQueued submits =>
    exact absurd submits (silent _ _ _ _)
  | failedCall | cancelledCall | skipped | failed | gaveUp | superseded | gaveUpRequest =>
    dsimp only
    split <;> rfl
  | stopping running aborts => rw [stats_of_stopping aborts]
  | _ => rfl

theorem submitted_of_step (step : before.step event = some after) :
    after.stats.submitted = before.stats.submitted + UInt64.ofNat
      ((Transition.mk before event after).handles.length +
        (Transition.mk before event after).faults.length) := by
  cases event with
  | submit submission reading now =>
    cases step
    exact submitted_of_openCall before submission false reading now
  | idle trigger reading now =>
    cases step
    have counted := submitted_of_openCall before trigger.submission true reading now
    cases decision : before.idleDecision trigger.needsRefresh trigger.quiet with
    | submit =>
      simp only [onIdle, decision, Transition.handles, Transition.faults, Option.bind_some]
      exact counted
    | _ => simp [onIdle, decision, Transition.handles, Transition.faults]
  | _ =>
    rw [submitted_of_rule (rule_of_step step) fun _ _ _ _ submits => by cases submits]
    simp [Transition.handles, Transition.faults]

end Submissions

/-- What the counters tell after a run, given its transitions. -/
structure Tallied (past : List (Transition Snapshot Callback Output))
    (scheduler : Scheduler Snapshot Callback Output) : Prop where
  sound : scheduler.Sound
  settled : ∀ id ∈ past.flatMap Transition.forsaken, (scheduler.outcome? id).isSome
  balanced : ∀ kind, scheduler.stats.counter kind =
    UInt64.ofNat (scheduler.credits (past.flatMap Transition.forsaken) kind).length
  submitted : scheduler.stats.submitted = UInt64.ofNat
    ((past.flatMap Transition.handles).length + (past.flatMap Transition.faults).length)

theorem tallied_new (config : Config) (sufficient : Reason → Bool) :
    Tallied [] (new config sufficient : Scheduler Snapshot Callback Output) where
  sound := sound_new config sufficient
  settled id member := by cases member
  balanced kind := by cases kind <;> rfl
  submitted := rfl

theorem Tallied.step {past : List (Transition Snapshot Callback Output)}
    (known : Tallied past before) (step : before.step event = some after) :
    Tallied (past ++ [⟨before, event, after⟩]) after := by
  have rule := rule_of_step step
  have books := known.sound.books rule
  refine ⟨known.sound.of_rule rule, ?_, ?_, ?_⟩
  · intro id member
    rw [List.flatMap_append, List.flatMap_singleton] at member
    rcases List.mem_append.mp member with old | new
    · rcases Option.isSome_iff_exists.mp (known.settled id old) with ⟨outcome, settled⟩
      rw [known.sound.outcome?_of_rule rule settled]
      rfl
    · exact books.settled id new
  · intro kind
    rw [List.flatMap_append, List.flatMap_singleton]
    exact books.balanced known.settled known.balanced kind
  · rw [submitted_of_step step, known.submitted, ← UInt64.ofNat_add]
    congr 1
    simp only [List.flatMap_append, List.flatMap_singleton, List.length_append]
    omega

theorem tallied_of_run {config : Config} {sufficient : Reason → Bool}
    (run : (new config sufficient).run events = some final) :
    Tallied ((new config sufficient).trace events) final :=
  run_induction (tallied_new config sufficient) (fun _ _ _ _ known step => known.step step) run

section Unfinished

theorem length_places (scheduler : Scheduler Snapshot Callback Output) (id : RequestId) :
    (scheduler.places id).length =
      ((scheduler.waiting ++ scheduler.worker.request?.toList ++
        scheduler.calls.map Call.request).map fun request => request.id).count id := by
  rw [places, List.count_eq_countP, List.countP_map, List.countP_append, List.countP_append,
    List.countP_map, List.countP_eq_length_filter, List.countP_eq_length_filter,
    List.countP_eq_length_filter]
  simp only [List.length_append, List.length_map]
  rfl

theorem Sound.length_places_le (sound : scheduler.Sound) (id : RequestId) :
    (scheduler.places id).length ≤ 1 := by
  rcases sound.staged id with ⟨stage, stands⟩
  rw [places_eq stands]
  cases stage <;> simp [Stage.view]

theorem Sound.born_of_places (sound : scheduler.Sound) (there : scheduler.places id ≠ []) :
    id < scheduler.completions.length := by
  rcases sound.staged id with ⟨stage, stands⟩
  have born : stage.view.born = true := by
    rw [places_eq stands] at there
    cases stage <;> simp_all [Stage.view]
  rw [← stands] at born
  exact of_decide_eq_true born

/-- Unfinished requests are those without an outcome. -/
theorem Sound.unfinished_perm (sound : scheduler.Sound) : scheduler.unfinished.Perm
    ((List.range scheduler.completions.length).filter fun id => (scheduler.outcome? id).isNone) := by
  have distinct : scheduler.unfinished.Nodup := by
    apply List.Nodup.filter
    apply List.nodup_iff_count.mpr
    intro id
    rw [← length_places]
    exact sound.length_places_le id
  apply (List.perm_ext_iff_of_nodup distinct (List.nodup_range.filter _)).mpr
  intro id
  rw [unfinished, List.mem_filter, List.mem_filter, List.mem_range]
  apply and_congr_left
  intro pending
  rw [← List.count_pos_iff, ← length_places]
  constructor
  · intro there
    exact sound.born_of_places (List.ne_nil_of_length_pos there)
  · intro born
    rcases sound.exists_place born (Option.isNone_iff_eq_none.mp pending) with ⟨place, alone⟩
    simp [alone]

theorem length_eq_add_filter {Entry : Type} (kind? : Entry → Option OutcomeKind)
    (entries : List Entry) : entries.length =
      (entries.filter fun entry => kind? entry = some .completed).length +
      (entries.filter fun entry => kind? entry = some .superseded).length +
      (entries.filter fun entry => kind? entry = some .displaced).length +
      (entries.filter fun entry => kind? entry = some .abandoned).length +
      (entries.filter fun entry => kind? entry = some .aborted).length +
      (entries.filter fun entry => (kind? entry).isNone).length := by
  induction entries with
  | nil => rfl
  | cons entry entries ih =>
    cases found : kind? entry with
    | none => simp [found]; omega
    | some kind => cases kind <;> simp [found] <;> omega

/-- Every request has ended in one of the ways or is unfinished. -/
theorem Sound.length_completions (sound : scheduler.Sound) : scheduler.completions.length =
    (scheduler.endedAs .completed).length + (scheduler.endedAs .superseded).length +
      (scheduler.endedAs .displaced).length + (scheduler.endedAs .abandoned).length +
      (scheduler.endedAs .aborted).length + scheduler.unfinished.length := by
  have parts := length_eq_add_filter (fun id => (scheduler.outcome? id).map Outcome.kind)
    (List.range scheduler.completions.length)
  simp only [List.length_range, Option.isNone_map] at parts
  rw [sound.unfinished_perm.length_eq]
  exact parts

end Unfinished

theorem credits_of_ne (other : kind ≠ .abandoned) :
    scheduler.credits lost kind = scheduler.endedAs kind := by
  simp [credits, other]

theorem credits_abandoned : scheduler.credits lost .abandoned =
    (scheduler.endedAs .abandoned).filter fun id => id ∉ lost := by
  simp [credits]

/-- The counters are conserved, over every run. Each tells how many requests ended in its way, and
together with the unfinished requests they add up to the submissions. -/
theorem counters_conserved {config : Config} {sufficient : Reason → Bool}
    (run : (new config sufficient).run events = some final) :
    final.stats.delivered = UInt64.ofNat (final.endedAs .completed).length ∧
    final.stats.superseded = UInt64.ofNat (final.endedAs .superseded).length ∧
    final.stats.displaced = UInt64.ofNat (final.endedAs .displaced).length ∧
    final.stats.aborted = UInt64.ofNat (final.endedAs .aborted).length ∧
    final.stats.abandoned = UInt64.ofNat ((final.endedAs .abandoned).filter fun id =>
      id ∉ (new config sufficient).forsakenOf events).length ∧
    final.stats.submitted = UInt64.ofNat
      (final.completions.length + ((new config sufficient).faultsOf events).length) ∧
    ((new config sufficient).faultsOf events = [] →
      (new config sufficient).forsakenOf events = [] →
      final.stats.submitted = final.stats.delivered + final.stats.superseded +
        final.stats.displaced + final.stats.abandoned + final.stats.aborted +
        UInt64.ofNat final.unfinished.length) := by
  have known := tallied_of_run run
  have balanced (kind : OutcomeKind) (other : kind ≠ .abandoned) :
      final.stats.counter kind = UInt64.ofNat (final.endedAs kind).length := by
    rw [known.balanced, credits_of_ne other]
  have delivered : final.stats.delivered = _ := balanced .completed (by decide)
  have superseded : final.stats.superseded = _ := balanced .superseded (by decide)
  have displaced : final.stats.displaced = _ := balanced .displaced (by decide)
  have aborted : final.stats.aborted = _ := balanced .aborted (by decide)
  have abandoned : final.stats.abandoned = UInt64.ofNat ((final.endedAs .abandoned).filter
      fun id => id ∉ (new config sufficient).forsakenOf events).length := by
    rw [← credits_abandoned]
    exact known.balanced .abandoned
  have constructed := congrArg List.length (map_id_handlesOf run)
  rw [List.length_map, List.length_range] at constructed
  have submitted : final.stats.submitted = UInt64.ofNat
      (final.completions.length + ((new config sufficient).faultsOf events).length) := by
    rw [← constructed]
    exact known.submitted
  refine ⟨delivered, superseded, displaced, aborted, abandoned, submitted, ?_⟩
  intro faultless started
  rw [submitted, delivered, superseded, displaced, abandoned, aborted, faultless, started,
    known.sound.length_completions]
  simp [UInt64.ofNat_add]

/-- A check whose analyzer fails, and a parse that is analyzed. -/
def checkThenParse : List (Event Unit Unit Unit) :=
  let submission : Submission Unit Unit :=
    { source := ⟨"a"⟩, position := {}, reason := .fullTypeCheck, snapshot := () }
  [.submit submission (.ok {}) 0, .enqueue 0 .started, .workerPoll, .workerReceive, .workerBegin,
    .workerAnswer (.ok (.error (.failed "no check"))), .workerClear, .workerPoll,
    .submit { submission with reason := .parseFile } (.ok {}) 0, .enqueue 1 .started,
    .workerReceive, .workerBegin]

/-- A check for which no worker can be started, and one for which the version source raises an
exception. -/
def twoFaults : List (Event Unit Unit Unit) :=
  let submission : Submission Unit Unit :=
    { source := ⟨"a"⟩, position := {}, reason := .fullTypeCheck, snapshot := () }
  [.submit submission (.ok {}) 0, .enqueue 0 (.failed "no thread"),
    .submit submission (.error (.literal "no version")) 0]

theorem counters_conserved_checkThenParse : ∃ final faulty : Scheduler Unit Unit Unit,
    (new .default fun _ => false).run checkThenParse = some final ∧
      (new .default fun _ => false).run twoFaults = some faulty ∧
      final.endedAs .abandoned = [0] ∧ final.unfinished = [1] ∧
      final.stats.submitted = final.stats.delivered + final.stats.superseded +
        final.stats.displaced + final.stats.abandoned + final.stats.aborted +
        UInt64.ofNat final.unfinished.length ∧
      faulty.endedAs .abandoned = [0] ∧ faulty.stats.abandoned = UInt64.ofNat 0 ∧
      faulty.stats.submitted = UInt64.ofNat 2 := by
  have run : (new .default fun _ => false : Scheduler Unit Unit Unit).run checkThenParse =
    some _ := rfl
  have faultyRun : (new .default fun _ => false : Scheduler Unit Unit Unit).run twoFaults =
    some _ := rfl
  have total := (counters_conserved run).2.2.2.2.2.2 rfl rfl
  rcases counters_conserved faultyRun with ⟨_, _, _, _, abandoned, submitted, _⟩
  exact ⟨_, _, run, faultyRun, rfl, rfl, total, rfl, abandoned, submitted⟩

end Scheduler

end EditorAnalysis
