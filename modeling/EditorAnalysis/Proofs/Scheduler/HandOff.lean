import EditorAnalysis.Proofs.Scheduler.Tally

/-!
# Completed requests and the handing off of their callbacks

A request is completed and counted as delivered before its callback is handed off. On a submitting
thread the callback follows at once. The worker has yet to post it, and a dispatcher that raises an
exception drops the callback, while the outcome and the count stay as they are.

The file keeps account of the answered requests: each is handed off, rejected by the dispatcher, or
about to be posted by the worker. A step completes some requests (`Scheduler.Completes`) and moves
others from one of the three to another (`Scheduler.Delivers`), and so, after every run, the
completed requests are those of the three together, each of them once.
-/

namespace EditorAnalysis

variable {Snapshot Callback Output : Type}

namespace Transition

variable (transition : Transition Snapshot Callback Output)

/-- The requests whose callback was handed off: it began on the submitting thread, or the dispatcher
accepted it. -/
def handedOff : List (Answered Snapshot Callback Output) :=
  transition.newIn Scheduler.callingBack (fun answered => answered.request.id) ++ transition.posted

/-- The request whose callback the dispatcher dropped by raising an exception. -/
def rejected : List (Answered Snapshot Callback Output) :=
  match transition.event, transition.before.worker with
  | .workerPost false, .posting request analysis => [⟨request, analysis⟩]
  | _, _ => []

end Transition

namespace Scheduler

open Completion (endAll)

def handedOffOf (scheduler : Scheduler Snapshot Callback Output)
    (events : List (Event Snapshot Callback Output)) : List (Answered Snapshot Callback Output) :=
  (scheduler.trace events).flatMap Transition.handedOff

def rejectedOf (scheduler : Scheduler Snapshot Callback Output)
    (events : List (Event Snapshot Callback Output)) : List (Answered Snapshot Callback Output) :=
  (scheduler.trace events).flatMap Transition.rejected

/-- The completed request that the worker is about to post. -/
def posting (scheduler : Scheduler Snapshot Callback Output) :
    List (Answered Snapshot Callback Output) :=
  match scheduler.worker with
  | .posting request analysis => [⟨request, analysis⟩]
  | _ => []

variable {scheduler before after final : Scheduler Snapshot Callback Output}
  {event : Event Snapshot Callback Output} {events : List (Event Snapshot Callback Output)}

section Completing

/-- A step completes the given requests with their analyses, and no others. -/
structure Completes (before after : Scheduler Snapshot Callback Output)
    (fresh : List (Answered Snapshot Callback Output)) : Prop where
  distinct : (fresh.map fun answered => answered.request.id).Nodup
  pending : ∀ answered ∈ fresh, before.outcome? answered.request.id = none
  completed : ∀ id analysis, after.outcome? id = some (.completed analysis) ↔
    before.outcome? id = some (.completed analysis) ∨
      ∃ answered ∈ fresh, answered.request.id = id ∧ answered.analysis = analysis

theorem completes_nil (same : ∀ id analysis, after.outcome? id = some (.completed analysis) ↔
    before.outcome? id = some (.completed analysis)) : before.Completes after [] where
  distinct := List.nodup_nil
  pending answered member := by cases member
  completed id analysis := by simpa using same id analysis

theorem completes_of_same (completions : after.completions = before.completions) :
    before.Completes after [] := by
  apply completes_nil
  intro id analysis
  rw [outcome?_eq_recorded, completions]
  rfl

theorem completes_of_ended {outcome : Outcome Output} {ids : List RequestId}
    (completions : after.completions = endAll outcome ids before.completions)
    (unanswered : outcome.analysis? = none) : before.Completes after [] := by
  apply completes_nil
  intro id analysis
  rw [outcome?_endAll completions]
  split
  · cases settled : before.outcome? id with
    | none =>
      simp only [Option.getD_none, Option.some.injEq, reduceCtorEq, iff_false]
      rintro rfl
      cases unanswered
    | some other => simp
  · exact Iff.rfl

theorem completes_of_opened {cell : Completion Output}
    (completions : after.completions = before.completions ++ [cell])
    (pending : cell.outcome = none) : before.Completes after [] := by
  apply completes_nil
  intro id analysis
  rw [outcome?_eq_recorded, completions, Completion.recorded_append]
  split
  · next last =>
    rw [pending, last, outcome?_eq_recorded, Completion.recorded_eq_none_of_le (Nat.le_refl _)]
  · exact Iff.rfl

theorem completes_singleton {answered : Answered Snapshot Callback Output}
    (pending : before.outcome? answered.request.id = none)
    (completed : after.outcome? answered.request.id = some (.completed answered.analysis))
    (others : ∀ id, id ≠ answered.request.id → after.outcome? id = before.outcome? id) :
    before.Completes after [answered] where
  distinct := List.nodup_singleton _
  pending other member := by rwa [List.mem_singleton.mp member]
  completed id analysis := by
    by_cases here : id = answered.request.id
    · subst here
      simp [pending, completed]
    · simp [others id here, Ne.symm here]

theorem completes_of_completed {request : Request Snapshot Callback} {analysis : Analysis Output}
    (completions : after.completions =
      endAll (.completed analysis) [request.id] before.completions)
    (born : request.id < before.completions.length)
    (pending : before.outcome? request.id = none) :
    before.Completes after [⟨request, analysis⟩] := by
  apply completes_singleton pending
  · exact outcome?_of_ended completions (List.mem_singleton_self _) born pending
  · intro id other
    rw [outcome?_endAll completions, if_neg]
    rintro ⟨same, _⟩
    exact other (List.mem_singleton.mp same)

theorem completes_of_recent {request : Request Snapshot Callback} {analysis : Analysis Output}
    (completions : after.completions =
      before.completions ++ [Completion.pending.finish (.completed analysis)])
    (last : request.id = before.completions.length) :
    before.Completes after [⟨request, analysis⟩] := by
  apply completes_singleton
  · rw [last]
    exact Completion.recorded_eq_none_of_le (Nat.le_refl _)
  · rw [outcome?_eq_recorded, completions, Completion.recorded_append, if_pos last,
      Completion.outcome_finish]
    rfl
  · intro id other
    rw [outcome?_eq_recorded, completions, Completion.recorded_append, if_neg (last ▸ other)]
    rfl

end Completing

section Steps

/-- A step completes some requests, and what was about to be posted and what it completed is then
handed off, rejected, or about to be posted. -/
def Delivers (before : Scheduler Snapshot Callback Output)
    (event : Event Snapshot Callback Output) (after : Scheduler Snapshot Callback Output) : Prop :=
  ∃ fresh, before.Completes after fresh ∧
    ((Transition.mk before event after).handedOff ++ (Transition.mk before event after).rejected ++
      after.posting).Perm (before.posting ++ fresh)

theorem delivers_of_quiet
    (calls : ∀ request analysis, ⟨request, .callingBack analysis⟩ ∈ after.calls →
      ⟨request, .callingBack analysis⟩ ∈ before.calls)
    (notPost : ∀ accepted, event ≠ .workerPost accepted)
    (posting : after.posting = before.posting) (completes : before.Completes after []) :
    before.Delivers event after := by
  have unbegun : (Transition.mk before event after).newIn callingBack
      (fun answered => answered.request.id) = [] :=
    Transition.newIn_of_subset (callingBack_subset calls)
  have unposted : (Transition.mk before event after).posted = [] ∧
      (Transition.mk before event after).rejected = [] := by
    cases event with
    | workerPost accepted => exact absurd rfl (notPost accepted)
    | _ => exact ⟨rfl, rfl⟩
  refine ⟨[], completes, ?_⟩
  simp [Transition.handedOff, unbegun, unposted, posting]

/-- Only the worker changes what it is about to post. -/
theorem Orderly.posting_of_rule (orderly : before.Orderly) (rule : before.Rule event after)
    (other : event.isWorker = false) : after.posting = before.posting := by
  by_cases idle : before.lifecycle = .idle
  · have never := (orderly.unstarted idle).1
    cases rule with
    | started | enqueued => simp [posting, never, idle]
    | polled | receivedNone | receivedTerminate | receivedRequest | skipped | began | answered
    | failed | gaveUp | recordFaulted | recorded | superseded | lost | completed | posted | dropped
    | cleared => cases other
    | _ => rfl
  · rw [posting, worker_of_rule rule other idle]
    rfl

theorem Sound.delivers_of_worker (sound : before.Sound) (rule : before.Rule event after)
    (works : event.isWorker = true) : before.Delivers event after := by
  have calls : ∀ request analysis, ⟨request, .callingBack analysis⟩ ∈ after.calls →
      ⟨request, .callingBack analysis⟩ ∈ before.calls := by
    intro request analysis called
    rwa [calls_of_worker rule works] at called
  have unbegun : (Transition.mk before event after).newIn callingBack
      (fun answered => answered.request.id) = [] :=
    Transition.newIn_of_subset (callingBack_subset calls)
  cases rule with
  | refused submits | faulted submits | openedRecent submits | openedInline submits
  | openedQueued submits => simp [submits.isWorker_eq_false] at works
  | @completed request analysis delivering wanted pending =>
    have born := sound.born_of_worker (by rw [delivering]; rfl)
    refine ⟨[⟨request, analysis⟩], completes_of_completed rfl born pending, ?_⟩
    simp [Transition.handedOff, Transition.posted, Transition.rejected, unbegun, Scheduler.posting,
      delivering]
  | posted posting | dropped posting =>
    refine ⟨[], completes_of_same rfl, ?_⟩
    simp [Transition.handedOff, Transition.posted, Transition.rejected, unbegun, Scheduler.posting,
      posting]
  | skipped at_ | failed at_ | gaveUp at_ | recordFaulted at_ | superseded at_ =>
    exact delivers_of_quiet calls nofun (by simp [posting, at_]) (completes_of_ended rfl rfl)
  | receivedNone at_ | receivedTerminate at_ | receivedRequest at_ | began at_ | answered at_
  | recorded at_ | lost at_ =>
    exact delivers_of_quiet calls nofun (by simp [posting, at_]) (completes_of_same rfl)
  | polled at_ =>
    refine delivers_of_quiet calls nofun ?_ (completes_of_same rfl)
    cases cancelled : before.cancelled <;> simp [posting, at_]
  | @cleared leaves at_ =>
    refine delivers_of_quiet calls nofun ?_ (completes_of_same rfl)
    cases leaves <;> simp [posting, at_]
  | _ => cases works

theorem Sound.newIn_of_deliveredCall {id : RequestId} {request : Request Snapshot Callback}
    {analysis : Analysis Output} (sound : before.Sound) (afterSound : after.Sound)
    (found : before.call? id = some ⟨request, .recording analysis⟩)
    (calls : after.calls = before.calls.map fun call =>
      if call.request.id = id then { call with phase := .callingBack analysis } else call) :
    (Transition.mk before event after).newIn callingBack (fun answered => answered.request.id) =
      [⟨request, analysis⟩] := by
  have own : request.id = id := request_id_of_call? found
  have called := List.mem_of_find?_eq_some found
  have distinct : ((Transition.mk before event after).newIn callingBack
      fun answered => answered.request.id).Nodup := by
    apply List.Nodup.of_map (fun answered => answered.request.id)
    exact ((List.filter_sublist.map _).trans (map_id_callingBack_sublist after)).nodup
      afterSound.nodup_calls
  apply List.perm_singleton.mp
  apply (List.perm_ext_iff_of_nodup distinct (List.nodup_singleton _)).mpr
  intro answered
  rw [Transition.mem_newIn, List.mem_singleton]
  constructor
  · rintro ⟨calling, fresh⟩
    have now := callPhase_of_mem_callingBack calling
    rw [calls] at now
    rcases List.mem_map.mp now with ⟨call, old, moved⟩
    split at moved
    · next here =>
      have first := sound.call?_of_mem old
      rw [here, found] at first
      cases first
      cases moved
      rfl
    · exfalso
      apply fresh
      subst moved
      exact List.mem_map_of_mem (List.mem_filterMap.mpr ⟨_, old, rfl⟩)
  · rintro rfl
    constructor
    · refine List.mem_filterMap.mpr ⟨⟨request, .callingBack analysis⟩, ?_, rfl⟩
      rw [calls]
      exact List.mem_map.mpr ⟨_, called, by simp [own]⟩
    · intro inside
      rcases List.mem_map.mp inside with ⟨old, calling, same⟩
      have first := sound.call?_of_mem (callPhase_of_mem_callingBack calling)
      rw [show old.request.id = id from same.trans own, found] at first
      cases first

theorem Sound.newIn_of_openedRecent {request : Request Snapshot Callback}
    {analysis : Analysis Output} (sound : before.Sound)
    (last : request.id = before.completions.length)
    (calls : after.calls = before.calls ++ [⟨request, .callingBack analysis⟩]) :
    (Transition.mk before event after).newIn callingBack (fun answered => answered.request.id) =
      [⟨request, analysis⟩] := by
  have longer : after.callingBack = before.callingBack ++ [⟨request, analysis⟩] := by
    simp [callingBack, calls]
  apply Transition.newIn_of_append longer (List.Subset.refl _)
  intro inside
  rcases List.mem_map.mp inside with ⟨answered, calling, same⟩
  have found := sound.call?_of_mem (callPhase_of_mem_callingBack calling)
  have born : answered.request.id < before.completions.length :=
    sound.staged.born_of_call? found
  exact absurd (same.trans last) (Nat.ne_of_lt born)

theorem Sound.delivers_of_caller (sound : before.Sound) (rule : before.Rule event after)
    (other : event.isWorker = false) : before.Delivers event after := by
  have posting := sound.orderly.posting_of_rule rule other
  have afterSound := sound.of_rule rule
  have notPost : ∀ accepted, event ≠ .workerPost accepted := by
    rintro accepted rfl
    cases other
  have quiet : (Transition.mk before event after).posted = [] ∧
      (Transition.mk before event after).rejected = [] := by
    cases event with
    | workerPost accepted => cases other
    | _ => exact ⟨rfl, rfl⟩
  cases rule with
  | polled | receivedNone | receivedTerminate | receivedRequest | skipped | began | answered
  | failed | gaveUp | recordFaulted | recorded | superseded | lost | completed | posted | dropped
  | cleared => cases other
  | @openedRecent _ submission idleTriggered version now analysis submits open_ path =>
    refine ⟨[⟨before.built submission idleTriggered version now, analysis⟩],
      completes_of_recent rfl rfl, ?_⟩
    rw [Transition.handedOff, sound.newIn_of_openedRecent rfl rfl, quiet.1, quiet.2, posting]
    exact List.perm_append_comm
  | @deliveredCall id reading now request analysis recorded found records pending =>
    have own : request.id = id := request_id_of_call? found
    subst own
    refine ⟨[⟨request, analysis⟩],
      completes_of_completed rfl (sound.staged.born_of_call? found) pending, ?_⟩
    rw [Transition.handedOff, sound.newIn_of_deliveredCall afterSound found rfl, quiet.1, quiet.2,
      posting]
    exact List.perm_append_comm
  | openedInline | openedQueued =>
    refine delivers_of_quiet ?_ notPost posting (completes_of_opened rfl rfl)
    intro request analysis called
    simpa using called
  | turnedAway | failedCall | cancelledCall | faultedCall | enqueued =>
    refine delivers_of_quiet ?_ notPost posting (completes_of_ended rfl rfl)
    intro request analysis called
    exact (List.mem_filter.mp called).1
  | lostCall | returnedCall =>
    refine delivers_of_quiet ?_ notPost posting (completes_of_same rfl)
    intro request analysis called
    exact (List.mem_filter.mp called).1
  | answeredCall found ready =>
    refine delivers_of_quiet ?_ notPost posting (completes_of_same rfl)
    intro request analysis called
    rcases List.mem_map.mp called with ⟨call, old, moved⟩
    split at moved
    · cases moved
    · exact moved ▸ old
  | stopping | gaveUpRequest =>
    exact delivers_of_quiet (fun _ _ => id) notPost posting (completes_of_ended rfl rfl)
  | _ => exact delivers_of_quiet (fun _ _ => id) notPost posting (completes_of_same rfl)

theorem Sound.delivers (sound : before.Sound) (rule : before.Rule event after) :
    before.Delivers event after := by
  cases works : event.isWorker with
  | true => exact sound.delivers_of_worker rule works
  | false => exact sound.delivers_of_caller rule works

end Steps

section Runs

/-- The requests that were answered so far: handed off, rejected, or about to be posted. -/
def deliveries (past : List (Transition Snapshot Callback Output))
    (scheduler : Scheduler Snapshot Callback Output) : List (Answered Snapshot Callback Output) :=
  past.flatMap Transition.handedOff ++ past.flatMap Transition.rejected ++ scheduler.posting

/-- What is known of the answered requests of a run so far. -/
structure HandedOver (past : List (Transition Snapshot Callback Output))
    (scheduler : Scheduler Snapshot Callback Output) : Prop where
  sound : scheduler.Sound
  once : ((scheduler.deliveries past).map fun answered => answered.request.id).Nodup
  completed : ∀ id analysis, scheduler.outcome? id = some (.completed analysis) ↔
    ∃ answered ∈ scheduler.deliveries past, answered.request.id = id ∧ answered.analysis = analysis

theorem handedOver_new (config : Config) (sufficient : Reason → Bool) :
    HandedOver [] (new config sufficient : Scheduler Snapshot Callback Output) where
  sound := sound_new config sufficient
  once := List.nodup_nil
  completed id analysis := by simp [new, outcome?, deliveries, posting]

/-- Of the deliveries only those handed off in a step have to move, ahead of what was rejected
earlier. -/
theorem deliveries_perm {past : List (Transition Snapshot Callback Output)}
    {fresh : List (Answered Snapshot Callback Output)}
    (moves : ((Transition.mk before event after).handedOff ++
      (Transition.mk before event after).rejected ++ after.posting).Perm
        (before.posting ++ fresh)) :
    (after.deliveries (past ++ [⟨before, event, after⟩])).Perm
      (before.deliveries past ++ fresh) := by
  have ahead : ((Transition.mk before event after).handedOff ++
      past.flatMap Transition.rejected).Perm _ := List.perm_append_comm
  calc after.deliveries (past ++ [⟨before, event, after⟩])
    _ = past.flatMap Transition.handedOff ++ ((Transition.mk before event after).handedOff ++
          past.flatMap Transition.rejected) ++
          ((Transition.mk before event after).rejected ++ after.posting) := by
      simp [deliveries]
    List.Perm _ (past.flatMap Transition.handedOff ++ (past.flatMap Transition.rejected ++
          (Transition.mk before event after).handedOff) ++
          ((Transition.mk before event after).rejected ++ after.posting)) :=
      (ahead.append_left _).append_right _
    _ = past.flatMap Transition.handedOff ++ past.flatMap Transition.rejected ++
          ((Transition.mk before event after).handedOff ++
            (Transition.mk before event after).rejected ++ after.posting) := by simp
    List.Perm _ (past.flatMap Transition.handedOff ++ past.flatMap Transition.rejected ++
          (before.posting ++ fresh)) := moves.append_left _
    _ = before.deliveries past ++ fresh := by simp [deliveries]

/-- The earlier answers are completed, and what a step completes had no outcome before it. -/
theorem HandedOver.step {past : List (Transition Snapshot Callback Output)}
    (known : HandedOver past before) (step : before.step event = some after) :
    HandedOver (past ++ [⟨before, event, after⟩]) after := by
  have rule := rule_of_step step
  rcases known.sound.delivers rule with ⟨fresh, completes, moves⟩
  have perm : (after.deliveries (past ++ [⟨before, event, after⟩])).Perm
      (before.deliveries past ++ fresh) := deliveries_perm moves
  refine ⟨known.sound.of_rule rule, ?_, ?_⟩
  · rw [(perm.map _).nodup_iff, List.map_append]
    apply List.Nodup.append known.once completes.distinct
    intro id old new
    rcases List.mem_map.mp old with ⟨earlier, earlierMem, rfl⟩
    rcases List.mem_map.mp new with ⟨later, laterMem, same⟩
    have ended := (known.completed _ _).mpr ⟨earlier, earlierMem, rfl, rfl⟩
    rw [← same, completes.pending later laterMem] at ended
    cases ended
  · intro id analysis
    rw [completes.completed, known.completed]
    simp only [perm.mem_iff, List.mem_append, or_and_right, exists_or]

theorem handedOver_of_run {config : Config} {sufficient : Reason → Bool}
    (run : (new config sufficient).run events = some final) :
    HandedOver ((new config sufficient).trace events) final :=
  run_induction (handedOver_new config sufficient) (fun _ _ _ _ known step => known.step step) run

theorem delivered_of_run {config : Config} {sufficient : Reason → Bool}
    (run : (new config sufficient).run events = some final) : final.stats.delivered =
      UInt64.ofNat (final.deliveries ((new config sufficient).trace events)).length := by
  have known := handedOver_of_run run
  have counted := (tallied_of_run run).balanced .completed
  rw [credits_of_ne (by decide)] at counted
  have perm : (final.endedAs .completed).Perm
      ((final.deliveries ((new config sufficient).trace events)).map
        fun answered => answered.request.id) := by
    have distinct : (final.endedAs .completed).Nodup := List.nodup_range.filter _
    apply (List.perm_ext_iff_of_nodup distinct known.once).mpr
    intro id
    rw [mem_endedAs, List.mem_map]
    constructor
    · rintro ⟨outcome, ended, kind⟩
      cases outcome with
      | completed analysis =>
        rcases (known.completed id analysis).mp ended with ⟨answered, member, same, _⟩
        exact ⟨answered, member, same⟩
      | _ => cases kind
    · rintro ⟨answered, member, same⟩
      exact ⟨_, (known.completed id _).mpr ⟨answered, member, same, rfl⟩, rfl⟩
  rw [perm.length_eq, List.length_map] at counted
  exact counted

theorem rejectedOf_eq_nil (accepting : .workerPost false ∉ events)
    (run : scheduler.run events = some final) : scheduler.rejectedOf events = [] := by
  apply List.flatMap_eq_nil_iff.mpr
  intro transition member
  have happened : transition.event ∈ events := by
    rw [← map_event_trace run]
    exact List.mem_map_of_mem member
  rcases transition with ⟨before, event, after⟩
  cases event with
  | workerPost accepted =>
    cases accepted with
    | true => rfl
    | false => exact absurd happened accepting
  | _ => rfl

end Runs

/-- The completed requests of a run are those handed off, those whose callback the dispatcher
dropped by raising an exception, and the one that the worker is about to post: each once, with the
analysis it is completed with, and the counter counts them all. As long as the dispatcher accepts
what it is given, to be completed and counted therefore means to be handed off. -/
theorem completed_handed_off {config : Config} {sufficient : Reason → Bool}
    (run : (new config sufficient).run events = some final) :
    (((new config sufficient).handedOffOf events ++ (new config sufficient).rejectedOf events ++
      final.posting).map fun answered => answered.request.id).Nodup ∧
    (∀ id analysis, final.outcome? id = some (.completed analysis) ↔
      ∃ answered ∈ (new config sufficient).handedOffOf events ++
        (new config sufficient).rejectedOf events ++ final.posting,
        answered.request.id = id ∧ answered.analysis = analysis) ∧
    final.stats.delivered = UInt64.ofNat ((new config sufficient).handedOffOf events ++
      (new config sufficient).rejectedOf events ++ final.posting).length ∧
    (.workerPost false ∉ events → final.posting = [] →
      (∀ id analysis, final.outcome? id = some (.completed analysis) ↔
        ∃ answered ∈ (new config sufficient).handedOffOf events,
          answered.request.id = id ∧ answered.analysis = analysis) ∧
      final.stats.delivered =
        UInt64.ofNat ((new config sufficient).handedOffOf events).length) := by
  have known := handedOver_of_run run
  have delivered := delivered_of_run run
  refine ⟨known.once, known.completed, delivered, ?_⟩
  intro accepting posted
  have all : final.deliveries ((new config sufficient).trace events) =
      (new config sufficient).handedOffOf events := by
    change _ ++ (new config sufficient).rejectedOf events ++ final.posting = _
    rw [rejectedOf_eq_nil accepting run, posted, List.append_nil, List.append_nil]
    rfl
  rw [← all]
  exact ⟨known.completed, delivered⟩

/-- A check on the submitting thread and a parse on the worker. The dispatcher answers as given. -/
def checkAndParse (accepted : Bool) : List (Event Unit Unit Unit) :=
  let submission : Submission Unit Unit :=
    { source := ⟨"a"⟩, position := {}, reason := .parseFile, snapshot := () }
  let analysis : Analysis Unit := { version := {}, payload := () }
  [.submit { submission with reason := .fullTypeCheck, synchronous := true } (.ok {}) 0,
    .answerCall 0 (.ok (.ok analysis)), .recordCall 0 (.ok {}) 0, .returnCall 0,
    .submit submission (.ok {}) 0, .enqueue 1 .started, .workerPoll, .workerReceive, .workerBegin,
    .workerAnswer (.ok (.ok analysis)), .workerRecord (.ok {}) 0, .workerDeliver,
    .workerPost accepted]

theorem completed_handed_off_checkAndParse : ∃ final dropped : Scheduler Unit Unit Unit,
    (new .default fun _ => false).run (checkAndParse true) = some final ∧
      final.stats.delivered = 2 ∧
      (∀ id analysis, final.outcome? id = some (.completed analysis) ↔
        ∃ answered ∈ (new .default fun _ => false).handedOffOf (checkAndParse true),
          answered.request.id = id ∧ answered.analysis = analysis) ∧
      (new .default fun _ => false).run (checkAndParse false) = some dropped ∧
      dropped.stats.delivered = 2 ∧
      ((new .default fun _ => false).handedOffOf (checkAndParse false)).length = 1 := by
  have run : (new .default fun _ => false : Scheduler Unit Unit Unit).run (checkAndParse true) =
    some _ := rfl
  have droppedRun : (new .default fun _ => false : Scheduler Unit Unit Unit).run
    (checkAndParse false) = some _ := rfl
  have handedOff := (completed_handed_off run).2.2.2 (by simp [checkAndParse]) rfl
  have counted := (completed_handed_off droppedRun).2.2.1
  exact ⟨_, _, run, handedOff.2, handedOff.1, droppedRun, counted, rfl⟩

/-- A dispatcher that raises an exception leaves a request completed and counted whose callback
nobody has. -/
theorem completed_without_callback : ¬ ∀ (events : List (Event Unit Unit Unit))
    (final : Scheduler Unit Unit Unit), (new .default fun _ => false).run events = some final →
      final.posting = [] →
      (∀ id analysis, final.outcome? id = some (.completed analysis) →
        ∃ answered ∈ (new .default fun _ => false).handedOffOf events,
          answered.request.id = id ∧ answered.analysis = analysis) ∧
      final.stats.delivered =
        UInt64.ofNat ((new .default fun _ => false).handedOffOf events).length := by
  intro holds
  have miscounted := (holds (checkAndParse false) _ rfl rfl).2
  exact absurd miscounted (by decide)

end Scheduler

end EditorAnalysis
