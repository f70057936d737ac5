import EditorAnalysis.Proofs.Scheduler.Advance
import EditorAnalysis.Proofs.Scheduler.Handles

/-!
# Callbacks run at most once, and only with the outcome on record

A callback begins in one of two ways: a submission goes on to call it, or the UI thread takes its
job. Either way its request gets past a point of the graph of stages that it never comes back to
(`Stage.Spent`), which is why no callback runs twice, and there the outcome is the analysis that the
callback sees. The two ways belong to two parts of the graph, `Stage.Inline` and `Stage.Queued`, of
which a request never changes from one to the other.
-/

namespace EditorAnalysis

variable {Snapshot Callback Output : Type}

namespace Stage

/-- The callback of the request has begun, or it never will. -/
def Spent : Stage Output → Prop
  | .called (.callingBack _) => True
  | .ended _ _ => True
  | _ => False

/-- A stage of a request that its submission answers itself. -/
def Inline : Stage Output → Prop
  | .called phase => phase.isInline = true
  | .ended _ _ => True
  | _ => False

/-- A stage of a request that goes through the queue. -/
def Queued : Stage Output → Prop
  | .unborn => False
  | .called phase => phase.isInline = false
  | _ => True

variable {stage later : Stage Output}

theorem Advance.spent (advance : Advance stage later) (spent : stage.Spent) : later.Spent := by
  cases advance <;> first | exact spent | exact trivial

theorem Advance.inline (advance : Advance stage later) (inline : stage.Inline) : later.Inline := by
  cases advance <;> first | exact inline | exact trivial | exact inline.elim | cases inline

theorem Advance.queued (advance : Advance stage later) (queued : stage.Queued) : later.Queued := by
  cases advance <;> first | exact queued | exact trivial | exact queued.elim

/-- A callback on a submitting thread begins when its request has just got there. -/
theorem Advance.not_spent_of_callingBack {analysis : Analysis Output}
    (advance : Advance stage (.called (.callingBack analysis))) : ¬ stage.Spent := by
  intro spent
  cases advance <;> exact spent

end Stage

namespace Scheduler

variable {scheduler before after : Scheduler Snapshot Callback Output}
  {event : Event Snapshot Callback Output}

theorem callPhase_of_mem_callingBack {answered : Answered Snapshot Callback Output}
    (calling : answered ∈ scheduler.callingBack) :
    ⟨answered.request, .callingBack answered.analysis⟩ ∈ scheduler.calls := by
  rcases List.mem_filterMap.mp calling with ⟨⟨request, phase⟩, called, shape⟩
  cases phase with
  | callingBack analysis =>
    cases shape
    exact called
  | _ => cases shape

theorem callingBack_subset
    (calls : ∀ request analysis, ⟨request, .callingBack analysis⟩ ∈ after.calls →
      ⟨request, .callingBack analysis⟩ ∈ before.calls) :
    after.callingBack ⊆ before.callingBack := by
  intro answered calling
  exact List.mem_filterMap.mpr ⟨_, calls _ _ (callPhase_of_mem_callingBack calling), rfl⟩

/-- No two submissions under way are about one request. -/
theorem Sound.nodup_calls (sound : scheduler.Sound) :
    (scheduler.calls.map fun call => call.request.id).Nodup := by
  rw [List.nodup_iff_count]
  intro id
  have counted : (scheduler.calls.map fun call => call.request.id).count id =
      (scheduler.view id).calls.length := by
    rw [List.count_eq_countP, List.countP_map, List.countP_eq_length_filter, view, callPhases,
      List.length_map]
    rfl
  rw [counted]
  rcases sound.staged id with ⟨stage, stands⟩
  rw [stands]
  cases stage <;> simp [Stage.view]

/-- A submission under way is found under the number of its request. -/
theorem Sound.call?_of_mem {call : Call Snapshot Callback Output} (sound : scheduler.Sound)
    (called : call ∈ scheduler.calls) : scheduler.call? call.request.id = some call := by
  rcases sound.staged call.request.id with ⟨stage, stands⟩
  have phases := mem_callPhases called
  rw [stands] at phases
  cases Stage.eq_called phases
  have alone := congrArg View.calls stands
  simp only [view, callPhases, Stage.view] at alone
  rcases List.map_eq_singleton_iff.mp alone with ⟨only, filtered, _⟩
  have member : call ∈ scheduler.calls.filter fun other => other.request.id == call.request.id :=
    List.mem_filter.mpr ⟨called, by simp⟩
  rw [filtered] at member
  rw [call?, ← List.head?_filter, filtered, List.mem_singleton.mp member]
  rfl

theorem Sound.outcome?_of_callingBack {answered : Answered Snapshot Callback Output}
    (sound : scheduler.Sound) (calling : answered ∈ scheduler.callingBack) :
    scheduler.outcome? answered.request.id = some (.completed answered.analysis) := by
  rcases sound.staged answered.request.id with ⟨stage, stands⟩
  have called := mem_callPhases (callPhase_of_mem_callingBack calling)
  change _ ∈ (scheduler.view answered.request.id).calls at called
  rw [stands] at called
  cases Stage.eq_called called
  exact congrArg View.outcome stands

/-- The beginning of a callback, with what a scheduler then has of its request. -/
inductive Begins (before : Scheduler Snapshot Callback Output)
    (event : Event Snapshot Callback Output) (after : Scheduler Snapshot Callback Output) :
    CallbackRun Snapshot Callback Output → Prop where
  | submission {answered : Answered Snapshot Callback Output}
      (calling : answered ∈ after.callingBack)
      (fresh : answered.request.id ∉ before.callingBack.map fun old => old.request.id) :
      Begins before event after ⟨.submission, answered, after⟩
  | pump {answered : Answered Snapshot Callback Output}
      {rest : List (Answered Snapshot Callback Output)} (pumps : event = .pump)
      (jobs : before.ui.jobs = answered :: rest) :
      Begins before event after ⟨.pump, answered, after⟩

theorem begins_of_mem_callbacks {run : CallbackRun Snapshot Callback Output}
    (begun : run ∈ (Transition.mk before event after).callbacks) :
    Begins before event after run := by
  simp only [Transition.callbacks, List.mem_filter, List.mem_append, List.mem_map] at begun
  rcases begun with ⟨⟨answered, inline, rfl⟩ | ⟨answered, pumped, rfl⟩, _⟩
  · rw [Transition.mem_newIn] at inline
    exact .submission inline.1 inline.2
  · cases event with
    | pump =>
      cases jobs : before.ui.jobs with
      | nil => simp [Transition.pumped, jobs] at pumped
      | cons job rest =>
        simp only [Transition.pumped, jobs, List.take_succ_cons, List.take_zero,
          List.mem_singleton] at pumped
        exact .pump rfl (by rw [jobs, pumped])
    | _ => cases pumped

theorem mem_callingBack_of_view {id : RequestId} {analysis : Analysis Output}
    (calling : .callingBack analysis ∈ (scheduler.view id).calls) :
    id ∈ scheduler.callingBack.map fun answered => answered.request.id := by
  rcases List.mem_map.mp calling with ⟨⟨request, phase⟩, member, rfl⟩
  rcases List.mem_filter.mp member with ⟨called, own⟩
  have inside : ⟨request, analysis⟩ ∈ scheduler.callingBack :=
    List.mem_filterMap.mpr ⟨_, called, rfl⟩
  have same : request.id = id := by simpa using own
  rw [← same]
  exact List.mem_map_of_mem inside

/-- A callback is the point where its request becomes spent. -/
theorem Sound.spends {run : CallbackRun Snapshot Callback Output} (sound : before.Sound)
    (step : before.step event = some after) (begins : Begins before event after run) :
    ∃ stage later : Stage Output, before.view run.id = stage.view ∧
      after.view run.id = later.view ∧ ¬ stage.Spent ∧ later.Spent ∧
      later.outcome? = some (.completed run.answered.analysis) ∧
      (run.venue = .submission → ¬ later.Queued) ∧
      (run.venue = .pump → stage.Queued ∧ ¬ stage.Inline) := by
  rcases sound.moves step with ⟨stage, later, stands, laterStands, moves⟩
  refine ⟨stage, later, stands, laterStands, ?_⟩
  cases begins with
  | @submission answered calling fresh =>
    have called := mem_callPhases (callPhase_of_mem_callingBack calling)
    change _ ∈ (after.view answered.request.id).calls at called
    change after.view answered.request.id = _ at laterStands
    rw [laterStands] at called
    cases Stage.eq_called called
    rcases moves with rfl | advance
    · exfalso
      apply fresh
      apply mem_callingBack_of_view
      change before.view answered.request.id = _ at stands
      rw [stands]
      exact called
    · refine ⟨advance.not_spent_of_callingBack, trivial, rfl, ?_, ?_⟩
      · intro _ queued
        cases queued
      · intro pumped
        cases pumped
  | @pump answered rest pumps jobs =>
    subst pumps
    simp only [Scheduler.step, UiQueue.take?, jobs, Option.map_some, Option.some.injEq] at step
    have postedBefore := congrArg View.posted stands
    have postedAfter := congrArg View.posted laterStands
    change postedFor answered.request.id before.ui.jobs = _ at postedBefore
    change postedFor answered.request.id after.ui.jobs = _ at postedAfter
    rw [jobs, postedFor_cons, if_pos rfl] at postedBefore
    rw [← step] at postedAfter
    rw [postedAfter] at postedBefore
    rcases Stage.eq_posted (by rw [← postedBefore]; exact List.mem_cons_self) with ⟨marked, rfl⟩
    have gone : later.view.posted = [] := by simpa [Stage.view] using postedBefore
    rcases moves with rfl | advance
    · cases gone
    · cases advance with
      | pump =>
        refine ⟨id, trivial, rfl, ?_, fun _ => ⟨trivial, id⟩⟩
        intro inside
        cases inside
      | unmarkPosted => cases gone

theorem map_id_callingBack_sublist (scheduler : Scheduler Snapshot Callback Output) :
    (scheduler.callingBack.map fun answered => answered.request.id).Sublist
      (scheduler.calls.map fun call => call.request.id) := by
  unfold callingBack
  induction scheduler.calls with
  | nil => exact List.Sublist.refl _
  | cons call calls ih =>
    rcases call with ⟨request, phase⟩
    cases phase with
    | callingBack analysis => exact ih.cons_cons request.id
    | _ => exact ih.cons request.id

/-- No two callbacks of one step are about one request. -/
theorem Sound.nodup_callbacks (sound : after.Sound) (step : before.step event = some after) :
    ((Transition.mk before event after).callbacks.map CallbackRun.id).Nodup := by
  have inline : (((Transition.mk before event after).newIn callingBack
      fun answered => answered.request.id).map fun answered => answered.request.id).Nodup :=
    List.Nodup.sublist ((List.filter_sublist.map _).trans (map_id_callingBack_sublist after))
      sound.nodup_calls
  cases event with
  | pump =>
    have none : (Transition.mk before (.pump) after).newIn callingBack
        (fun answered => answered.request.id) = [] := by
      cases jobs : before.ui.jobs with
      | nil => simp [Scheduler.step, UiQueue.take?, jobs] at step
      | cons answered rest =>
        simp only [Scheduler.step, UiQueue.take?, jobs, Option.map_some, Option.some.injEq] at step
        subst step
        exact Transition.newIn_of_subset (List.Subset.refl _)
    have few : (Transition.mk before (.pump) after).callbacks.length ≤ 1 := by
      simp only [Transition.callbacks, none, List.map_nil, List.nil_append]
      apply Nat.le_trans (List.length_filter_le _ _)
      simp only [Transition.pumped, List.length_map, List.length_take]
      exact Nat.min_le_left _ _
    cases callbacks : (Transition.mk before (.pump) after).callbacks with
    | nil => exact List.nodup_nil
    | cons run others =>
      rw [callbacks] at few
      cases others with
      | nil => simp
      | cons => simp at few
  | _ =>
    simp only [Transition.callbacks, Transition.pumped, List.map_nil, List.append_nil]
    refine List.Nodup.sublist (List.filter_sublist.map _) ?_
    rw [List.map_map]
    exact inline

/-- A request is constructed and answered at once only by a submission for which the recent result
will do. -/
theorem Sound.submits_of_hit {answered : Answered Snapshot Callback Output} (sound : before.Sound)
    (rule : before.Rule event after) (hit : answered ∈ (Transition.mk before event after).hits) :
    ∃ submission idleTriggered version now,
      before.Submits event submission idleTriggered (.ok version) now ∧
      before.lifecycle ≠ .stopped ∧ before.path submission = .recent answered.analysis ∧
      answered.request = before.built submission idleTriggered version now := by
  rcases List.mem_filter.mp hit with ⟨begun, new⟩
  have unborn : before.completions.length ≤ answered.request.id := of_decide_eq_true new
  have called := callPhase_of_mem_callingBack (((Transition.mem_newIn _).mp begun).1 :
    answered ∈ after.callingBack)
  have afterSound := sound.of_rule rule
  have born := afterSound.staged.born_of_call? (afterSound.call?_of_mem called)
  have grew : after.completions.length ≠ before.completions.length := by
    intro same
    rw [same] at born
    exact absurd born (Nat.not_lt.mpr unborn)
  have own : ∀ call : Call Snapshot Callback Output, call ∈ before.calls →
      call.request.id < before.completions.length :=
    fun _ old => sound.staged.born_of_call? (sound.call?_of_mem old)
  cases rule with
  | openedRecent submits open_ path =>
    rcases List.mem_append.mp called with old | last
    · exact absurd (own _ old) (Nat.not_lt.mpr unborn)
    · cases answered
      cases List.mem_singleton.mp last
      exact ⟨_, _, _, _, submits, open_, path, rfl⟩
  | openedInline | openedQueued =>
    rcases List.mem_append.mp called with old | last
    · exact absurd (own _ old) (Nat.not_lt.mpr unborn)
    · nomatch congrArg Call.phase (List.mem_singleton.mp last)
  | turnedAway | enqueued | failedCall | cancelledCall | faultedCall | deliveredCall | skipped
  | failed | gaveUp | recordFaulted | superseded | completed | stopping | gaveUpRequest =>
    exact absurd (Completion.length_endAll _ _ _) grew
  | _ => exact absurd rfl grew

theorem calls_of_worker (rule : before.Rule event after) (works : event.isWorker = true) :
    after.calls = before.calls := by
  cases rule with
  | refused submits | faulted submits | openedRecent submits | openedInline submits
  | openedQueued submits => simp [submits.isWorker_eq_false] at works
  | turnedAway | enqueued | answeredCall | failedCall | cancelledCall | faultedCall | lostCall
  | deliveredCall | returnedCall => cases works
  | _ => rfl

/-- The worker runs no callbacks. -/
theorem callbacks_of_worker (rule : before.Rule event after) (works : event.isWorker = true) :
    (Transition.mk before event after).callbacks = [] := by
  have inline : (Transition.mk before event after).newIn callingBack
      (fun answered => answered.request.id) = [] := by
    apply Transition.newIn_of_subset
    rw [callingBack, calls_of_worker rule works, ← callingBack]
    exact List.Subset.refl _
  have outside : (Transition.mk before event after).pumped = [] := by
    cases event <;> first | rfl | cases works
  simp [Transition.callbacks, inline, outside]

/-- What is known of the callbacks and the handles of a run so far. -/
structure CalledBack (past : List (Transition Snapshot Callback Output))
    (scheduler : Scheduler Snapshot Callback Output) : Prop where
  sound : scheduler.Sound
  once : ((past.flatMap Transition.callbacks).map CallbackRun.id).Nodup
  spent : ∀ run ∈ past.flatMap Transition.callbacks, ∃ stage : Stage Output,
    scheduler.view run.id = stage.view ∧ stage.Spent ∧
      stage.outcome? = some (.completed run.answered.analysis)
  found : ∀ run ∈ past.flatMap Transition.callbacks,
    run.found.outcome? run.id = some (.completed run.answered.analysis) ∧
    (run.venue = .submission → run.found.call? run.id =
      some ⟨run.answered.request, .callingBack run.answered.analysis⟩)
  paths : ∀ handle ∈ past.flatMap Transition.handles, ∃ stage : Stage Output,
    scheduler.view handle.id = stage.view ∧
      if handle.synchronous then stage.Inline else stage.Queued
  venues : ∀ handle ∈ past.flatMap Transition.handles,
    ∀ run ∈ past.flatMap Transition.callbacks, handle.id = run.id →
      (handle.synchronous = true ↔ run.venue = .submission)

theorem calledBack_new (config : Config) (sufficient : Reason → Bool) :
    CalledBack [] (new config sufficient : Scheduler Snapshot Callback Output) where
  sound := sound_new config sufficient
  once := List.nodup_nil
  spent run member := by cases member
  found run member := by cases member
  paths handle member := by cases member
  venues handle member := by cases member

theorem CalledBack.spent_step {past : List (Transition Snapshot Callback Output)}
    (known : CalledBack past before) (step : before.step event = some after) :
    ∀ run ∈ (past ++ [Transition.mk before event after]).flatMap Transition.callbacks,
      ∃ stage : Stage Output, after.view run.id = stage.view ∧ stage.Spent ∧
        stage.outcome? = some (.completed run.answered.analysis) := by
  intro run member
  rw [List.flatMap_append, List.flatMap_singleton] at member
  rcases List.mem_append.mp member with old | new
  · have keeps {stage later : Stage Output} (advance : stage.Advance later)
        (holds : stage.Spent ∧ stage.outcome? = some (.completed run.answered.analysis)) :
        later.Spent ∧ later.outcome? = some (.completed run.answered.analysis) :=
      ⟨advance.spent holds.1, advance.outcome?_eq holds.2⟩
    rcases known.spent run old with ⟨stage, stands, holds⟩
    exact known.sound.stage_of_rule (rule_of_step step) keeps stands holds
  · rcases known.sound.spends step (begins_of_mem_callbacks new)
      with ⟨_, later, _, laterStands, _, spent, completed, _⟩
    exact ⟨later, laterStands, spent, completed⟩

theorem CalledBack.once_step {past : List (Transition Snapshot Callback Output)}
    (known : CalledBack past before) (step : before.step event = some after) :
    (((past ++ [Transition.mk before event after]).flatMap Transition.callbacks).map
      CallbackRun.id).Nodup := by
  have sound := known.sound.of_rule (rule_of_step step)
  rw [List.flatMap_append, List.flatMap_singleton, List.map_append, List.nodup_append]
  refine ⟨known.once, sound.nodup_callbacks step, ?_⟩
  intro old oldMem new newMem same
  rcases List.mem_map.mp oldMem with ⟨oldRun, oldRunMem, rfl⟩
  rcases List.mem_map.mp newMem with ⟨newRun, newRunMem, rfl⟩
  rcases known.spent oldRun oldRunMem with ⟨stage, stands, spent, _⟩
  rcases known.sound.spends step (begins_of_mem_callbacks newRunMem)
    with ⟨other, _, otherStands, _, unspent, _⟩
  rw [same, otherStands] at stands
  rw [Stage.view_injective stands] at unspent
  exact unspent spent

theorem CalledBack.found_step {past : List (Transition Snapshot Callback Output)}
    (known : CalledBack past before) (step : before.step event = some after) :
    ∀ run ∈ (past ++ [Transition.mk before event after]).flatMap Transition.callbacks,
      run.found.outcome? run.id = some (.completed run.answered.analysis) ∧
      (run.venue = .submission → run.found.call? run.id =
        some ⟨run.answered.request, .callingBack run.answered.analysis⟩) := by
  have sound := known.sound.of_rule (rule_of_step step)
  intro run member
  rw [List.flatMap_append, List.flatMap_singleton] at member
  rcases List.mem_append.mp member with old | new
  · exact known.found run old
  · have begins := begins_of_mem_callbacks new
    rcases known.sound.spends step begins with ⟨_, later, _, laterStands, _, _, completed, _⟩
    have recorded := congrArg View.outcome laterStands
    rw [Stage.outcome_view, completed] at recorded
    cases begins with
    | submission calling fresh =>
      exact ⟨recorded, fun _ => sound.call?_of_mem (callPhase_of_mem_callingBack calling)⟩
    | pump pumps jobs => exact ⟨recorded, fun inside => by cases inside⟩

theorem CalledBack.paths_step {past : List (Transition Snapshot Callback Output)}
    (known : CalledBack past before) (step : before.step event = some after) :
    ∀ handle ∈ (past ++ [Transition.mk before event after]).flatMap Transition.handles,
      ∃ stage : Stage Output, after.view handle.id = stage.view ∧
        if handle.synchronous then stage.Inline else stage.Queued := by
  intro handle member
  rw [List.flatMap_append, List.flatMap_singleton] at member
  rcases List.mem_append.mp member with old | new
  · have keeps {stage later : Stage Output} (advance : stage.Advance later)
        (path : if handle.synchronous then stage.Inline else stage.Queued) :
        if handle.synchronous then later.Inline else later.Queued := by
      by_cases synchronous : handle.synchronous = true
      · rw [if_pos synchronous] at path ⊢
        exact advance.inline path
      · rw [if_neg synchronous] at path ⊢
        exact advance.queued path
    rcases known.paths handle old with ⟨stage, stands, path⟩
    exact known.sound.stage_of_rule (rule_of_step step) keeps stands path
  · rcases handles_of_step step with ⟨none, _⟩ | ⟨only, call, handles, opens⟩
    · rw [none] at new
      cases new
    · rw [handles, List.mem_singleton] at new
      subst new
      have called : call ∈ after.calls := by simp [opens.calls]
      have sound := known.sound.of_rule (rule_of_step step)
      rcases sound.staged handle.id with ⟨stage, stands⟩
      have phases := mem_callPhases called
      rw [opens.own, stands] at phases
      cases Stage.eq_called phases
      refine ⟨_, stands, ?_⟩
      rw [opens.path]
      cases inline : call.phase.isInline <;> simp [Stage.Inline, Stage.Queued, inline]

theorem CalledBack.venues_step {past : List (Transition Snapshot Callback Output)}
    (known : CalledBack past before) (step : before.step event = some after) :
    ∀ handle ∈ (past ++ [Transition.mk before event after]).flatMap Transition.handles,
      ∀ run ∈ (past ++ [Transition.mk before event after]).flatMap Transition.callbacks,
        handle.id = run.id → (handle.synchronous = true ↔ run.venue = .submission) := by
  intro handle handleMem run runMem same
  rcases known.paths_step step handle handleMem with ⟨later, laterStands, path⟩
  rw [List.flatMap_append, List.flatMap_singleton] at handleMem runMem
  have unbornOfNew (new : handle ∈ (Transition.mk before event after).handles) :
      before.view handle.id = (Stage.unborn : Stage Output).view := by
    rcases handles_of_step step with ⟨none, _⟩ | ⟨only, call, handles, opens⟩
    · rw [none] at new
      cases new
    · rw [handles, List.mem_singleton] at new
      subst new
      rcases known.sound.staged handle.id with ⟨stage, stands⟩
      have unborn : stage.view.born = false := by
        rw [← stands]
        simp [view, opens.number]
      rw [stands, Stage.eq_unborn unborn]
  rcases List.mem_append.mp runMem with oldRun | newRun
  · rcases List.mem_append.mp handleMem with oldHandle | newHandle
    · exact known.venues handle oldHandle run oldRun same
    · rcases known.spent run oldRun with ⟨stage, stands, spent, _⟩
      rw [← same, unbornOfNew newHandle] at stands
      cases Stage.view_injective stands
      exact spent.elim
  · rcases known.sound.spends step (begins_of_mem_callbacks newRun)
      with ⟨stage, other, stands, otherStands, _, _, _, submission, pump⟩
    rw [← same] at stands otherStands
    cases Stage.view_injective (laterStands.symm.trans otherStands)
    cases venue : run.venue with
    | submission =>
      refine ⟨fun _ => rfl, fun _ => ?_⟩
      apply Decidable.byContradiction
      intro queued
      rw [if_neg queued] at path
      exact submission venue path
    | pump =>
      refine ⟨fun synchronous => ?_, fun inside => by cases inside⟩
      exfalso
      rcases List.mem_append.mp handleMem with oldHandle | newHandle
      · rcases known.paths handle oldHandle with ⟨_, pathStands, path⟩
        cases Stage.view_injective (pathStands.symm.trans stands)
        rw [if_pos synchronous] at path
        exact (pump venue).2 path
      · have unborn := unbornOfNew newHandle
        cases Stage.view_injective (unborn.symm.trans stands)
        exact (pump venue).1

theorem CalledBack.step {past : List (Transition Snapshot Callback Output)}
    (known : CalledBack past before) (step : before.step event = some after) :
    CalledBack (past ++ [⟨before, event, after⟩]) after where
  sound := known.sound.of_rule (rule_of_step step)
  once := known.once_step step
  spent := known.spent_step step
  found := known.found_step step
  paths := known.paths_step step
  venues := known.venues_step step

theorem calledBack_of_run {config : Config} {sufficient : Reason → Bool}
    {events : List (Event Snapshot Callback Output)} {final : Scheduler Snapshot Callback Output}
    (run : (new config sufficient).run events = some final) :
    CalledBack ((new config sufficient).trace events) final :=
  run_induction (calledBack_new config sufficient) (fun _ _ _ _ known step => known.step step) run

/-- Every callback belongs to a handle. -/
theorem exists_handle {config : Config} {sufficient : Reason → Bool}
    {events : List (Event Snapshot Callback Output)} {final : Scheduler Snapshot Callback Output}
    (run : (new config sufficient).run events = some final) {id : RequestId}
    (born : id < final.completions.length) :
    ∃ handle ∈ (new config sufficient).handlesOf events, handle.id = id := by
  have number : id ∈ ((new config sufficient).handlesOf events).map Handle.id := by
    rw [map_id_handlesOf run]
    exact List.mem_range.mpr born
  exact List.mem_map.mp number

/-- Soundness of callbacks, over every run. Each callback belongs to a handle, which says whether it
runs inside the submission, still under way, or as a job of the UI thread. -/
theorem callbacks_sound {config : Config} {sufficient : Reason → Bool}
    {events : List (Event Snapshot Callback Output)} {final : Scheduler Snapshot Callback Output}
    (run : (new config sufficient).run events = some final) :
    (((new config sufficient).callbacksOf events).map CallbackRun.id).Nodup ∧
    (∀ callback ∈ (new config sufficient).callbacksOf events,
      callback.found.outcome? callback.id = some (.completed callback.answered.analysis) ∧
      final.outcome? callback.id = some (.completed callback.answered.analysis)) ∧
    (∀ id outcome, final.outcome? id = some outcome → outcome.analysis? = none →
      ∀ callback ∈ (new config sufficient).callbacksOf events, callback.id ≠ id) ∧
    (∀ callback ∈ (new config sufficient).callbacksOf events,
      ∃ handle ∈ (new config sufficient).handlesOf events, handle.id = callback.id ∧
        if handle.synchronous then callback.venue = .submission ∧
          callback.found.call? callback.id =
            some ⟨callback.answered.request, .callingBack callback.answered.analysis⟩
        else callback.venue = .pump) ∧
    (∀ transition ∈ (new config sufficient).trace events, ∀ callback ∈ transition.callbacks,
      callback.venue = .pump → transition.event = .pump ∧
        ∃ rest, transition.before.ui.jobs = callback.answered :: rest) := by
  have known := calledBack_of_run run
  have completed : ∀ callback ∈ (new config sufficient).callbacksOf events,
      final.outcome? callback.id = some (.completed callback.answered.analysis) := by
    intro callback member
    rcases known.spent callback member with ⟨stage, stands, _, settled⟩
    have recorded := congrArg View.outcome stands
    rw [Stage.outcome_view, settled] at recorded
    exact recorded
  refine ⟨known.once, ?_, ?_, ?_, ?_⟩
  · intro callback member
    exact ⟨(known.found callback member).1, completed callback member⟩
  · intro id outcome settled unanswered callback member same
    rw [← same, completed callback member] at settled
    cases settled
    cases unanswered
  · intro callback member
    have born := lt_length_of_outcome? (completed callback member)
    rcases exists_handle run born with ⟨handle, handed, same⟩
    refine ⟨handle, handed, same, ?_⟩
    have venue := known.venues handle handed callback member same
    by_cases synchronous : handle.synchronous = true
    · rw [if_pos synchronous]
      have inside := venue.mp synchronous
      exact ⟨inside, (known.found callback member).2 inside⟩
    · rw [if_neg synchronous]
      cases place : callback.venue with
      | submission => exact absurd (venue.mpr place) synchronous
      | pump => rfl
  · intro transition _ callback member pump
    rcases transition with ⟨before, event, after⟩
    cases begins_of_mem_callbacks member with
    | submission => cases pump
    | pump pumps jobs => exact ⟨pumps, _, jobs⟩

/-- Two completions, one queued and one synchronous, each with a callback. -/
def twoCompletions : List (Event Unit Unit Unit) :=
  let submission : Submission Unit Unit :=
    { source := ⟨"a"⟩, position := {}, reason := .completeWord, snapshot := (), callback := some () }
  [.submit submission (.ok {}) 0, .enqueue 0 .started, .workerPoll, .workerReceive, .workerBegin,
    .workerAnswer (.ok (.ok ⟨some (), {}, false⟩)), .workerRecord (.ok {}) 0, .workerDeliver,
    .workerPost true, .workerClear, .submit { submission with synchronous := true } (.ok {}) 0,
    .answerCall 1 (.ok (.ok ⟨none, {}, true⟩)), .recordCall 1 (.ok {}) 0, .returnCall 1, .pump]

theorem callbacks_sound_twoCompletions : ∃ final : Scheduler Unit Unit Unit,
    (new .default fun _ => false).run twoCompletions = some final ∧
      ((new .default fun _ => false).callbacksOf twoCompletions).map
        (fun callback => (callback.id, callback.venue)) = [(1, .submission), (0, .pump)] ∧
      ∀ callback ∈ (new .default fun _ => false).callbacksOf twoCompletions,
        callback.found.outcome? callback.id = some (.completed callback.answered.analysis) ∧
        final.outcome? callback.id = some (.completed callback.answered.analysis) :=
  ⟨_, rfl, rfl, (callbacks_sound rfl).2.1⟩

end Scheduler

end EditorAnalysis
