import EditorAnalysis.Proofs.Scheduler.Trace

/-!
# The handles of a run

A submission that is let in hands out one handle, and its request gets the next number. So the
handles of a run carry the numbers of its requests in order, each once. What a handle says of its
path is what the submission is then seen to do; which path that is depends on whether the recent
result is an answer (`Scheduler.Recalls`), and then on the submission and the settings alone.
-/

namespace EditorAnalysis

variable {Snapshot Callback Output : Type}

/-- The submission answers its request itself and leaves nothing to the worker. -/
def CallPhase.isInline : CallPhase Output → Bool
  | .queueing => false
  | _ => true

/-- Where a submission stands once its path is chosen. -/
def Path.phase : Path Output → CallPhase Output
  | .recent analysis => .callingBack analysis
  | .inline => .executing
  | .queued => .queueing

namespace Scheduler

/-- The recent result answers a submission with an analysis. -/
structure Recalls (scheduler : Scheduler Snapshot Callback Output)
    (submission : Submission Snapshot Callback) (analysis : Analysis Output) : Prop where
  /-- The submission does not ask for a fresh result. -/
  lenient : submission.requireFresh = false
  /-- The analyzer takes the recent result as an answer to such submissions. -/
  sufficient : scheduler.sufficient submission.reason = true
  /-- The slot holds the analysis, for the document of the submission. -/
  held : scheduler.cache.slot = some ⟨submission.source, analysis⟩

/-- What letting a submission in does: one more cell, one more call under way, and a handle on them.
-/
structure Opens (before after : Scheduler Snapshot Callback Output) (handle : Handle)
    (call : Call Snapshot Callback Output) : Prop where
  number : handle.id = before.completions.length
  cells : after.completions.length = before.completions.length + 1
  calls : after.calls = before.calls ++ [call]
  own : call.request.id = handle.id
  path : handle.synchronous = call.phase.isInline

variable {scheduler before after : Scheduler Snapshot Callback Output}
  {event : Event Snapshot Callback Output} {submission : Submission Snapshot Callback}

section Choice

variable {analysis : Analysis Output}

theorem remembered_eq_some_iff :
    scheduler.remembered submission = some analysis ↔ scheduler.Recalls submission analysis := by
  constructor
  · intro found
    simp only [remembered, RecencyCache.lookup] at found
    split at found
    · next admits =>
      rcases Option.bind_eq_some_iff.mp found with ⟨⟨source, held⟩, slot, same⟩
      simp only [Option.ite_none_right_eq_some, Option.some.injEq] at same
      rcases same with ⟨rfl, rfl⟩
      simp only [Bool.and_eq_true, Bool.not_eq_true'] at admits
      exact ⟨admits.1, admits.2, slot⟩
    · cases found
  · intro recalls
    simp [remembered, RecencyCache.lookup, recalls.lenient, recalls.sufficient, recalls.held]

theorem remembered_eq_none_iff :
    scheduler.remembered submission = none ↔
      ∀ analysis, ¬ scheduler.Recalls submission analysis := by
  rw [Option.eq_none_iff_forall_ne_some]
  simp only [ne_eq, remembered_eq_some_iff]

theorem phase_path (scheduler : Scheduler Snapshot Callback Output)
    (submission : Submission Snapshot Callback) :
    (scheduler.path submission).phase =
      match scheduler.remembered submission with
      | some analysis => .callingBack analysis
      | none =>
          if submission.synchronous || !scheduler.config.asyncEnabled then .executing
          else .queueing := by
  cases found : scheduler.remembered submission with
  | some analysis => simp [path, found, Path.phase]
  | none =>
    simp only [path, found]
    split <;> rfl

theorem phase_eq_callingBack_iff :
    (scheduler.path submission).phase = .callingBack analysis ↔
      scheduler.Recalls submission analysis := by
  rw [phase_path, ← remembered_eq_some_iff]
  cases scheduler.remembered submission with
  | some other => simp
  | none =>
    by_cases inline : submission.synchronous || !scheduler.config.asyncEnabled <;> simp [inline]

theorem phase_eq_executing_iff :
    (scheduler.path submission).phase = .executing ↔
      (∀ analysis, ¬ scheduler.Recalls submission analysis) ∧
        (submission.synchronous = true ∨ scheduler.config.asyncEnabled = false) := by
  rw [phase_path, ← remembered_eq_none_iff]
  cases submission.synchronous <;> cases scheduler.remembered submission <;> simp

theorem phase_eq_queueing_iff :
    (scheduler.path submission).phase = .queueing ↔
      (∀ analysis, ¬ scheduler.Recalls submission analysis) ∧
        submission.synchronous = false ∧ scheduler.config.asyncEnabled = true := by
  rw [phase_path, ← remembered_eq_none_iff]
  cases scheduler.remembered submission <;> simp

end Choice

section Opening

variable {idleTriggered : Bool} {version : Version} {now : Instant}

/-- The handle of a submission that is let in. -/
theorem fst_openCall (open_ : scheduler.lifecycle ≠ .stopped) :
    (scheduler.openCall submission idleTriggered (.ok version) now).1 =
      .opened ⟨scheduler.completions.length, submission.reason, version,
        (scheduler.path submission).phase.isInline⟩ := by
  cases path : scheduler.path submission <;>
    simp [openCall, isShutDown, open_, path, Path.phase, CallPhase.isInline]

theorem calls_openCall (open_ : scheduler.lifecycle ≠ .stopped) :
    (scheduler.openCall submission idleTriggered (.ok version) now).2.calls = scheduler.calls ++
      [⟨scheduler.built submission idleTriggered version now,
        (scheduler.path submission).phase⟩] := by
  cases path : scheduler.path submission <;>
    simp [openCall, isShutDown, open_, path, Path.phase, addCall, conclude_eq, built]

theorem length_openCall (open_ : scheduler.lifecycle ≠ .stopped) :
    (scheduler.openCall submission idleTriggered (.ok version) now).2.completions.length =
      scheduler.completions.length + 1 := by
  cases path : scheduler.path submission <;>
    simp [openCall, isShutDown, open_, path, addCall, conclude_eq]

theorem opens_openCall (open_ : scheduler.lifecycle ≠ .stopped) :
    scheduler.Opens (scheduler.openCall submission idleTriggered (.ok version) now).2
      ⟨scheduler.completions.length, submission.reason, version,
        (scheduler.path submission).phase.isInline⟩
      ⟨scheduler.built submission idleTriggered version now,
        (scheduler.path submission).phase⟩ :=
  ⟨rfl, length_openCall open_, calls_openCall open_, rfl, rfl⟩

end Opening

theorem opens_of_openCall {opening : Opening} (submission : Submission Snapshot Callback)
    (idleTriggered : Bool) (reading : Attempt Version) (now : Instant)
    (opened : scheduler.openCall submission idleTriggered reading now = (opening, after)) :
    opening.handle? = none ∧ after.completions.length = scheduler.completions.length ∨
      ∃ handle call, opening.handle? = some handle ∧ scheduler.Opens after handle call := by
  by_cases down : scheduler.lifecycle = .stopped
  · left
    simp only [openCall, isShutDown, down, beq_self_eq_true, if_true, Prod.mk.injEq] at opened
    rcases opened with ⟨rfl, rfl⟩
    exact ⟨rfl, rfl⟩
  · cases reading with
    | error payload =>
      left
      simp only [openCall, isShutDown, beq_iff_eq, down, if_false, Prod.mk.injEq] at opened
      rcases opened with ⟨rfl, rfl⟩
      exact ⟨rfl, rfl⟩
    | ok version =>
      right
      rcases Prod.ext_iff.mp opened with ⟨rfl, rfl⟩
      refine ⟨_, _, ?_, opens_openCall down⟩
      rw [fst_openCall down]
      rfl

/-- A step hands out a handle exactly if it constructs a request. -/
theorem handles_of_step (step : before.step event = some after) :
    (Transition.mk before event after).handles = [] ∧
        after.completions.length = before.completions.length ∨
      ∃ handle call, (Transition.mk before event after).handles = [handle] ∧
        before.Opens after handle call := by
  have unopened (noHandles : (Transition.mk before event after).handles = [])
      (silent : ∀ submission idleTriggered reading now,
        ¬ before.Submits event submission idleTriggered reading now) :
      (Transition.mk before event after).handles = [] ∧
        after.completions.length = before.completions.length := by
    rcases length_of_rule (rule_of_step step) with same | ⟨_, _, _, _, _, _, submits⟩
    · exact ⟨noHandles, same⟩
    · exact absurd submits (silent _ _ _ _)
  cases event with
  | submit submission reading now =>
    cases opened : before.openCall submission false reading now with
    | mk opening next =>
      simp only [Scheduler.step, opened, Option.some.injEq] at step
      subst step
      rcases opens_of_openCall _ _ _ _ opened with ⟨none, same⟩ | ⟨handle, call, some, opens⟩
      · exact .inl ⟨by simp [Transition.handles, opened, none], same⟩
      · exact .inr ⟨handle, call, by simp [Transition.handles, opened, some], opens⟩
  | idle trigger reading now =>
    by_cases decided : before.idleDecision trigger.needsRefresh trigger.quiet = .submit
    · cases opened : before.openCall trigger.submission true reading now with
      | mk opening next =>
        simp only [Scheduler.step, onIdle, decided, opened, Option.some.injEq] at step
        subst step
        rcases opens_of_openCall _ _ _ _ opened with ⟨none, same⟩ | ⟨handle, call, some, opens⟩
        · exact .inl ⟨by simp [Transition.handles, onIdle, decided, opened, none], same⟩
        · exact .inr ⟨handle, call, by simp [Transition.handles, onIdle, decided, opened, some],
            opens⟩
    · left
      apply unopened
      · cases decision : before.idleDecision trigger.needsRefresh trigger.quiet <;>
          simp_all [Transition.handles, onIdle]
      · intro submission idleTriggered reading now submits
        cases submits with
        | idle _ _ submit => exact decided submit
  | _ => exact .inl (unopened rfl fun _ _ _ _ submits => by cases submits)

/-- The handles of a run carry the numbers of its requests in order. -/
theorem map_id_handlesOf {config : Config} {sufficient : Reason → Bool}
    {events : List (Event Snapshot Callback Output)} {final : Scheduler Snapshot Callback Output}
    (run : (new config sufficient).run events = some final) :
    ((new config sufficient).handlesOf events).map Handle.id =
      List.range final.completions.length := by
  apply run_induction (motive := fun past state =>
    (past.flatMap Transition.handles).map Handle.id = List.range state.completions.length)
    rfl ?_ run
  intro past before event after ids step
  rw [List.flatMap_append, List.map_append, ids]
  rcases handles_of_step step with ⟨none, same⟩ | ⟨handle, call, some, opens⟩
  · simp [none, same]
  · rw [opens.cells, List.range_succ]
    simp [some, opens.number]

end Scheduler

end EditorAnalysis
