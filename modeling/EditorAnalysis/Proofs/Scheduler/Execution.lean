import EditorAnalysis.Proofs.Scheduler.Analyses
import EditorAnalysis.Proofs.Scheduler.RecentResult
import EditorAnalysis.Proofs.Scheduler.Tally

/-!
# The discipline of analyzer calls

Analyzer calls begin at two places, in a submission and on the worker. A step begins at most one of
them and counts it (`Scheduler.Sound.counts_analyses`). A request enters the analyzer from a stage
to which nothing comes back, without an analysis and without an outcome, and only out of the
analyzer does it get an analysis of its own. So nothing is analyzed twice, and a request with a
result was analyzed unless the recent result answered it (`Scheduler.execution_disciplined`).
-/

namespace EditorAnalysis

variable {Snapshot Callback Output : Type}

/-- The analysis that a submission under way has for its request. -/
def CallPhase.analysis? : CallPhase Output → Option (Analysis Output)
  | .recording analysis | .callingBack analysis => some analysis
  | _ => none

def WorkPhase.analysis? : WorkPhase Output → Option (Analysis Output)
  | .executing => none
  | .recording analysis | .delivering analysis | .posting analysis => some analysis

/-- The analyses that a scheduler has of one request, wherever they are. -/
def View.carried (view : View Output) : List (Analysis Output) :=
  view.calls.filterMap CallPhase.analysis? ++ view.worker.toList.filterMap WorkPhase.analysis? ++
    view.posted ++ view.outcome.toList.filterMap Outcome.analysis?

theorem View.mem_carried {view : View Output} {analysis : Analysis Output}
    (completed : view.outcome = some (.completed analysis)) : analysis ∈ view.carried := by
  simp [carried, completed, Outcome.analysis?]

namespace Stage

variable {stage later : Stage Output} {analysis : Analysis Output}

/-- The analysis of a request at a stage. -/
def analysis? : Stage Output → Option (Analysis Output)
  | .called phase => phase.analysis?
  | .worked phase _ => phase.analysis?
  | .posted analysis _ => some analysis
  | .ended outcome _ => outcome.analysis?
  | _ => none

theorem mem_carried : analysis ∈ stage.view.carried ↔ stage.analysis? = some analysis := by
  cases stage with
  | called phase =>
    cases phase <;> simp [view, View.carried, analysis?, CallPhase.analysis?, CallPhase.outcome?,
      Outcome.analysis?, eq_comm]
  | worked phase marked =>
    cases phase <;> cases marked <;> simp [view, View.carried, analysis?, WorkPhase.analysis?,
      WorkPhase.outcome?, Outcome.analysis?, eq_comm]
  | posted => simp [view, View.carried, analysis?, Outcome.analysis?, eq_comm]
  | ended outcome =>
    cases outcome <;> simp [view, View.carried, analysis?, Outcome.analysis?, eq_comm]
  | _ => simp [view, View.carried, analysis?]

theorem Analyzing.carried_eq (analyzing : stage.Analyzing) : stage.view.carried = [] := by
  apply List.eq_nil_iff_forall_not_mem.mpr
  intro analysis carries
  rw [mem_carried] at carries
  cases stage with
  | called phase => cases phase <;> first | exact analyzing.elim | cases carries
  | worked phase marked => cases phase <;> first | exact analyzing.elim | cases carries
  | _ => exact analyzing.elim

/-- The analyzer has just returned an analysis of the request. -/
inductive Returns (analysis : Analysis Output) : Stage Output → Stage Output → Prop where
  | call : Returns analysis (.called .executing) (.called (.recording analysis))
  | worker (marked : Bool) :
      Returns analysis (.worked .executing marked) (.worked (.recording analysis) marked)

/-- An analysis is one that the request had before, that the analyzer has just returned, or that a
submission was answered with at once. -/
theorem Advance.analysis? (advance : Advance stage later)
    (carries : later.analysis? = some analysis) :
    stage.analysis? = some analysis ∨ Returns analysis stage later ∨
      stage = .unborn ∧ later = .called (.callingBack analysis) := by
  cases advance with
  | openRecent =>
    cases carries
    exact .inr (.inr ⟨rfl, rfl⟩)
  | answerCall =>
    cases carries
    exact .inr (.inl .call)
  | answer _ marked =>
    cases carries
    exact .inr (.inl (.worker marked))
  | @conclude phase outcome marked ends =>
    cases phase with
    | executing => rcases ends with rfl | rfl <;> cases marked <;> cases carries
    | recording | delivering => cases ends; cases marked <;> cases carries
    | posting => exact .inl carries
  | openInline | openQueued | turnAway | send | failCall | cancelCall | faultCall | displace | drain
  | take | skip | begin => cases carries
  | _ => exact .inl carries

/-- A result is dropped for newer work only when there is one. -/
theorem Advance.superseded (advance : Advance stage later)
    (superseded : later.outcome? = some .superseded) :
    stage.outcome? = some .superseded ∨
      ∃ analysis, stage.analysis? = some analysis ∧ ¬ stage.Spent := by
  cases advance with
  | @conclude phase outcome marked ends =>
    cases phase with
    | executing => rcases ends with rfl | rfl <;> cases marked <;> cases superseded
    | recording => cases ends; cases marked <;> cases superseded
    | delivering analysis => exact .inr ⟨analysis, rfl, id⟩
    | posting => cases superseded
  | giveUp phase => cases phase <;> cases superseded
  | _ => first | exact .inl superseded | cases superseded

end Stage

/-- The worker begins an analyzer call. -/
def Transition.WorkerBegins (transition : Transition Snapshot Callback Output)
    (request : Request Snapshot Callback) : Prop :=
  transition.before.worker ≠ .executing request ∧ transition.after.worker = .executing request

namespace Scheduler

variable {scheduler before after final : Scheduler Snapshot Callback Output}
  {event : Event Snapshot Callback Output} {events : List (Event Snapshot Callback Output)}
  {past later : List (Transition Snapshot Callback Output)}
  {transition : Transition Snapshot Callback Output}

section Beginning

theorem analyses_eq_nil
    (calls : ∀ request, ⟨request, .executing⟩ ∈ after.calls → ⟨request, .executing⟩ ∈ before.calls)
    (worker : ∀ request, after.worker = .executing request → before.worker = .executing request) :
    (Transition.mk before event after).analyses = [] := by
  apply Transition.newIn_of_subset
  intro request analyzing
  apply mem_analyzing.mpr
  rcases mem_analyzing.mp analyzing with called | executing
  · exact .inl (calls request called)
  · exact .inr (worker request executing)

theorem Sound.analyses_of_openedInline {request : Request Snapshot Callback} (sound : before.Sound)
    (last : request.id = before.completions.length)
    (calls : after.calls = before.calls ++ [⟨request, .executing⟩])
    (worker : after.worker = before.worker) :
    (Transition.mk before event after).analyses = [request] := by
  have inserted : ∃ left right, before.analyzing = left ++ right ∧
      after.analyzing = left ++ request :: right := by
    refine ⟨_, _, rfl, ?_⟩
    simp [analyzing, calls, worker]
  rcases inserted with ⟨left, right, old, more⟩
  apply Transition.newIn_of_insert more (by simp [old])
  intro inside
  rcases sound.staged request.id with ⟨stage, stands⟩
  have analyzing := (mem_map_analyzing stands).mp inside
  have unborn : stage.view.born = false := by
    rw [← stands]
    simp [view, last]
  cases Stage.eq_unborn unborn
  exact analyzing

/-- A step begins one analyzer call and counts it, or none. -/
theorem Sound.counts_analyses (sound : before.Sound) (rule : before.Rule event after) :
    (∃ request, (Transition.mk before event after).analyses = [request] ∧
      after.stats.executed = before.stats.executed + 1) ∨
    (Transition.mk before event after).analyses = [] ∧
      after.stats.executed = before.stats.executed := by
  cases rule with
  | openedInline submits open_ path =>
    exact .inl ⟨_, sound.analyses_of_openedInline rfl rfl rfl, rfl⟩
  | began holding => exact .inl ⟨_, sound.analyses_of_began holding rfl rfl, rfl⟩
  | openedRecent | openedQueued =>
    exact .inr ⟨analyses_eq_nil (by simp) (fun _ => id), rfl⟩
  | enqueued =>
    refine .inr ⟨analyses_eq_nil ?_ ?_, rfl⟩
    · exact fun request called => (List.mem_filter.mp called).1
    · intro request executing
      split at executing
      · cases executing
      · exact executing
  | failedCall | cancelledCall =>
    refine .inr ⟨analyses_eq_nil ?_ (fun _ => id), ?_⟩
    · exact fun request called => (List.mem_filter.mp called).1
    · split <;> rfl
  | turnedAway | faultedCall | lostCall | returnedCall =>
    refine .inr ⟨analyses_eq_nil ?_ (fun _ => id), rfl⟩
    exact fun request called => (List.mem_filter.mp called).1
  | answeredCall | deliveredCall =>
    refine .inr ⟨analyses_eq_nil ?_ (fun _ => id), rfl⟩
    intro request called
    rcases List.mem_map.mp called with ⟨call, old, moved⟩
    split at moved
    · cases moved
    · exact moved ▸ old
  | polled | cleared =>
    refine .inr ⟨analyses_eq_nil (fun _ => id) ?_, rfl⟩
    intro request executing
    split at executing <;> cases executing
  | started | receivedNone | receivedTerminate | receivedRequest | answered | recordFaulted
  | recorded | lost | completed | posted | dropped =>
    exact .inr ⟨analyses_eq_nil (fun _ => id) (by simp), rfl⟩
  | skipped | failed | gaveUp | superseded =>
    refine .inr ⟨analyses_eq_nil (fun _ => id) (by simp), ?_⟩
    split <;> rfl
  | stopping running aborts =>
    refine .inr ⟨analyses_eq_nil (fun _ => id) (fun _ => id), ?_⟩
    simp [stats_of_stopping aborts]
  | gaveUpRequest =>
    refine .inr ⟨analyses_eq_nil (fun _ => id) (fun _ => id), ?_⟩
    split <;> rfl
  | _ => exact .inr ⟨analyses_eq_nil (fun _ => id) (fun _ => id), rfl⟩

end Beginning

section Never

variable {id : RequestId}

theorem Sound.ne_of_settled (sound : before.Sound) (step : before.step event = some after)
    (settled : (before.outcome? id).isSome) :
    ∀ request ∈ (Transition.mk before event after).analyses, request.id ≠ id := by
  rintro request begun rfl
  rcases sound.begins_analysis step begun with ⟨stage, _, stands, _, _, ⟨rfl, _⟩ | ⟨rfl, _⟩⟩
  all_goals
    have pending : before.outcome? request.id = none := congrArg View.outcome stands
    simp [pending] at settled

theorem Sound.ne_of_settled_run (sound : scheduler.Sound) (run : scheduler.run events = some final)
    (settled : (scheduler.outcome? id).isSome) :
    ∀ request ∈ scheduler.analysesOf events, request.id ≠ id := by
  have known := run_induction
    (motive := fun past state => state.Sound ∧ (state.outcome? id).isSome ∧
      ∀ request ∈ past.flatMap Transition.analyses, request.id ≠ id)
    ⟨sound, settled, by simp⟩ ?_ run
  · exact known.2.2
  · rintro past before event after ⟨sound, settled, others⟩ step
    rcases Option.isSome_iff_exists.mp settled with ⟨outcome, ended⟩
    refine ⟨sound.of_rule (rule_of_step step), ?_, ?_⟩
    · simp [sound.outcome?_of_rule (rule_of_step step) ended]
    · intro request member
      rw [List.flatMap_append, List.flatMap_singleton] at member
      rcases List.mem_append.mp member with old | new
      · exact others request old
      · exact sound.ne_of_settled step settled request new

/-- A request that gets its outcome before an analyzer call has begun for it is never analyzed. An
earlier call would have left its mark on the stage, one that begins then would leave the request
without an outcome, and a later one would find an outcome. -/
theorem never_analyzed {config : Config} {sufficient : Reason → Bool} {stage : Stage Output}
    (run : (new config sufficient).run events = some final)
    (member : transition ∈ (new config sufficient).trace events)
    (stands : transition.before.view id = stage.view) (unbegun : ¬ stage.Begun)
    (settled : (transition.after.outcome? id).isSome) :
    ∀ request ∈ (new config sufficient).analysesOf events, request.id ≠ id := by
  rcases List.append_of_mem member with ⟨past, later, split⟩
  rcases exists_run_of_split run split
    with ⟨earlier, rest, earlierRun, rfl, step, restRun, rfl⟩
  have sound := (sound_new config sufficient).run earlierRun
  rintro request analyzed rfl
  rw [analysesOf, split, List.flatMap_append, List.flatMap_cons] at analyzed
  rcases List.mem_append.mp analyzed with old | analyzed
  · rcases (sound_new config sufficient).begun_of_analysesOf earlierRun request old
      with ⟨known, knownStands, begun⟩
    cases Stage.view_injective (knownStands.symm.trans stands)
    exact unbegun begun
  · rcases List.mem_append.mp analyzed with now | late
    · rcases sound.begins_analysis step now
        with ⟨_, _, _, laterStands, _, ⟨_, rfl⟩ | ⟨_, rfl⟩⟩
      all_goals
        have pending : transition.after.outcome? request.id = none :=
          congrArg View.outcome laterStands
        simp [pending] at settled
    · exact (sound.of_rule (rule_of_step step)).ne_of_settled_run restRun settled request late rfl

theorem never_analyzed_of_hit {config : Config} {sufficient : Reason → Bool}
    {answered : Answered Snapshot Callback Output}
    (run : (new config sufficient).run events = some final)
    (member : transition ∈ (new config sufficient).trace events)
    (hit : answered ∈ transition.hits) :
    ∀ request ∈ (new config sufficient).analysesOf events, request.id ≠ answered.request.id := by
  rcases exists_run_of_mem run member with ⟨_, earlierRun, step⟩
  have sound := (sound_new config sufficient).run earlierRun
  rcases List.mem_filter.mp hit with ⟨begun, new⟩
  rcases sound.staged answered.request.id with ⟨stage, stands⟩
  have unborn : stage.view.born = false := by
    rw [← stands]
    exact decide_eq_false (Nat.not_lt.mpr (of_decide_eq_true new))
  cases Stage.eq_unborn unborn
  have calling := ((Transition.mem_newIn _).mp begun).1
  have completed := (sound.of_rule (rule_of_step step)).outcome?_of_callingBack calling
  exact never_analyzed run member stands (fun begun => begun) (by simp [completed])

theorem never_analyzed_of_waiting {config : Config} {sufficient : Reason → Bool}
    {waiting : Request Snapshot Callback} (run : (new config sufficient).run events = some final)
    (member : transition ∈ (new config sufficient).trace events)
    (waits : waiting ∈ transition.before.waiting ∨ transition.before.worker = .holding waiting)
    (aborted : transition.after.outcome? waiting.id = some .aborted) :
    ∀ request ∈ (new config sufficient).analysesOf events, request.id ≠ waiting.id := by
  rcases exists_run_of_mem run member with ⟨_, earlierRun, _⟩
  have sound := (sound_new config sufficient).run earlierRun
  have settled : (transition.after.outcome? waiting.id).isSome := by simp [aborted]
  rcases waits with waits | holding
  · exact never_analyzed run member (sound.view_of_waiting waits) (fun begun => begun) settled
  · rcases sound.staged waiting.id with ⟨stage, stands⟩
    have held : stage.view.held = true := by
      rw [← stands]
      simp [view, holding, Worker.held?]
    cases Stage.eq_held held
    exact never_analyzed run member stands (fun begun => begun) settled

/-- A request that is turned away at the queue was about to enter it, and is abandoned. -/
theorem Sound.outcome?_of_turnedAway {launch : Launch} {failure : StartFailure}
    {next : Scheduler Snapshot Callback Output} (sound : before.Sound)
    (turnedAway : before.enqueue id launch = some (.error failure, next)) :
    before.view id = (Stage.called .queueing : Stage Output).view ∧
      next.outcome? id = some .abandoned := by
  unfold enqueue at turnedAway
  split at turnedAway
  · next request found =>
    split at turnedAway
    · next other failed =>
      cases turnedAway
      have called := phase_mem_of_call? found
      rcases sound.staged id with ⟨stage, stands⟩
      rw [stands] at called
      cases Stage.eq_called called
      have pending : before.outcome? id = none := congrArg View.outcome stands
      have ended : (endCall (before.finish id .abandoned) id).completions =
          Completion.endAll .abandoned [id] before.completions := rfl
      exact ⟨stands, outcome?_of_ended ended (List.mem_singleton_self id)
        (sound.staged.born_of_call? found) pending⟩
    · cases turnedAway
  · cases turnedAway

theorem never_analyzed_of_turnedAway {config : Config} {sufficient : Reason → Bool}
    {launch : Launch} {failure : StartFailure} {next : Scheduler Snapshot Callback Output}
    (run : (new config sufficient).run events = some final)
    (member : transition ∈ (new config sufficient).trace events)
    (enters : transition.event = .enqueue id launch)
    (turnedAway : transition.before.enqueue id launch = some (.error failure, next)) :
    ∀ request ∈ (new config sufficient).analysesOf events, request.id ≠ id := by
  rcases exists_run_of_mem run member with ⟨_, earlierRun, step⟩
  have sound := (sound_new config sufficient).run earlierRun
  rcases sound.outcome?_of_turnedAway turnedAway with ⟨stands, abandoned⟩
  have same : next = transition.after := by
    simpa [Scheduler.step, enters, turnedAway] using step
  exact never_analyzed run member stands (by simp [Stage.Begun, CallPhase.isInline])
    (by simp [← same, abandoned])

end Never

section Results

variable {id : RequestId} {analysis : Analysis Output}

theorem exists_call_of_view {phase : CallPhase Output}
    (called : phase ∈ (scheduler.view id).calls) :
    ∃ request, request.id = id ∧ ⟨request, phase⟩ ∈ scheduler.calls := by
  rcases List.mem_map.mp called with ⟨⟨request, _⟩, member, rfl⟩
  rcases List.mem_filter.mp member with ⟨called, own⟩
  exact ⟨request, by simpa using own, called⟩

theorem eq_recording_of_workOn {worker : Worker Snapshot Callback Output}
    (works : worker.workOn id = some (.recording analysis)) :
    ∃ request, worker = .recording request analysis ∧ request.id = id := by
  have recording := Worker.work?_of_workOn works
  cases worker with
  | recording request =>
    cases recording
    exact ⟨request, rfl, rfl⟩
  | _ => cases recording

/-- The analyzer returned an analysis of a request in the run so far. -/
def Returned (past : List (Transition Snapshot Callback Output)) (id : RequestId)
    (analysis : Analysis Output) : Prop :=
  ∃ transition ∈ past, ∃ answered, transition.returned? = some answered ∧
    answered.request.id = id ∧ answered.analysis = analysis

theorem Returned.mono {extra : List (Transition Snapshot Callback Output)}
    (returned : Returned past id analysis) : Returned (past ++ extra) id analysis := by
  rcases returned with ⟨transition, member, answered, returns⟩
  exact ⟨transition, List.mem_append_left _ member, answered, returns⟩

theorem Sound.returned_of_returns {stage next : Stage Output} (sound : before.Sound)
    (rule : before.Rule event after) (stands : before.view id = stage.view)
    (nextStands : after.view id = next.view) (returns : Stage.Returns analysis stage next) :
    ∃ answered, (Transition.mk before event after).returned? = some answered ∧
      answered.request.id = id ∧ answered.analysis = analysis := by
  have recording : ∃ request, request.id = id ∧ after.Recording ⟨request, analysis⟩ := by
    cases returns with
    | call =>
      have phases : .recording analysis ∈ (after.view id).calls := by
        rw [nextStands]
        exact List.mem_singleton_self _
      rcases exists_call_of_view phases with ⟨request, own, called⟩
      exact ⟨request, own, .inl called⟩
    | worker marked =>
      rcases eq_recording_of_workOn (congrArg View.worker nextStands) with ⟨request, recording, own⟩
      exact ⟨request, own, .inr recording⟩
  rcases recording with ⟨request, rfl, recording⟩
  rcases sound.recording_of_rule rule recording with old | new
  · exfalso
    rcases old with called | working
    · have phases := mem_callPhases called
      change _ ∈ (before.view request.id).calls at phases
      rw [stands] at phases
      cases Stage.eq_called phases
      cases returns
    · rcases stage_of_work? stands (by rw [working]; rfl) with ⟨marked, rfl⟩
      cases returns
  · exact ⟨_, new, rfl, rfl⟩

theorem exists_hit (stands : before.view id = (Stage.unborn : Stage Output).view)
    (nextStands : after.view id = (Stage.called (.callingBack analysis)).view) :
    ∃ answered ∈ (Transition.mk before event after).hits, answered.request.id = id := by
  have phases : .callingBack analysis ∈ (after.view id).calls := by
    rw [nextStands]
    exact List.mem_singleton_self _
  rcases exists_call_of_view phases with ⟨request, rfl, called⟩
  have calling : ⟨request, analysis⟩ ∈ after.callingBack :=
    List.mem_filterMap.mpr ⟨_, called, rfl⟩
  have unborn : before.completions.length ≤ request.id :=
    Nat.not_lt.mp (of_decide_eq_false (congrArg View.born stands))
  have fresh : request.id ∉ before.callingBack.map fun answered => answered.request.id := by
    intro inside
    rcases List.mem_map.mp inside with ⟨old, oldCalling, same⟩
    have oldPhases := mem_callPhases (callPhase_of_mem_callingBack oldCalling)
    change _ ∈ (before.view old.request.id).calls at oldPhases
    rw [same, stands] at oldPhases
    cases oldPhases
  exact ⟨_, List.mem_filter.mpr ⟨(Transition.mem_newIn _).mpr ⟨calling, fresh⟩,
    decide_eq_true unborn⟩, rfl⟩

theorem analyzing_of_returned? {answered : Answered Snapshot Callback Output}
    (returned : transition.returned? = some answered) :
    answered.request ∈ transition.before.analyzing := by
  rcases transition with ⟨before, event, after⟩
  apply mem_analyzing.mpr
  cases event with
  | answerCall id execution =>
    simp only [Transition.returned?] at returned
    split at returned
    · next found _ =>
      cases returned
      exact .inl (List.mem_of_find?_eq_some found)
    · cases returned
  | workerAnswer execution =>
    simp only [Transition.returned?] at returned
    split at returned
    · next executing _ =>
      cases returned
      exact .inr executing
    · cases returned
  | _ => cases returned

end Results

section Runs

/-- What is known of the analyzer calls of a run so far. -/
structure Executed (past : List (Transition Snapshot Callback Output))
    (scheduler : Scheduler Snapshot Callback Output) : Prop where
  sound : scheduler.Sound
  begun : ∀ request ∈ past.flatMap Transition.analyses, ∃ stage : Stage Output,
    scheduler.view request.id = stage.view ∧ stage.Begun
  once : ((past.flatMap Transition.analyses).map fun request => request.id).Nodup
  counted : scheduler.stats.executed = UInt64.ofNat (past.flatMap Transition.analyses).length
  analyzing : ∀ request ∈ scheduler.analyzing,
    request.id ∈ (past.flatMap Transition.analyses).map fun request => request.id
  returned : ∀ id analysis, Returned past id analysis →
    id ∈ (past.flatMap Transition.analyses).map fun request => request.id
  carried : ∀ id (stage : Stage Output), scheduler.view id = stage.view →
    ∀ analysis, stage.analysis? = some analysis → Returned past id analysis ∨
      stage.Spent ∧ ∃ answered ∈ past.flatMap Transition.hits, answered.request.id = id
  superseded : ∀ id, scheduler.outcome? id = some .superseded →
    ∃ analysis, Returned past id analysis

theorem executed_new (config : Config) (sufficient : Reason → Bool) :
    Executed [] (new config sufficient : Scheduler Snapshot Callback Output) where
  sound := sound_new config sufficient
  begun := by simp
  once := List.nodup_nil
  counted := rfl
  analyzing := by simp [new, Scheduler.analyzing]
  returned := by simp [Returned]
  carried := by
    intro id stage stands analysis carries
    have unborn : stage.view.born = false := by
      rw [← stands]
      rfl
    cases Stage.eq_unborn unborn
    cases carries
  superseded := by simp [new, outcome?]

/-- Neither of the two stages at which a call begins bears the mark of an earlier call. -/
theorem Executed.once_step (known : Executed past before) (step : before.step event = some after) :
    (((past ++ [Transition.mk before event after]).flatMap Transition.analyses).map
      fun request => request.id).Nodup := by
  rw [List.flatMap_append, List.flatMap_singleton, List.map_append]
  rcases known.sound.counts_analyses (rule_of_step step) with ⟨request, begins, _⟩ | ⟨none, _⟩
  · rw [begins]
    apply List.Nodup.append known.once (List.nodup_singleton _)
    intro id old new
    cases List.mem_singleton.mp new
    rcases List.mem_map.mp old with ⟨earlier, earlierMem, same⟩
    rcases known.begun earlier earlierMem with ⟨stage, stands, begun⟩
    have now : request ∈ (Transition.mk before event after).analyses := by simp [begins]
    rw [same] at stands
    rcases known.sound.begins_analysis step now with ⟨_, _, nowStands, _, _, ⟨rfl, _⟩ | ⟨rfl, _⟩⟩
    all_goals
      cases Stage.view_injective (stands.symm.trans nowStands)
      exact begun
  · rw [none, List.map_nil, List.append_nil]
    exact known.once

theorem Executed.counted_step (known : Executed past before)
    (step : before.step event = some after) : after.stats.executed = UInt64.ofNat
      ((past ++ [Transition.mk before event after]).flatMap Transition.analyses).length := by
  rw [List.flatMap_append, List.flatMap_singleton, List.length_append]
  rcases known.sound.counts_analyses (rule_of_step step)
    with ⟨request, begins, executed⟩ | ⟨none, same⟩
  · rw [executed, known.counted, begins, UInt64.ofNat_add]
    rfl
  · rw [same, known.counted, none]
    rfl

theorem Executed.analyzing_step (known : Executed past before) :
    ∀ request ∈ after.analyzing,
      request.id ∈ ((past ++ [Transition.mk before event after]).flatMap Transition.analyses).map
        fun request => request.id := by
  intro request inside
  rw [List.flatMap_append, List.flatMap_singleton, List.map_append]
  by_cases old : request.id ∈ before.analyzing.map fun request => request.id
  · rcases List.mem_map.mp old with ⟨earlier, earlierMem, same⟩
    rw [← same]
    exact List.mem_append_left _ (known.analyzing earlier earlierMem)
  · apply List.mem_append_right
    exact List.mem_map_of_mem ((Transition.mem_newIn _).mpr ⟨inside, old⟩)

theorem Executed.returned_step (known : Executed past before) :
    ∀ id analysis, Returned (past ++ [Transition.mk before event after]) id analysis →
      id ∈ ((past ++ [Transition.mk before event after]).flatMap Transition.analyses).map
        fun request => request.id := by
  rintro id analysis ⟨transition, member, answered, returns, rfl, rfl⟩
  rw [List.flatMap_append, List.map_append]
  apply List.mem_append_left
  rcases List.mem_append.mp member with old | new
  · exact known.returned _ _ ⟨transition, old, answered, returns, rfl, rfl⟩
  · cases List.mem_singleton.mp new
    exact known.analyzing _ (analyzing_of_returned? returns)

theorem Executed.carried_step (known : Executed past before)
    (step : before.step event = some after) {id : RequestId} {next : Stage Output}
    {analysis : Analysis Output} (nextStands : after.view id = next.view)
    (carries : next.analysis? = some analysis) :
    Returned (past ++ [Transition.mk before event after]) id analysis ∨
      next.Spent ∧ ∃ answered ∈ (past ++ [Transition.mk before event after]).flatMap
        Transition.hits, answered.request.id = id := by
  have rule := rule_of_step step
  rcases known.sound.moves step with ⟨stage, later, stands, laterStands, moves⟩
  cases Stage.view_injective (laterStands.symm.trans nextStands)
  have earlier (had : stage.analysis? = some analysis) (stays : stage.Spent → next.Spent) :
      Returned (past ++ [Transition.mk before event after]) id analysis ∨
        next.Spent ∧ ∃ answered ∈ (past ++ [Transition.mk before event after]).flatMap
          Transition.hits, answered.request.id = id := by
    rcases known.carried id stage stands analysis had with returned | ⟨spent, answered, hit, same⟩
    · exact .inl returned.mono
    · refine .inr ⟨stays spent, answered, ?_, same⟩
      rw [List.flatMap_append]
      exact List.mem_append_left _ hit
  rcases moves with rfl | advance
  · exact earlier carries fun spent => spent
  · rcases advance.analysis? carries with had | returns | ⟨rfl, rfl⟩
    · exact earlier had advance.spent
    · rcases known.sound.returned_of_returns rule stands laterStands returns
        with ⟨answered, returned⟩
      exact .inl ⟨_, List.mem_append_right _ (List.mem_singleton_self _), answered, returned⟩
    · rcases exists_hit stands laterStands with ⟨answered, hit, same⟩
      refine .inr ⟨trivial, answered, ?_, same⟩
      rw [List.flatMap_append, List.flatMap_singleton]
      exact List.mem_append_right _ hit

theorem Executed.superseded_step (known : Executed past before)
    (step : before.step event = some after) {id : RequestId}
    (superseded : after.outcome? id = some .superseded) :
    ∃ analysis, Returned (past ++ [Transition.mk before event after]) id analysis := by
  suffices earlier : ∃ analysis, Returned past id analysis by
    rcases earlier with ⟨analysis, returned⟩
    exact ⟨analysis, returned.mono⟩
  rcases known.sound.moves step with ⟨stage, later, stands, laterStands, moves⟩
  have ended : later.outcome? = some .superseded := by
    rw [← Stage.outcome_view, ← laterStands]
    exact superseded
  have known_of_was (was : stage.outcome? = some .superseded) :
      ∃ analysis, Returned past id analysis := by
    apply known.superseded id
    rw [← Stage.outcome_view, ← stands] at was
    exact was
  rcases moves with rfl | advance
  · exact known_of_was ended
  · rcases advance.superseded ended with was | ⟨analysis, carries, unspent⟩
    · exact known_of_was was
    · rcases known.carried id stage stands analysis carries with returned | ⟨spent, _⟩
      · exact ⟨analysis, returned⟩
      · exact absurd spent unspent

theorem Executed.step (known : Executed past before) (step : before.step event = some after) :
    Executed (past ++ [⟨before, event, after⟩]) after where
  sound := known.sound.of_rule (rule_of_step step)
  begun := known.sound.begun_step step known.begun
  once := known.once_step step
  counted := known.counted_step step
  analyzing := known.analyzing_step
  returned := known.returned_step
  carried _ _ nextStands _ carries := known.carried_step step nextStands carries
  superseded _ superseded := known.superseded_step step superseded

theorem executed_of_run {config : Config} {sufficient : Reason → Bool}
    (run : (new config sufficient).run events = some final) :
    Executed ((new config sufficient).trace events) final :=
  run_induction (executed_new config sufficient) (fun _ _ _ _ known step => known.step step) run

end Runs

section Worker

variable {request : Request Snapshot Callback}

theorem holding_of_workerBegins (rule : before.Rule event after)
    (begins : (Transition.mk before event after).WorkerBegins request) :
    before.worker = .holding request := by
  rcases begins with ⟨notYet, executing⟩
  cases rule with
  | began holding =>
    cases executing
    exact holding
  | enqueued | polled | cleared =>
    split at executing
    · cases executing
    · first | exact absurd executing notYet | cases executing
  | started | receivedNone | receivedTerminate | receivedRequest | skipped | answered | failed
  | gaveUp | recordFaulted | recorded | superseded | lost | completed | posted | dropped =>
    cases executing
  | _ => exact absurd executing notYet

/-- The worker leaves the analyzer only when the call is over. -/
theorem Orderly.workerAnswer_of_leaves (orderly : before.Orderly) (rule : before.Rule event after)
    (executing : before.worker = .executing request) (leaves : after.worker ≠ .executing request) :
    ∃ execution, event = .workerAnswer execution := by
  cases works : event.isWorker with
  | false =>
    have begun : before.lifecycle ≠ .idle := by
      intro idle
      simp [(orderly.unstarted idle).1] at executing
    rw [worker_of_rule rule works begun] at leaves
    exact absurd executing leaves
  | true =>
    rcases rule.of_executing works executing with ⟨execution, answers, _⟩
    exact ⟨execution, answers⟩

/-- Between two analyzer calls of the worker the first one ends: the worker is in the analyzer once it
has begun, and out of it where the second one begins. -/
theorem exists_answer_between {config : Config} {sufficient : Reason → Bool}
    {other : Request Snapshot Callback} {first second : Transition Snapshot Callback Output}
    {early late : Nat} (run : (new config sufficient).run events = some final)
    (firstFound : ((new config sufficient).trace events)[early]? = some first)
    (secondFound : ((new config sufficient).trace events)[late]? = some second)
    (order : early < late) (begins : first.WorkerBegins request)
    (again : second.WorkerBegins other) :
    ∃ (between : Nat) (answer : Transition Snapshot Callback Output)
      (execution : Execution Output), early < between ∧ between < late ∧
      ((new config sufficient).trace events)[between]? = some answer ∧
      answer.event = .workerAnswer execution ∧ answer.before.worker = .executing request := by
  rcases exists_run_between run firstFound secondFound order with ⟨middle, middleRun, inside⟩
  rcases exists_split_of_trace run secondFound with ⟨_, _, _, _, _, secondStep, _, _⟩
  have holding := holding_of_workerBegins (rule_of_step secondStep) again
  have left : second.before.worker ≠ .executing request := by
    simp [holding]
  rcases exists_crossing (motive := fun state => state.worker = .executing request) middleRun
    begins.2 left with ⟨index, answer, found, executing, leaves⟩
  rcases inside index answer found with ⟨bound, answerFound⟩
  rcases exists_split_of_trace run answerFound with ⟨_, _, _, _, earlierRun, step, _, _⟩
  have orderly := ((sound_new config sufficient).run earlierRun).orderly
  rcases orderly.workerAnswer_of_leaves (rule_of_step step) executing leaves with ⟨execution, ends⟩
  exact ⟨_, answer, execution, by omega, bound, answerFound, ends, executing⟩

end Worker

theorem analyses_of_no_handle {submission : Submission Snapshot Callback} {idleTriggered : Bool}
    {reading : Attempt Version} {now : Instant} (step : before.step event = some after)
    (submits : before.Submits event submission idleTriggered reading now)
    (none : (Transition.mk before event after).handles = []) :
    (Transition.mk before event after).analyses = [] := by
  have same : after.completions.length = before.completions.length := by
    rcases handles_of_step step with ⟨_, same⟩ | ⟨handle, _, some, _⟩
    · exact same
    · rw [none] at some
      cases some
  cases rule_of_step step with
  | refused | faulted | declined => exact Transition.newIn_of_subset (List.Subset.refl _)
  | openedRecent | openedInline | openedQueued => simp at same
  | _ => cases submits

/-- The discipline of analyzer calls, over every run, with submissions from inside analyzer calls
and callbacks and with a shutdown at any point.

No request is analyzed twice. Those answered by the recent result, displaced, aborted before the
worker begins them or turned away are never analyzed, and a submission that ends without a request
begins no call. Of two calls on the worker the first one ends before the second one begins. No call
finds an analysis of its request. A request that is completed in another way than by the recent
result, or superseded, was analyzed exactly once and to a result. The counter counts the calls that
were begun, however they end. -/
theorem execution_disciplined {config : Config} {sufficient : Reason → Bool}
    (run : (new config sufficient).run events = some final) :
    (((new config sufficient).analysesOf events).map fun request => request.id).Nodup ∧
    (∀ request ∈ (new config sufficient).analysesOf events,
      final.outcome? request.id ≠ some .displaced) ∧
    (∀ transition ∈ (new config sufficient).trace events, ∀ answered ∈ transition.hits,
      ∀ request ∈ (new config sufficient).analysesOf events, request.id ≠ answered.request.id) ∧
    (∀ transition ∈ (new config sufficient).trace events, ∀ waiting,
      waiting ∈ transition.before.waiting ∨ transition.before.worker = .holding waiting →
      transition.after.outcome? waiting.id = some .aborted →
      ∀ request ∈ (new config sufficient).analysesOf events, request.id ≠ waiting.id) ∧
    (∀ transition ∈ (new config sufficient).trace events, ∀ id launch failure next,
      transition.event = .enqueue id launch →
      transition.before.enqueue id launch = some (.error failure, next) →
      ∀ request ∈ (new config sufficient).analysesOf events, request.id ≠ id) ∧
    (∀ transition ∈ (new config sufficient).trace events,
      ∀ submission idleTriggered reading now,
      transition.before.Submits transition.event submission idleTriggered reading now →
      transition.handles = [] → transition.analyses = []) ∧
    (∀ (early late : Nat) (first second : Transition Snapshot Callback Output) request other,
      ((new config sufficient).trace events)[early]? = some first →
      ((new config sufficient).trace events)[late]? = some second → early < late →
      first.WorkerBegins request → second.WorkerBegins other →
      ∃ (between : Nat) (answer : Transition Snapshot Callback Output)
        (execution : Execution Output), early < between ∧ between < late ∧
        ((new config sufficient).trace events)[between]? = some answer ∧
        answer.event = .workerAnswer execution ∧ answer.before.worker = .executing request) ∧
    (∀ request ∈ final.analyzing, (final.view request.id).carried = []) ∧
    (∀ id analysis, final.outcome? id = some (.completed analysis) →
      (∀ transition ∈ (new config sufficient).trace events, ∀ answered ∈ transition.hits,
        answered.request.id ≠ id) →
      (((new config sufficient).analysesOf events).map fun request => request.id).count id = 1 ∧
        Returned ((new config sufficient).trace events) id analysis) ∧
    (∀ id, final.outcome? id = some .superseded →
      (((new config sufficient).analysesOf events).map fun request => request.id).count id = 1 ∧
        ∃ analysis, Returned ((new config sufficient).trace events) id analysis) ∧
    final.stats.executed = UInt64.ofNat ((new config sufficient).analysesOf events).length := by
  have known := executed_of_run run
  have once {id : RequestId} {analysis : Analysis Output}
      (returned : Returned ((new config sufficient).trace events) id analysis) :
      (((new config sufficient).analysesOf events).map fun request => request.id).count id = 1 :=
    List.count_eq_one_of_mem known.once (known.returned id analysis returned)
  refine ⟨known.once, ?_, ?_, ?_, ?_, ?_, ?_, ?_, ?_, ?_, known.counted⟩
  · intro request analyzed displaced
    rcases known.begun request analyzed with ⟨stage, stands, begun⟩
    have recorded := congrArg View.outcome stands
    rw [Stage.outcome_view] at recorded
    exact Stage.not_begun_of_displaced (recorded.symm.trans displaced) begun
  · intro transition member answered hit
    exact never_analyzed_of_hit run member hit
  · intro transition member waiting waits aborted
    exact never_analyzed_of_waiting run member waits aborted
  · intro transition member id launch failure next enters turnedAway
    exact never_analyzed_of_turnedAway run member enters turnedAway
  · intro transition member submission idleTriggered reading now submits none
    rcases exists_run_of_mem run member with ⟨_, _, step⟩
    exact analyses_of_no_handle step submits none
  · intro early late first second request other firstFound secondFound order begins again
    exact exists_answer_between run firstFound secondFound order begins again
  · intro request analyzing
    rcases known.sound.staged request.id with ⟨stage, stands⟩
    rw [stands]
    exact ((mem_map_analyzing stands).mp (List.mem_map_of_mem analyzing)).carried_eq
  · intro id analysis completed missed
    rcases known.sound.staged id with ⟨stage, stands⟩
    have carries : analysis ∈ (final.view id).carried := View.mem_carried completed
    rw [stands, Stage.mem_carried] at carries
    rcases known.carried id stage stands analysis carries with returned | ⟨_, answered, hit, same⟩
    · exact ⟨once returned, returned⟩
    · rcases List.mem_flatMap.mp hit with ⟨transition, member, hit⟩
      exact absurd same (missed transition member answered hit)
  · intro id superseded
    rcases known.superseded id superseded with ⟨analysis, returned⟩
    exact ⟨once returned, analysis, returned⟩

/-- A check on the worker, a goto answered by its result, and a parse that a shutdown finds
waiting. -/
def checkGotoParse : List (Event Unit Unit Unit) :=
  let submission : Submission Unit Unit :=
    { source := ⟨"a"⟩, position := {}, reason := .fullTypeCheck, snapshot := () }
  [.setActive (some ⟨"a"⟩), .submit submission (.ok {}) 0, .enqueue 0 .started, .workerPoll,
    .workerReceive, .workerBegin, .workerAnswer (.ok (.ok { version := {}, payload := () })),
    .workerRecord (.ok {}) 0, .workerDeliver, .workerPost true, .workerClear,
    .submit { submission with reason := .goto } (.ok {}) 0, .returnCall 1,
    .submit { submission with reason := .parseFile, requireFresh := true } (.ok {}) 0,
    .enqueue 2 .started, .shutdown]

theorem execution_disciplined_checkGotoParse : ∃ final : Scheduler Unit Unit Unit,
    (new .default fun _ => true).run checkGotoParse = some final ∧
      (((new .default fun _ => true).analysesOf checkGotoParse).map
        fun request => request.id).count 0 = 1 ∧
      (∀ request ∈ (new .default fun _ => true).analysesOf checkGotoParse, request.id ≠ 1) ∧
      (∀ request ∈ (new .default fun _ => true).analysesOf checkGotoParse, request.id ≠ 2) ∧
      final.stats.executed = 1 := by
  have run : (new .default fun _ => true : Scheduler Unit Unit Unit).run checkGotoParse =
    some _ := rfl
  rcases execution_disciplined run
    with ⟨_, _, hits, waiting, _, _, _, _, completed, _, counted⟩
  have missed : ∀ transition ∈ (new .default fun _ => true : Scheduler Unit Unit Unit).trace
      checkGotoParse, ∀ answered ∈ transition.hits, answered.request.id ≠ 0 := by decide
  have answeredAt : ((new .default fun _ => true : Scheduler Unit Unit Unit).trace
      checkGotoParse)[11]? = some _ := rfl
  have shutAt : ((new .default fun _ => true : Scheduler Unit Unit Unit).trace
      checkGotoParse)[15]? = some _ := rfl
  have checked := completed 0 _ rfl missed
  have answered := hits _ (List.mem_of_getElem? answeredAt) _ (.head _)
  have aborted := waiting _ (List.mem_of_getElem? shutAt) _ (.inl (.head _)) rfl
  exact ⟨_, run, checked.1, answered, aborted, rfl⟩

end Scheduler

end EditorAnalysis
