import EditorAnalysis.Proofs.Scheduler.Callback
import EditorAnalysis.Proofs.Scheduler.Pipeline

/-!
# Requests are analyzed and called back in the order in which they were sent

Where the analyzer call or the callback of a request begins, the request is the first in the
pipeline, or the first in front of the worker. So one that was sent before it has left by then, and
a request never comes back. `Scheduler.delivered_in_order` says this of any two requests of a run,
whatever became of those between them.
-/

namespace EditorAnalysis

variable {Snapshot Callback Output : Type}

/-- The requests whose analyzer call ended. -/
def Transition.returns (transition : Transition Snapshot Callback Output) :
    List (Request Snapshot Callback) :=
  transition.before.analyzing.filter fun request =>
    request.id ∉ transition.after.analyzing.map fun request => request.id

namespace Scheduler

variable {scheduler final : Scheduler Snapshot Callback Output}
  {events : List (Event Snapshot Callback Output)} {id : RequestId}

/-- A request does not get out of the analyzer unless its call ends. -/
theorem exists_returns (run : scheduler.run events = some final)
    (inside : id ∈ scheduler.analyzing.map fun request => request.id)
    (outside : id ∉ final.analyzing.map fun request => request.id) :
    ∃ index : Nat, ∃ transition : Transition Snapshot Callback Output,
      (scheduler.trace events)[index]? = some transition ∧
        id ∈ transition.returns.map fun request => request.id := by
  rcases exists_crossing
      (motive := fun state => id ∈ state.analyzing.map fun request => request.id) run inside outside
    with ⟨index, transition, found, before, after⟩
  rcases List.mem_map.mp before with ⟨request, analyzing, rfl⟩
  refine ⟨index, transition, found, List.mem_map_of_mem (List.mem_filter.mpr ⟨analyzing, ?_⟩)⟩
  exact decide_eq_true after

section Runs

variable {config : Config} {sufficient : Reason → Bool} {earlier later : Nat}
  {first second : Transition Snapshot Callback Output} {older newer : Request Snapshot Callback}

/-- Of two transitions, the one before which a request has not yet got to a point comes first, if the
request never comes back from there. -/
theorem lt_of_stage {holds : Stage Output → Prop} {stage : Stage Output} (sound : scheduler.Sound)
    (run : scheduler.run events = some final)
    (foundFirst : (scheduler.trace events)[earlier]? = some first)
    (foundSecond : (scheduler.trace events)[later]? = some second)
    (keeps : ∀ {stage later : Stage Output}, stage.Advance later → holds stage → holds later)
    (fresh : ∀ stage : Stage Output, first.before.view id = stage.view → ¬ holds stage)
    (stands : second.before.view id = stage.view) (reached : holds stage) : earlier < later := by
  apply Decidable.byContradiction
  intro notBefore
  rcases Nat.eq_or_lt_of_le (Nat.le_of_not_lt notBefore) with rfl | before
  · rw [foundSecond] at foundFirst
    cases foundFirst
    exact fresh stage stands reached
  · rcases exists_split_of_trace run foundSecond with ⟨past, _, _, _, pastRun, step, _⟩
    rcases exists_run_between run foundSecond foundFirst before with ⟨between, betweenRun, _⟩
    have secondSound := sound.run pastRun
    have rule := rule_of_step step
    rcases secondSound.stage_of_rule rule keeps stands reached with ⟨next, nextStands, next_⟩
    rcases (secondSound.of_rule rule).stage_run betweenRun keeps nextStands next_
      with ⟨last, lastStands, last_⟩
    exact fresh last lastStands last_

/-- What was sent before a request is not behind it. -/
theorem passed_of_front {middle : Scheduler Snapshot Callback Output}
    {past rest : List (Event Snapshot Callback Output)} {behind : List (Request Snapshot Callback)}
    (run : (new config sufficient).run past = some middle)
    (restRun : middle.run rest = some final)
    (order : [older, newer].Sublist ((new config sufficient).sentOf (past ++ rest)))
    (front : (newer :: behind).Sublist ((new config sufficient).sentOf past)) :
    older ∈ (new config sufficient).sentOf past ∧ older ∉ newer :: behind := by
  have whole : (new config sufficient).run (past ++ rest) = some final := by
    rw [run_append, run]
    exact restRun
  have distinct := (ordered_of_run whole).nodup
  rw [sentOf_append run] at order distinct
  have before := sublist_of_mem_left distinct order (front.subset List.mem_cons_self)
  refine ⟨before.subset List.mem_cons_self, ?_⟩
  exact not_mem_of_sublist_cons (ordered_of_run run).nodup before front

/-- What was sent before the request whose analyzer call begins is done with at the worker. The call is
one of the worker, since a request that its submission analyzes never enters the queue. -/
theorem left_of_analyses (run : (new config sufficient).run events = some final)
    (order : [older, newer].Sublist ((new config sufficient).sentOf events))
    (found : ((new config sufficient).trace events)[later]? = some second)
    (begun : newer.id ∈ second.analyses.map fun request => request.id) :
    ∃ stage : Stage Output, second.before.view older.id = stage.view ∧ stage.Left := by
  rcases exists_split_of_trace run found with ⟨past, rest, rfl, _, pastRun, step, restRun, _⟩
  have known := ordered_of_run pastRun
  have member : newer ∈ (new config sufficient).sentOf (past ++ second.event :: rest) :=
    order.subset (by simp)
  have tailRun : second.before.run (second.event :: rest) = some final := by
    rw [Scheduler.run, step]
    exact restRun
  rcases List.mem_map.mp begun with ⟨request, analyzed, same⟩
  rcases known.sound.begins_analysis step analyzed
    with ⟨_, _, stands, laterStands, _, ⟨rfl, rfl⟩ | ⟨rfl, rfl⟩⟩
  · exfalso
    rw [List.append_cons] at member
    rcases entered_or_unsent (run_concat pastRun step) restRun member with ⟨_, stands, reached⟩
    rw [same, stands] at laterStands
    cases Stage.view_injective laterStands
    rcases reached with ⟨_, entered⟩ | unsent
    · exact entered
    · exact unsent
  · rcases entered_or_unsent pastRun tailRun member with ⟨_, held, ⟨sent, _⟩ | unsent⟩
    · rcases eq_holding_of_held? (of_decide_eq_true (congrArg View.held stands))
        with ⟨taken, holding, own⟩
      have front : second.before.remaining = taken :: second.before.waiting := by
        rw [remaining, holding]
        rfl
      have prior := known.remaining_sublist
      rw [front] at prior
      cases known.eq_of_id (prior.subset List.mem_cons_self) sent (own.trans same)
      rcases passed_of_front pastRun tailRun order prior with ⟨old, passed⟩
      rw [← front] at passed
      exact known.left_of_not_remaining old passed
    · rw [same, held] at stands
      cases Stage.view_injective stands
      exact unsent.elim

/-- What was sent before the request whose callback begins has ended. -/
theorem ended_of_callbacks (run : (new config sufficient).run events = some final)
    (order : [older, newer].Sublist ((new config sufficient).sentOf events))
    (found : ((new config sufficient).trace events)[later]? = some second)
    (begun : newer.id ∈ second.callbacks.map CallbackRun.id) :
    ∃ outcome marked, second.before.view older.id = (Stage.ended outcome marked).view := by
  rcases exists_split_of_trace run found with ⟨past, rest, rfl, _, pastRun, step, restRun, _⟩
  have known := ordered_of_run pastRun
  have member : newer ∈ (new config sufficient).sentOf (past ++ second.event :: rest) :=
    order.subset (by simp)
  have tailRun : second.before.run (second.event :: rest) = some final := by
    rw [Scheduler.run, step]
    exact restRun
  rcases List.mem_map.mp begun with ⟨callback, called, same⟩
  cases begins_of_mem_callbacks called with
  | @submission answered calling fresh =>
    exfalso
    rw [List.append_cons] at member
    rcases entered_or_unsent (run_concat pastRun step) restRun member with ⟨_, stands, reached⟩
    have phases := mem_callPhases (callPhase_of_mem_callingBack calling)
    change _ ∈ (second.after.view (CallbackRun.id ⟨.submission, answered, second.after⟩)).calls
      at phases
    rw [same, stands] at phases
    cases Stage.eq_called phases
    rcases reached with ⟨_, entered⟩ | unsent
    · exact entered
    · exact unsent
  | @pump answered jobs pumps head =>
    have front : second.before.pipeline =
        answered.request :: (jobs.map Answered.request ++ second.before.remaining) := by
      rw [pipeline, head]
      rfl
    have prior := known.inOrder
    rw [front] at prior
    have sent : answered.request ∈
        (new config sufficient).sentOf (past ++ second.event :: rest) := by
      rw [sentOf_append pastRun]
      exact List.mem_append_left _ (prior.subset List.mem_cons_self)
    cases (ordered_of_run run).eq_of_id sent member same
    rcases passed_of_front pastRun tailRun order prior with ⟨old, passed⟩
    rw [← front] at passed
    exact known.ended_of_not_pipeline old passed

/-- The order of delivery. Of two requests that entered the queue, the analyzer call of the one sent
first is over before that of the other begins, and its callback comes first. -/
theorem delivered_in_order (run : (new config sufficient).run events = some final)
    (order : [older, newer].Sublist ((new config sufficient).sentOf events))
    (foundFirst : ((new config sufficient).trace events)[earlier]? = some first)
    (foundSecond : ((new config sufficient).trace events)[later]? = some second) :
    (older.id ∈ first.analyses.map (fun request => request.id) →
      newer.id ∈ second.analyses.map (fun request => request.id) →
      ∃ between : Nat, ∃ transition : Transition Snapshot Callback Output,
        earlier < between ∧ between < later ∧
        ((new config sufficient).trace events)[between]? = some transition ∧
        older.id ∈ transition.returns.map fun request => request.id) ∧
    (older.id ∈ first.callbacks.map CallbackRun.id →
      newer.id ∈ second.callbacks.map CallbackRun.id → earlier < later) := by
  rcases exists_split_of_trace run foundFirst with ⟨_, _, _, _, pastRun, step, _⟩
  have sound := (sound_new config sufficient).run pastRun
  constructor
  · intro olderBegun newerBegun
    rcases left_of_analyses run order foundSecond newerBegun with ⟨stage, stands, left⟩
    rcases List.mem_map.mp olderBegun with ⟨request, analyzed, same⟩
    have before : earlier < later := by
      apply lt_of_stage (sound_new config sufficient) run foundFirst foundSecond
        Stage.Advance.left ?_ stands left
      intro stage stands left
      rcases sound.begins_analysis step analyzed
        with ⟨_, _, atStart, _, _, ⟨rfl, _⟩ | ⟨rfl, _⟩⟩ <;>
      · rw [same, stands] at atStart
        cases Stage.view_injective atStart
        exact left
    rcases exists_run_between run foundFirst foundSecond before with ⟨between, betweenRun, inside⟩
    have outside : older.id ∉ second.before.analyzing.map fun request => request.id :=
      fun analyzing => left.not_analyzing ((mem_map_analyzing stands).mp analyzing)
    have begun : older.id ∈ first.after.analyzing.map fun request => request.id := by
      rw [← same]
      exact List.mem_map_of_mem ((first.mem_newIn).mp analyzed).1
    rcases exists_returns betweenRun begun outside with ⟨index, transition, found, returns⟩
    rcases inside index transition found with ⟨bound, there⟩
    exact ⟨earlier + 1 + index, transition, by omega, bound, there, returns⟩
  · intro olderBegun newerBegun
    rcases ended_of_callbacks run order foundSecond newerBegun with ⟨outcome, marked, ended⟩
    rcases List.mem_map.mp olderBegun with ⟨callback, called, same⟩
    apply lt_of_stage (sound_new config sufficient) run foundFirst foundSecond
      Stage.Advance.spent ?_ ended trivial
    intro stage stands spent
    rcases sound.spends step (begins_of_mem_callbacks called) with ⟨_, _, atStart, _, unspent, _⟩
    rw [same, stands] at atStart
    cases Stage.view_injective atStart
    exact unspent spent

end Runs

/-- A check and, while it is analyzed, a completion, both delivered and then called back. -/
def checkThenCompletion : List (Event Unit Unit Unit) :=
  let submission : Submission Unit Unit :=
    { source := ⟨"a"⟩, position := {}, reason := .fullTypeCheck, snapshot := (),
      callback := some () }
  let delivery : List (Event Unit Unit Unit) :=
    [.workerAnswer (.ok (.ok ⟨none, {}, false⟩)), .workerRecord (.ok {}) 0, .workerDeliver,
      .workerPost true, .workerClear]
  [.submit submission (.ok {}) 0, .enqueue 0 .started, .workerPoll, .workerReceive, .workerBegin,
    .submit { submission with reason := .completeWord } (.ok {}) 0, .enqueue 1 .started] ++
  delivery ++ [.workerPoll, .workerReceive, .workerBegin] ++ delivery ++ [.pump, .pump]

theorem delivered_in_order_checkThenCompletion : ∃ final : Scheduler Unit Unit Unit,
    (new .default fun _ => false).run checkThenCompletion = some final ∧
      (∃ between : Nat, ∃ transition : Transition Unit Unit Unit, 4 < between ∧ between < 14 ∧
        ((new .default fun _ => false).trace checkThenCompletion)[between]? = some transition ∧
        0 ∈ transition.returns.map fun request => request.id) ∧
      ∃ first second : Nat, first < second ∧
        (∃ transition : Transition Unit Unit Unit,
          ((new .default fun _ => false).trace checkThenCompletion)[first]? = some transition ∧
          0 ∈ transition.callbacks.map CallbackRun.id) ∧
        ∃ transition : Transition Unit Unit Unit,
          ((new .default fun _ => false).trace checkThenCompletion)[second]? = some transition ∧
          1 ∈ transition.callbacks.map CallbackRun.id := by
  have run : (new .default fun _ => false : Scheduler Unit Unit Unit).run checkThenCompletion =
    some _ := rfl
  have order := List.Sublist.refl
    ((new .default fun _ => false : Scheduler Unit Unit Unit).sentOf checkThenCompletion)
  have firstBegin :
    ((new .default fun _ => false : Scheduler Unit Unit Unit).trace checkThenCompletion)[4]? =
      some _ := rfl
  have secondBegin :
    ((new .default fun _ => false : Scheduler Unit Unit Unit).trace checkThenCompletion)[14]? =
      some _ := rfl
  have firstPump :
    ((new .default fun _ => false : Scheduler Unit Unit Unit).trace checkThenCompletion)[20]? =
      some _ := rfl
  have secondPump :
    ((new .default fun _ => false : Scheduler Unit Unit Unit).trace checkThenCompletion)[21]? =
      some _ := rfl
  have analyses := (delivered_in_order run order firstBegin secondBegin).1
  have callbacks := (delivered_in_order run order firstPump secondPump).2
  refine ⟨_, run, analyses (List.mem_singleton_self 0) (List.mem_singleton_self 1), 20, 21, ?_,
    ⟨_, firstPump, ?_⟩, _, secondPump, ?_⟩
  · exact callbacks (List.mem_singleton_self 0) (List.mem_singleton_self 1)
  · exact List.mem_singleton_self 0
  · exact List.mem_singleton_self 1

end Scheduler

end EditorAnalysis
