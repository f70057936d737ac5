import EditorAnalysis.Proofs.Scheduler.Trace
import EditorAnalysis.Scheduler.Interleaved

/-!
# Passages

A passage is one move of one thread with the states around it, as a transition is one event with the
states around it. `Interleaved.Rule` says what a move can do, with one rule for each way it can go.
What began in a passage is read off its event, or it is the analyzer call that the worker makes.
-/

namespace EditorAnalysis

variable {Snapshot Callback Output : Type}

/-- One move of a run with the states around it. -/
structure Passage (Snapshot Callback Output : Type) where
  before : Interleaved Snapshot Callback Output
  move : Move Snapshot Callback Output
  after : Interleaved Snapshot Callback Output

namespace Passage

variable (passage : Passage Snapshot Callback Output)

/-- The transition of what the threads share, if the move is an event. -/
def transition? : Option (Transition Snapshot Callback Output) :=
  match passage.move with
  | .event event => some ⟨passage.before.shared, event, passage.after.shared⟩
  | _ => none

/-- The requests that began to wait for the worker. -/
def sent : List (Request Snapshot Callback) :=
  passage.transition?.toList.flatMap Transition.sent

/-- The requests whose callback the dispatcher accepted. -/
def posted : List (Answered Snapshot Callback Output) :=
  passage.transition?.toList.flatMap Transition.posted

/-- The callbacks that began. -/
def callbacks : List (CallbackRun Snapshot Callback Output) :=
  passage.transition?.toList.flatMap Transition.callbacks

/-- The requests whose analyzer call began. -/
def analyses : List (Request Snapshot Callback) :=
  match passage.move with
  | .call => passage.before.beginning?.toList
  | _ => passage.transition?.toList.flatMap Transition.analyses

section Event

variable (before after : Interleaved Snapshot Callback Output)
  (event : Event Snapshot Callback Output)

@[simp]
theorem sent_event : (Passage.mk before (.event event) after).sent =
    (Transition.mk before.shared event after.shared).sent :=
  List.flatMap_singleton _ _

@[simp]
theorem posted_event : (Passage.mk before (.event event) after).posted =
    (Transition.mk before.shared event after.shared).posted :=
  List.flatMap_singleton _ _

@[simp]
theorem callbacks_event : (Passage.mk before (.event event) after).callbacks =
    (Transition.mk before.shared event after.shared).callbacks :=
  List.flatMap_singleton _ _

@[simp]
theorem analyses_event : (Passage.mk before (.event event) after).analyses =
    (Transition.mk before.shared event after.shared).analyses :=
  List.flatMap_singleton _ _

end Event

end Passage

namespace Interleaved

open Completion (endAll)

/-- The passages of a run, for as long as its moves are possible. -/
def trace (threads : Interleaved Snapshot Callback Output) :
    List (Move Snapshot Callback Output) → List (Passage Snapshot Callback Output)
  | [] => []
  | move :: rest =>
      match threads.step move with
      | none => []
      | some next => ⟨threads, move, next⟩ :: next.trace rest

/-- The requests that are sent in a run. -/
def sentOf (threads : Interleaved Snapshot Callback Output)
    (moves : List (Move Snapshot Callback Output)) : List (Request Snapshot Callback) :=
  (threads.trace moves).flatMap Passage.sent

/-- The requests that are posted to the UI thread in a run. -/
def postedOf (threads : Interleaved Snapshot Callback Output)
    (moves : List (Move Snapshot Callback Output)) : List (Answered Snapshot Callback Output) :=
  (threads.trace moves).flatMap Passage.posted

/-- The callbacks that begin in a run. -/
def callbacksOf (threads : Interleaved Snapshot Callback Output)
    (moves : List (Move Snapshot Callback Output)) :
    List (CallbackRun Snapshot Callback Output) :=
  (threads.trace moves).flatMap Passage.callbacks

/-- The analyzer calls that begin in a run. -/
def analysesOf (threads : Interleaved Snapshot Callback Output)
    (moves : List (Move Snapshot Callback Output)) : List (Request Snapshot Callback) :=
  (threads.trace moves).flatMap Passage.analyses

/-- What one move can do. -/
inductive Rule (threads : Interleaved Snapshot Callback Output) :
    Move Snapshot Callback Output → Interleaved Snapshot Callback Output → Prop where
  | event {event : Event Snapshot Callback Output} {next : Scheduler Snapshot Callback Output}
      (admitted : threads.admits event = true) (step : threads.shared.step event = some next) :
      Rule threads (.event event) { threads with shared := next }
  | skipped {request : Request Snapshot Callback} (between : threads.worker = .between)
      (holding : threads.shared.worker = .holding request)
      (cancelled : threads.shared.cancelled = true) :
      Rule threads .publish { threads with
        shared := { threads.shared with
          completions := endAll .aborted [request.id] threads.shared.completions
          stats := if (threads.shared.outcome? request.id).isSome then threads.shared.stats
            else threads.shared.stats.addAborted
          worker := .clearing true } }
  | published {request : Request Snapshot Callback} (between : threads.worker = .between)
      (holding : threads.shared.worker = .holding request)
      (uncancelled : threads.shared.cancelled = false) :
      Rule threads .publish { threads with
        shared := { threads.shared with
          inFlight := some request.id
          worker := .executing request }
        worker := .published }
  | marked (published : threads.worker = .published) :
      Rule threads .mark { threads with
        shared := { threads.shared with busy := true }
        worker := .marked }
  | counted (marked : threads.worker = .marked) :
      Rule threads .count { threads with
        shared := { threads.shared with stats := threads.shared.stats.addExecuted }
        worker := .counted }
  | called (counted : threads.worker = .counted) :
      Rule threads .call { threads with worker := .between }
  | looked {request : Request Snapshot Callback} {analysis : Analysis Output}
      (between : threads.worker = .between)
      (delivering : threads.shared.worker = .delivering request analysis) :
      Rule threads .look { threads with
        worker := .looked (!request.reason.alwaysDelivered && !threads.shared.cancelled) }
  | superseded {request : Request Snapshot Callback} {analysis : Analysis Output}
      (looked : threads.worker = .looked true)
      (delivering : threads.shared.worker = .delivering request analysis)
      (outdone : threads.shared.mailbox.contains request.reason.lane = true) :
      Rule threads .decide { threads with
        shared := { threads.shared with
          completions := endAll .superseded [request.id] threads.shared.completions
          stats := if (threads.shared.outcome? request.id).isSome then threads.shared.stats
            else threads.shared.stats.addSuperseded
          worker := .clearing false }
        worker := .between }
  | lost {droppable : Bool} {request : Request Snapshot Callback} {analysis : Analysis Output}
      (looked : threads.worker = .looked droppable)
      (delivering : threads.shared.worker = .delivering request analysis)
      (wanted : (droppable && threads.shared.mailbox.contains request.reason.lane) = false)
      (lost : (threads.shared.outcome? request.id).isSome) :
      Rule threads .decide { threads with
        shared := { threads.shared with worker := .clearing false }
        worker := .between }
  | completed {droppable : Bool} {request : Request Snapshot Callback}
      {analysis : Analysis Output} (looked : threads.worker = .looked droppable)
      (delivering : threads.shared.worker = .delivering request analysis)
      (wanted : (droppable && threads.shared.mailbox.contains request.reason.lane) = false)
      (pending : threads.shared.outcome? request.id = none) :
      Rule threads .decide { threads with
        shared := { threads.shared with
          completions := endAll (.completed analysis) [request.id] threads.shared.completions
          stats := threads.shared.stats.addDelivered
          worker := .posting request analysis }
        worker := .between }
  | fired (between : threads.shutdown = .between) (running : threads.shared.lifecycle = .running) :
      Rule threads .fire { threads with
        shared := { threads.shared with lifecycle := .stopped, cancelled := true }
        shutdown := .fired }
  | drained (fired : threads.shutdown = .fired) :
      Rule threads .drain { threads with
        shared := { threads.shared with mailbox := ⟨some .terminate, none⟩ }
        shutdown := .draining threads.shared.waiting 0 }
  | aborted {request : Request Snapshot Callback} {requests : List (Request Snapshot Callback)}
      {aborted : Nat} (draining : threads.shutdown = .draining (request :: requests) aborted) :
      Rule threads .abort { threads with
        shared := { threads.shared with
          completions := endAll .aborted [request.id] threads.shared.completions
          stats := if (threads.shared.outcome? request.id).isSome then threads.shared.stats
            else threads.shared.stats.addAborted }
        shutdown := .draining requests
          (aborted + if (threads.shared.outcome? request.id).isSome then 0 else 1) }
  | awaits {aborted : Nat} (draining : threads.shutdown = .draining [] aborted) :
      Rule threads .await { threads with
        shared := { threads.shared with closing := some aborted }
        shutdown := .between }

variable {threads before after final : Interleaved Snapshot Callback Output}
  {move : Move Snapshot Callback Output} {moves later : List (Move Snapshot Callback Output)}

theorem rule_of_publish (step : before.publish = some after) : before.Rule .publish after := by
  unfold publish at step
  split at step
  · next request between holding =>
    split at step
    · next cancelled =>
      cases step
      rw [Scheduler.conclude_eq]
      exact .skipped between holding cancelled
    · next uncancelled =>
      cases step
      exact .published between holding (by simpa using uncancelled)
  · cases step

theorem rule_of_decide (step : before.decide = some after) : before.Rule .decide after := by
  unfold decide at step
  split at step
  · next droppable request analysis looked delivering =>
    cases step
    split
    · next outdone =>
      rw [Bool.and_eq_true] at outdone
      rw [Scheduler.conclude_eq]
      exact .superseded (by rw [looked, outdone.1]) delivering outdone.2
    · next wanted =>
      rw [Bool.not_eq_true] at wanted
      split
      · next lost => exact .lost looked delivering wanted lost
      · next pending =>
        rw [Scheduler.conclude_eq, if_neg pending]
        exact .completed looked delivering wanted (Option.not_isSome_iff_eq_none.mp pending)
  · cases step

/-- A possible move follows one of the rules. -/
theorem rule_of_step (step : before.step move = some after) : before.Rule move after := by
  cases move with
  | event event =>
    simp only [Interleaved.step] at step
    split at step
    · next admitted =>
      rcases Option.map_eq_some_iff.mp step with ⟨next, stepped, rfl⟩
      exact .event admitted stepped
    · cases step
  | publish => exact rule_of_publish step
  | mark =>
    simp only [Interleaved.step, mark] at step
    split at step
    · next published =>
      cases step
      exact .marked published
    · cases step
  | count =>
    simp only [Interleaved.step, count] at step
    split at step
    · next marked =>
      cases step
      exact .counted marked
    · cases step
  | call =>
    simp only [Interleaved.step, call] at step
    split at step
    · next counted =>
      cases step
      exact .called counted
    · cases step
  | look =>
    simp only [Interleaved.step, look] at step
    split at step
    · next between delivering =>
      cases step
      exact .looked between delivering
    · cases step
  | decide => exact rule_of_decide step
  | fire =>
    simp only [Interleaved.step, fire] at step
    split at step
    · next between running =>
      cases step
      exact .fired between running
    · cases step
  | drain =>
    simp only [Interleaved.step, drain] at step
    split at step
    · next fired =>
      cases step
      exact .drained fired
    · cases step
  | abort =>
    simp only [Interleaved.step, Interleaved.abort] at step
    split at step
    · next request requests aborted draining =>
      cases step
      rw [Scheduler.abort, Scheduler.conclude_eq]
      exact .aborted draining
    · cases step
  | await =>
    simp only [Interleaved.step, await] at step
    split at step
    · next aborted draining =>
      cases step
      exact .awaits draining
    · cases step

theorem run_append (threads : Interleaved Snapshot Callback Output)
    (moves later : List (Move Snapshot Callback Output)) :
    threads.run (moves ++ later) = (threads.run moves).bind fun next => next.run later := by
  induction moves generalizing threads with
  | nil => rfl
  | cons move rest ih =>
    simp only [List.cons_append, run]
    cases threads.step move with
    | none => rfl
    | some next => exact ih next

theorem trace_append (run : threads.run moves = some before) :
    threads.trace (moves ++ later) = threads.trace moves ++ before.trace later := by
  induction moves generalizing threads with
  | nil =>
    cases run
    rfl
  | cons move rest ih =>
    simp only [Interleaved.run, List.cons_append, trace] at run ⊢
    cases step : threads.step move with
    | none => simp [step] at run
    | some next =>
      rw [step] at run
      simp only [List.cons_append, ih run]

theorem map_move_trace (run : threads.run moves = some final) :
    (threads.trace moves).map Passage.move = moves := by
  induction moves generalizing threads with
  | nil => rfl
  | cons move rest ih =>
    simp only [Interleaved.run, trace] at run ⊢
    cases step : threads.step move with
    | none => simp [step] at run
    | some next =>
      rw [step] at run
      simp only [List.map_cons, ih run]

/-- A passage splits the run it is in. -/
theorem exists_split_of_mem {passage : Passage Snapshot Callback Output}
    (run : threads.run moves = some final) (member : passage ∈ threads.trace moves) :
    ∃ past rest, threads.run past = some passage.before ∧
      passage.before.step passage.move = some passage.after ∧ passage.after.run rest = some final ∧
      threads.trace moves = threads.trace past ++ passage :: passage.after.trace rest := by
  induction moves generalizing threads with
  | nil => cases member
  | cons move rest ih =>
    simp only [Interleaved.run, trace] at run member ⊢
    cases step : threads.step move with
    | none => simp [step] at run
    | some next =>
      rw [step] at run
      simp only [step, List.mem_cons] at member
      rcases member with rfl | member
      · exact ⟨[], rest, rfl, step, run, rfl⟩
      · rcases ih run member with ⟨past, later, before, stepped, after, traces⟩
        refine ⟨move :: past, later, ?_, stepped, after, ?_⟩
        · rw [Interleaved.run, step]
          exact before
        · simp only [traces, trace, step, List.cons_append]

/-- Induction along a run, with the passages so far. -/
theorem run_induction
    {motive : List (Passage Snapshot Callback Output) → Interleaved Snapshot Callback Output → Prop}
    (start : motive [] threads)
    (advance : ∀ past before move after, motive past before → before.step move = some after →
      motive (past ++ [⟨before, move, after⟩]) after)
    (run : threads.run moves = some final) : motive (threads.trace moves) final := by
  suffices general : ∀ past, motive past threads → motive (past ++ threads.trace moves) final by
    simpa using general [] start
  clear start
  induction moves generalizing threads with
  | nil =>
    intro past holds
    cases run
    simpa [trace] using holds
  | cons move rest ih =>
    intro past holds
    simp only [Interleaved.run, trace] at run ⊢
    cases step : threads.step move with
    | none => simp [step] at run
    | some next =>
      rw [step] at run
      have rest := ih run (past ++ [⟨threads, move, next⟩])
        (advance past threads move next holds step)
      rwa [List.append_assoc] at rest

end Interleaved

end EditorAnalysis
