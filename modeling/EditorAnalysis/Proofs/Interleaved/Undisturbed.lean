import EditorAnalysis.Proofs.Interleaved.Passage

/-!
# Steps that nobody interrupts

`Scheduler.step` takes as one step what `Interleaved.step` takes as several moves. If the moves of a
step follow each other at once they come to the same (`Interleaved.run_undisturbed`), and so every run
of the scheduler is a run of its threads (`Interleaved.exists_run`).
-/

namespace EditorAnalysis

variable {Snapshot Callback Output : Type}

namespace Interleaved

/-- A scheduler whose worker and whose shutdown are between two steps. -/
def atRest (scheduler : Scheduler Snapshot Callback Output) :
    Interleaved Snapshot Callback Output :=
  { shared := scheduler }

/-- The moves that make up a step. -/
def movesOf (scheduler : Scheduler Snapshot Callback Output) :
    Event Snapshot Callback Output → List (Move Snapshot Callback Output)
  | .workerBegin => if scheduler.cancelled then [.publish] else [.publish, .mark, .count, .call]
  | .workerDeliver => [.look, .decide]
  | .shutdown =>
      if scheduler.lifecycle = .running then
        .fire :: .drain :: (scheduler.waiting.map fun _ => .abort) ++ [.await]
      else [.event .shutdown]
  | event => [.event event]

variable {scheduler next final : Scheduler Snapshot Callback Output}
  {event : Event Snapshot Callback Output} {events : List (Event Snapshot Callback Output)}

theorem run_event (admitted : (atRest scheduler).admits event = true)
    (step : scheduler.step event = some next) :
    (atRest scheduler).run [.event event] = some (atRest next) := by
  have shared : (atRest scheduler).shared.step event = some next := step
  simp only [run, Interleaved.step, admitted, shared, if_true, Option.map_some, Option.bind_some]
  rfl

theorem run_begin (step : scheduler.step .workerBegin = some next) :
    (atRest scheduler).run (movesOf scheduler .workerBegin) = some (atRest next) := by
  simp only [Scheduler.step, Scheduler.workerBegin] at step
  split at step
  · next request holding =>
    cases cancelled : scheduler.cancelled <;> simp only [cancelled] at step <;> cases step <;>
      simp [movesOf, run, Interleaved.step, publish, mark, count, call, atRest, holding, cancelled]
  · cases step

theorem run_deliver (step : scheduler.step .workerDeliver = some next) :
    (atRest scheduler).run (movesOf scheduler .workerDeliver) = some (atRest next) := by
  simp only [Scheduler.step, Scheduler.workerDeliver] at step
  split at step
  · next request analysis delivering =>
    have decided : (atRest scheduler).run (movesOf scheduler .workerDeliver) =
        some (atRest (if scheduler.isOutdone request then
          { scheduler.conclude request.id .superseded Stats.addSuperseded with
            worker := .clearing false }
        else if (scheduler.outcome? request.id).isSome then
          { scheduler with worker := .clearing false }
        else
          { scheduler.conclude request.id (.completed analysis) Stats.addDelivered with
            worker := .posting request analysis })) := by
      simp [movesOf, run, Interleaved.step, look, decide, atRest, delivering, Scheduler.isOutdone]
    rw [decided]
    split at step
    · next outdone =>
      cases step
      rw [if_pos outdone]
    · next wanted =>
      rw [if_neg wanted]
      split at step
      · next lost =>
        cases step
        rw [if_pos lost]
      · next pending =>
        cases step
        rw [if_neg pending]
  · cases step

/-- A shutdown aborts all that it has drained. -/
theorem run_aborts (requests : List (Request Snapshot Callback)) (worker : WorkerPoint)
    (aborted : Nat) :
    run ⟨scheduler, worker, .draining requests aborted⟩ (requests.map fun _ => .abort) =
      let (count, shared) := requests.foldl
        (fun (count, next) request =>
          let (one, aborted) := Scheduler.abort next request.id
          (count + one, aborted))
        (aborted, scheduler)
      some ⟨shared, worker, .draining [] count⟩ := by
  induction requests generalizing scheduler aborted with
  | nil => rfl
  | cons request requests ih =>
    simp only [List.map_cons, run, Interleaved.step, Interleaved.abort, Option.bind_some,
      List.foldl_cons]
    exact ih _

/-- A shutdown that nobody interrupts. -/
theorem run_shutdown {threads : Interleaved Snapshot Callback Output}
    (between : threads.shutdown = .between) (running : threads.shared.lifecycle = .running) :
    threads.run (.fire :: .drain :: (threads.shared.waiting.map fun _ => .abort) ++ [.await]) =
      some { threads with shared := threads.shared.shutdown.2 } := by
  have fires : threads.step .fire = some { threads with
      shared := { threads.shared with lifecycle := .stopped, cancelled := true }
      shutdown := .fired } := by
    simp only [Interleaved.step, fire, between, running]
  have whole : threads.shared.shutdown.2 =
      let stopped := { threads.shared with
        lifecycle := .stopped
        cancelled := true
        mailbox := ⟨some .terminate, none⟩ }
      let (count, aborted) := stopped.abortJobs threads.shared.mailbox.toList
      { aborted with closing := some count } := by
    simp only [Scheduler.shutdown, running, LaneSlots.reset]
  rw [List.cons_append, run, fires, Option.bind_some, List.cons_append, run, Interleaved.step, drain,
    Option.bind_some, run_append]
  simp only [LaneSlots.reset]
  rw [Scheduler.waiting, run_aborts, whole]
  simp only [Scheduler.abortJobs, Option.bind_some, run, Interleaved.step, await, between]

/-- The moves of a step, one after the other, come to the step. -/
theorem run_undisturbed (step : scheduler.step event = some next) :
    (atRest scheduler).run (movesOf scheduler event) = some (atRest next) := by
  cases event with
  | workerBegin => exact run_begin step
  | workerDeliver => exact run_deliver step
  | shutdown =>
    cases step
    by_cases running : scheduler.lifecycle = .running
    · rw [movesOf, if_pos running]
      have between : (atRest scheduler).shutdown = .between := rfl
      exact run_shutdown between running
    · rw [movesOf, if_neg running]
      exact run_event (by simp [admits, isLocked, atRest, running]) rfl
  | _ => exact run_event (by simp [admits, isLocked, atRest]) step

/-- Every run of the scheduler is a run of its threads. -/
theorem exists_run (run : scheduler.run events = some final) :
    ∃ moves, (atRest scheduler).run moves = some (atRest final) := by
  induction events generalizing scheduler with
  | nil =>
    cases run
    exact ⟨[], rfl⟩
  | cons event events ih =>
    rcases Option.bind_eq_some_iff.mp run with ⟨next, step, rest⟩
    rcases ih rest with ⟨moves, later⟩
    refine ⟨movesOf scheduler event ++ moves, ?_⟩
    rw [run_append, run_undisturbed step, Option.bind_some, later]

end Interleaved

end EditorAnalysis
