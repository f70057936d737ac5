import EditorAnalysis.Proofs.Scheduler.Advance
import EditorAnalysis.Proofs.Scheduler.Handles

/-!
# No request is lost and none is ended twice

`Scheduler.requests_accounted_for` is the balance of a scheduler, over every run. An outcome is
recorded once and for good; a request without one is in exactly one of three places, from where it
is bound to be ended; and so every handle is complete as soon as all three places are empty.

The balance is read off the stages. A stage without an outcome is one of four, and each of them is a
place.
-/

namespace EditorAnalysis

variable {Snapshot Callback Output : Type}

/-- A place where a request may be on its way to an outcome. -/
inductive Place where
  /-- It waits in the queue. -/
  | queue
  /-- The worker processes it. -/
  | worker
  /-- Its submission is still running. -/
  | submission
  deriving DecidableEq, Repr

namespace Scheduler

/-- The places where a request is, with one entry for each time it is there. -/
def places (scheduler : Scheduler Snapshot Callback Output) (id : RequestId) : List Place :=
  (scheduler.waiting.filter fun request => request.id == id).map (fun _ => .queue) ++
  (scheduler.worker.request?.toList.filter fun request => request.id == id).map
    (fun _ => .worker) ++
  (scheduler.calls.filter fun call => call.request.id == id).map fun _ => .submission

variable {scheduler : Scheduler Snapshot Callback Output}

theorem waiting_places (id : RequestId) :
    ((scheduler.waiting.filter fun request => request.id == id).map fun _ => Place.queue) =
      List.replicate (scheduler.view id).waiting .queue := by
  rw [List.map_const']
  congr 1
  rw [view, requestIds_mailbox, List.count_eq_countP, List.countP_map, List.countP_eq_length_filter]
  rfl

theorem worker_places (id : RequestId) :
    ((scheduler.worker.request?.toList.filter fun request => request.id == id).map
      fun _ => Place.worker) =
        if (scheduler.view id).held = true ∨ (scheduler.view id).worker.isSome then [.worker]
        else [] := by
  have concerned (request : Request Snapshot Callback) :
      (([request].filter fun request => request.id == id).map fun _ => Place.worker) =
        if request.id = id then [.worker] else [] := by
    by_cases here : request.id = id <;> simp [here]
  cases works : scheduler.worker with
  | holding request =>
    simpa [view, works, Worker.request?, Worker.held?, Worker.workOn, Worker.work?]
      using concerned request
  | executing request | recording request | delivering request | posting request =>
    by_cases here : request.id = id <;>
      simp [view, works, Worker.request?, Worker.held?, Worker.workOn, Worker.work?, here]
  | _ => simp [view, works, Worker.request?, Worker.held?, Worker.workOn, Worker.work?]

theorem submission_places (id : RequestId) :
    ((scheduler.calls.filter fun call => call.request.id == id).map fun _ => Place.submission) =
      (scheduler.view id).calls.map fun _ => .submission := by
  rw [view, callPhases, List.map_map]
  rfl

/-- The places of a request are those of its stage. -/
theorem places_eq {id : RequestId} {stage : Stage Output}
    (stands : scheduler.view id = stage.view) : scheduler.places id =
      List.replicate stage.view.waiting .queue ++
      (if stage.view.held = true ∨ stage.view.worker.isSome then [.worker] else []) ++
      stage.view.calls.map fun _ => .submission := by
  rw [places, waiting_places, worker_places, submission_places, stands]

/-- A request without an outcome is in exactly one place, once. -/
theorem Sound.exists_place {id : RequestId} (sound : scheduler.Sound)
    (born : id < scheduler.completions.length) (pending : scheduler.outcome? id = none) :
    ∃ place, scheduler.places id = [place] := by
  rcases sound.staged id with ⟨stage, stands⟩
  have stageBorn : stage.view.born = true := by
    rw [← stands]
    simpa [view] using born
  have stagePending : stage.outcome? = none := by
    rw [← Stage.outcome_view, ← stands]
    exact pending
  rw [places_eq stands]
  cases stage with
  | unborn => cases stageBorn
  | called phase => exact ⟨.submission, rfl⟩
  | waiting => exact ⟨.queue, rfl⟩
  | held => exact ⟨.worker, rfl⟩
  | worked phase marked => exact ⟨.worker, rfl⟩
  | posted analysis marked => cases stagePending
  | ended outcome marked => cases stagePending

end Scheduler

end EditorAnalysis
