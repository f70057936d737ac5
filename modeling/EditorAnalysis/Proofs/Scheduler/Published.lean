import EditorAnalysis.Proofs.Scheduler.Stage

/-!
# The worker's mark

The worker publishes the request it begins and clears the mark when it is done. A forced shutdown
reads the mark to find the request it has to abort. `Scheduler.Published` says that the mark can be
relied upon: as long as a shutdown may still come or waits, the request the worker is concerned with
is marked.
-/

namespace EditorAnalysis

variable {Snapshot Callback Output : Type}

namespace Scheduler

/-- How the worker and its mark belong together. A mark is on the request the worker is concerned
with or is about to be cleared, and only a forced shutdown leaves the worker with a request it no
longer marks. -/
structure Published (scheduler : Scheduler Snapshot Callback Output) : Prop where
  concerned : ∀ id, scheduler.inFlight = some id →
    (∃ phase, scheduler.worker.work? = some (id, phase)) ∨
      ∃ leaves, scheduler.worker = .clearing leaves
  marked : ∀ id phase, scheduler.worker.work? = some (id, phase) →
    scheduler.inFlight = some id ∨ scheduler.lifecycle = .stopped ∧ scheduler.closing = none

variable {scheduler next : Scheduler Snapshot Callback Output}
  {event : Event Snapshot Callback Output}

theorem published_new (config : Config) (sufficient : Reason → Bool) :
    (new config sufficient : Scheduler Snapshot Callback Output).Published where
  concerned _ marked := by cases marked
  marked _ _ works := by cases works

theorem Published.unmarked (published : scheduler.Published) (idle : scheduler.worker.work? = none)
    (notClearing : ∀ leaves, scheduler.worker ≠ .clearing leaves) : scheduler.inFlight = none := by
  cases marked : scheduler.inFlight with
  | none => rfl
  | some id =>
    rcases published.concerned id marked with ⟨phase, works⟩ | ⟨leaves, clearing⟩
    · simp [idle] at works
    · exact absurd clearing (notClearing leaves)

/-- The worker goes on with the request it is concerned with. -/
theorem Published.goesOn {id : RequestId} {phase later : WorkPhase Output}
    (published : scheduler.Published) (works : scheduler.worker.work? = some (id, phase))
    (goesOn : next.worker.work? = some (id, later)) (inFlight : next.inFlight = scheduler.inFlight)
    (lifecycle : next.lifecycle = scheduler.lifecycle)
    (closing : next.closing = scheduler.closing) : next.Published where
  concerned target marked := by
    rw [inFlight] at marked
    rcases published.concerned target marked with ⟨present, concerned⟩ | ⟨leaves, clearing⟩
    · rw [works] at concerned
      cases concerned
      exact .inl ⟨later, goesOn⟩
    · simp [clearing, Worker.work?] at works
  marked target present concerned := by
    rw [goesOn] at concerned
    cases concerned
    rw [inFlight, lifecycle, closing]
    exact published.marked id phase works

/-- The worker is done with the request it is concerned with. -/
theorem Published.done {leaves : Bool} (done : next.worker = .clearing leaves) : next.Published where
  concerned _ _ := .inr ⟨leaves, done⟩
  marked _ _ works := by simp [done, Worker.work?] at works

/-- The worker is concerned with no request. -/
theorem Published.atRest (unmarked : next.inFlight = none) (rests : next.worker.work? = none) :
    next.Published where
  concerned _ marked := by simp [unmarked] at marked
  marked _ _ works := by simp [rests] at works

theorem Published.of_rule (published : scheduler.Published) (orderly : scheduler.Orderly)
    (rule : scheduler.Rule event next) : next.Published := by
  have rested (rests : scheduler.worker.work? = none)
      (notClearing : ∀ leaves, scheduler.worker ≠ .clearing leaves) : scheduler.inFlight = none :=
    published.unmarked rests notClearing
  cases rule with
  | started idle =>
    rcases orderly.unstarted idle with ⟨_, _, unmarked⟩
    exact .atRest unmarked rfl
  | enqueued found open_ pushes =>
    by_cases idle : scheduler.lifecycle = .idle
    · rcases orderly.unstarted idle with ⟨_, _, unmarked⟩
      exact .atRest unmarked (by simp [idle, Worker.work?])
    · refine ⟨by simpa [idle] using published.concerned, ?_⟩
      intro id phase works
      simp only [if_neg idle] at works
      rcases published.marked id phase works with here | ⟨stopped, _⟩
      · exact .inl here
      · exact absurd stopped open_
  | polled looping =>
    refine .atRest (rested (by simp [looping, Worker.work?]) (by simp [looping])) ?_
    cases cancelled : scheduler.cancelled <;> simp [Worker.work?]
  | receivedNone receiving =>
    exact .atRest (rested (by simp [receiving, Worker.work?]) (by simp [receiving])) rfl
  | receivedTerminate receiving =>
    exact .atRest (rested (by simp [receiving, Worker.work?]) (by simp [receiving])) rfl
  | receivedRequest receiving =>
    exact .atRest (rested (by simp [receiving, Worker.work?]) (by simp [receiving])) rfl
  | skipped holding => exact .done rfl
  | began holding uncancelled => exact ⟨by simp [Worker.work?], by simp [Worker.work?]⟩
  | answered executing => exact published.goesOn (by rw [executing]; rfl) rfl rfl rfl rfl
  | failed executing => exact .done rfl
  | gaveUp executing => exact .done rfl
  | recordFaulted recording => exact .done rfl
  | recorded recording => exact published.goesOn (by rw [recording]; rfl) rfl rfl rfl rfl
  | superseded delivering => exact .done rfl
  | lost delivering => exact .done rfl
  | completed delivering => exact published.goesOn (by rw [delivering]; rfl) rfl rfl rfl rfl
  | posted posting => exact .done rfl
  | dropped posting => exact .done rfl
  | @cleared leaves clearing =>
    exact .atRest rfl (by cases leaves <;> rfl)
  | neverStarted idle =>
    rcases orderly.unstarted idle with ⟨never, _, unmarked⟩
    exact .atRest unmarked (by simp [never, Worker.work?])
  | stopping running =>
    refine ⟨published.concerned, ?_⟩
    intro id phase works
    rcases published.marked id phase works with here | ⟨stopped, _⟩
    · exact .inl here
    · simp [running] at stopped
  | joined closing exited =>
    refine .atRest (rested ?_ ?_) ?_ <;> simp [exited, Worker.work?]
  | gaveUpNothing closing =>
    have stopped := orderly.stopped_of_closing closing
    exact ⟨published.concerned, fun _ _ _ => .inr ⟨stopped, rfl⟩⟩
  | gaveUpRequest closing =>
    have stopped := orderly.stopped_of_closing closing
    exact ⟨by simp, fun _ _ _ => .inr ⟨stopped, rfl⟩⟩
  | _ => exact ⟨published.concerned, published.marked⟩

end Scheduler

end EditorAnalysis
