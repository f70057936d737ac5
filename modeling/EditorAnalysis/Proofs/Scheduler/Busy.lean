import EditorAnalysis.Proofs.Scheduler.Advance

/-!
# The busy mark

The worker marks itself busy before it calls the analyzer and takes the mark down when it is done
with the request. Nobody else writes it: a submission that calls the analyzer on its own thread
leaves no mark. So a tick of the idle loop is held back by what the worker does and by what waits
for it, and not by an analyzer call on a submitting thread.
-/

namespace EditorAnalysis

variable {Snapshot Callback Output : Type}

namespace Scheduler

/-- The busy mark tells whether the worker is concerned with a request it has begun, unless it is
about to be taken down. -/
def Flagged (scheduler : Scheduler Snapshot Callback Output) : Prop :=
  (∀ leaves, scheduler.worker ≠ .clearing leaves) →
    scheduler.busy = scheduler.worker.work?.isSome

variable {scheduler next : Scheduler Snapshot Callback Output}
  {event : Event Snapshot Callback Output}

theorem flagged_new (config : Config) (sufficient : Reason → Bool) :
    (new config sufficient : Scheduler Snapshot Callback Output).Flagged :=
  fun _ => rfl

/-- The worker begins a request or goes on with one. -/
theorem flagged_of_work (busy : next.busy = true) (works : next.worker.work?.isSome) :
    next.Flagged := by
  intro _
  rw [busy, works]

/-- The worker is done with a request, and its mark is about to be taken down. -/
theorem flagged_of_clearing {leaves : Bool} (done : next.worker = .clearing leaves) :
    next.Flagged :=
  fun notClearing => absurd done (notClearing leaves)

/-- The worker is concerned with no request it has begun. -/
theorem flagged_of_rest (unmarked : next.busy = false) (rests : next.worker.work? = none) :
    next.Flagged := by
  intro _
  rw [unmarked, rests]
  rfl

theorem Flagged.of_rule (flagged : scheduler.Flagged) (orderly : scheduler.Orderly)
    (rule : scheduler.Rule event next) : next.Flagged := by
  have marked {worker : Worker Snapshot Callback Output} (there : scheduler.worker = worker)
      (notClearing : ∀ leaves, worker ≠ .clearing leaves) :
      scheduler.busy = worker.work?.isSome := by
    rw [← there] at notClearing ⊢
    exact flagged notClearing
  cases rule with
  | started idle =>
    rcases orderly.unstarted idle with ⟨unstarted, _, _⟩
    exact flagged_of_rest (marked unstarted (by simp)) rfl
  | enqueued found open_ pushes launched =>
    by_cases idle : scheduler.lifecycle = .idle
    · rcases orderly.unstarted idle with ⟨unstarted, _, _⟩
      exact flagged_of_rest (marked unstarted (by simp)) (by simp [idle, Worker.work?])
    · intro notClearing
      simp only [if_neg idle] at notClearing ⊢
      exact flagged notClearing
  | polled looping =>
    exact flagged_of_rest (marked looping (by simp))
      (by cases cancelled : scheduler.cancelled <;> simp [Worker.work?])
  | receivedNone receiving | receivedTerminate receiving | receivedRequest receiving =>
    exact flagged_of_rest (marked receiving (by simp)) rfl
  | began holding => exact flagged_of_work rfl rfl
  | answered works | recorded works | completed works =>
    exact flagged_of_work (marked works (by simp)) rfl
  | skipped | failed | gaveUp | recordFaulted | superseded | lost | posted | dropped =>
    exact flagged_of_clearing rfl
  | @cleared leaves => exact flagged_of_rest rfl (by cases leaves <;> rfl)
  | _ => exact flagged

theorem flagged_of_reachable (reachable : scheduler.Reachable) : scheduler.Flagged := by
  rcases reachable with ⟨config, sufficient, events, run⟩
  have along := run_preserves (motive := fun state => state.Sound ∧ state.Flagged)
    (fun _ _ _ known rule =>
      ⟨known.1.of_rule rule, known.2.of_rule known.1.orderly rule⟩)
    ⟨sound_new config sufficient, flagged_new config sufficient⟩ run
  exact along.2

/-- Unless the mark is about to be taken down, a scheduler is busy if and only if the worker is
concerned with a request it has begun or a job waits. -/
theorem isBusy_eq (reachable : scheduler.Reachable)
    (notClearing : ∀ leaves, scheduler.worker ≠ .clearing leaves) :
    scheduler.isBusy = (scheduler.worker.work?.isSome || !scheduler.mailbox.toList.isEmpty) := by
  rw [isBusy, flagged_of_reachable reachable notClearing,
    LaneSlots.isEmpty_eq (sound_of_reachable reachable).orderly.proper]

theorem isBusy_of_waiting (reachable : scheduler.Reachable) (waits : scheduler.waiting ≠ []) :
    scheduler.isBusy = true := by
  have jobs : scheduler.mailbox.toList ≠ [] := by
    intro empty
    simp [waiting, empty] at waits
  rw [isBusy, LaneSlots.isEmpty_eq (sound_of_reachable reachable).orderly.proper]
  simp [jobs]

theorem onIdle_of_isBusy {trigger : IdleTrigger Snapshot Callback} (busy : scheduler.isBusy = true)
    (refresh : trigger.needsRefresh = true) (reading : Attempt Version) (now : Instant) :
    scheduler.onIdle trigger reading now = ((.busy, none), scheduler) := by
  simp [onIdle, idleDecision, refresh, busy]

theorem onIdle_of_not_isBusy {trigger : IdleTrigger Snapshot Callback}
    (free : scheduler.isBusy = false) (refresh : trigger.needsRefresh = true)
    (reading : Attempt Version) (now : Instant) :
    (scheduler.onIdle trigger reading now).1.1 =
      if (scheduler.config.idleDelay scheduler.lastCompletion).le trigger.quiet then .submit
      else .waiting
        ((scheduler.config.idleDelay scheduler.lastCompletion).sub trigger.quiet) := by
  by_cases quiet : (scheduler.config.idleDelay scheduler.lastCompletion).le trigger.quiet <;>
    simp [onIdle, idleDecision, refresh, free, quiet]

/-- While the worker calls the analyzer or a request waits, a tick of the idle loop does nothing at
all. While the worker does nothing and nothing waits, the quiet period alone decides, whatever
analyzer calls there are on submitting threads. -/
theorem idle_suppressed (reachable : scheduler.Reachable)
    (trigger : IdleTrigger Snapshot Callback) (refresh : trigger.needsRefresh = true)
    (reading : Attempt Version) (now : Instant) :
    ((∃ request, scheduler.worker = .executing request) ∨ scheduler.waiting ≠ [] →
      scheduler.onIdle trigger reading now = ((.busy, none), scheduler) ∧
        scheduler.step (.idle trigger reading now) = some scheduler) ∧
    (scheduler.worker.work? = none → (∀ leaves, scheduler.worker ≠ .clearing leaves) →
      scheduler.mailbox.toList = [] →
      (scheduler.onIdle trigger reading now).1.1 =
        if (scheduler.config.idleDelay scheduler.lastCompletion).le trigger.quiet then .submit
        else .waiting
          ((scheduler.config.idleDelay scheduler.lastCompletion).sub trigger.quiet)) := by
  constructor
  · intro engaged
    have busy : scheduler.isBusy = true := by
      rcases engaged with ⟨request, executing⟩ | waits
      · rw [isBusy_eq reachable (by rw [executing]; exact nofun), executing]
        rfl
      · exact isBusy_of_waiting reachable waits
    have declined := onIdle_of_isBusy busy refresh reading now
    exact ⟨declined, by rw [Scheduler.step, declined]⟩
  · intro rests notClearing empty
    have free : scheduler.isBusy = false := by
      rw [isBusy_eq reachable notClearing, rests, empty]
      rfl
    exact onIdle_of_not_isBusy free refresh reading now

/-- A check that waits for the worker. -/
def waitingCheck : List (Event Unit Unit Unit) :=
  [.submit { source := ⟨"a"⟩, position := {}, reason := .fullTypeCheck, snapshot := () } (.ok {}) 0,
    .enqueue 0 .started]

/-- A goto on its submitting thread, inside the analyzer. -/
def inlineGoto : List (Event Unit Unit Unit) :=
  [.submit { source := ⟨"a"⟩, position := {}, reason := .goto, snapshot := (), synchronous := true }
    (.ok {}) 0]

/-- A tick five seconds after the last edit. -/
def lateTick : IdleTrigger Unit Unit where
  source := ⟨"a"⟩
  position := {}
  snapshot := ()
  quiet := .ofMillis 5000
  needsRefresh := true
  callback := none

theorem idle_suppressed_lateTick : ∃ waits works calls : Scheduler Unit Unit Unit,
    (new .default fun _ => false).run waitingCheck = some waits ∧
      waits.run [.workerPoll, .workerReceive, .workerBegin] = some works ∧
      (new .default fun _ => false).run inlineGoto = some calls ∧
      waits.onIdle lateTick (.ok {}) 0 = ((.busy, none), waits) ∧
      works.onIdle lateTick (.ok {}) 0 = ((.busy, none), works) ∧
      (calls.onIdle lateTick (.ok {}) 0).1.1 = .submit := by
  have waits : (new .default fun _ => false : Scheduler Unit Unit Unit).run waitingCheck =
    some _ := rfl
  have works : (new .default fun _ => false : Scheduler Unit Unit Unit).run
    (waitingCheck ++ [.workerPoll, .workerReceive, .workerBegin]) = some _ := rfl
  have calls : (new .default fun _ => false : Scheduler Unit Unit Unit).run inlineGoto =
    some _ := rfl
  have whileWaiting := (idle_suppressed ⟨_, _, _, waits⟩ lateTick rfl (.ok {}) 0).1
    (.inr (List.cons_ne_nil _ _))
  have whileWorking := (idle_suppressed ⟨_, _, _, works⟩ lateTick rfl (.ok {}) 0).1
    (.inl ⟨_, rfl⟩)
  have whileCalling := (idle_suppressed ⟨_, _, _, calls⟩ lateTick rfl (.ok {}) 0).2
    rfl nofun rfl
  exact ⟨_, _, _, waits, rfl, calls, whileWaiting.1, whileWorking.1, whileCalling⟩

/-- An analyzer call on a submitting thread does not hold the idle loop back. -/
theorem inlineGoto_ignored : ¬ ∀ scheduler : Scheduler Unit Unit Unit, scheduler.Reachable →
    scheduler.analyzing ≠ [] ∨ scheduler.waiting ≠ [] →
    ∀ (trigger : IdleTrigger Unit Unit) (reading : Attempt Version) (now : Instant),
      trigger.needsRefresh = true →
      scheduler.onIdle trigger reading now = ((.busy, none), scheduler) := by
  intro suppressed
  have calls : (new .default fun _ => false : Scheduler Unit Unit Unit).run inlineGoto =
    some _ := rfl
  have busy := suppressed _ ⟨_, _, _, calls⟩ (.inl (List.cons_ne_nil _ _)) lateTick (.ok {}) 0 rfl
  have decision := congrArg (fun ticked => ticked.1.1) busy
  exact absurd decision (by decide)

end Scheduler

end EditorAnalysis
