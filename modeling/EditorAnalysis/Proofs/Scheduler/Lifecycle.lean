import EditorAnalysis.Proofs.Lane.Slots
import EditorAnalysis.Proofs.Scheduler.Rule

/-!
# The life of a scheduler

A scheduler is idle, then running, then stopped, and what the worker and the queue can be depends on
that. `Scheduler.Orderly` collects these facts. They need no knowledge of requests and are proved
first, by cases on the rules; the proofs about requests use them where a rule is possible only in
one part of the life.
-/

namespace EditorAnalysis

variable {Snapshot Callback Output : Type}

namespace Scheduler

/-- What the parts of a scheduler are in each part of its life. -/
structure Orderly (scheduler : Scheduler Snapshot Callback Output) : Prop where
  proper : scheduler.mailbox.Proper
  unstarted : scheduler.lifecycle = .idle →
    scheduler.worker = .unstarted ∧ scheduler.mailbox.toList = [] ∧ scheduler.inFlight = none
  uncancelled : scheduler.lifecycle ≠ .stopped →
    scheduler.cancelled = false ∧ scheduler.closing = none ∧
      Job.terminate ∉ scheduler.mailbox.toList
  fired : scheduler.lifecycle = .stopped →
    scheduler.cancelled = true ∨ scheduler.worker = .unstarted ∧ scheduler.inFlight = none

variable {scheduler next : Scheduler Snapshot Callback Output}
  {event : Event Snapshot Callback Output}

theorem orderly_new (config : Config) (sufficient : Reason → Bool) :
    (new config sufficient : Scheduler Snapshot Callback Output).Orderly where
  proper := LaneSlots.proper_empty
  unstarted _ := ⟨rfl, rfl, rfl⟩
  uncancelled _ := ⟨rfl, rfl, by simp [new, LaneSlots.toList]⟩
  fired stopped := by cases stopped

/-- Only a shutdown waits for the worker. -/
theorem Orderly.stopped_of_closing {count : Nat} (orderly : scheduler.Orderly)
    (closing : scheduler.closing = some count) : scheduler.lifecycle = .stopped := by
  apply Decidable.byContradiction
  intro open_
  simp [(orderly.uncancelled open_).2.1] at closing

/-- What an orderly scheduler keeps when only its worker moves on and its marks change. -/
theorem Orderly.ofWorker (orderly : scheduler.Orderly)
    (mailbox : next.mailbox = scheduler.mailbox) (lifecycle : next.lifecycle = scheduler.lifecycle)
    (cancelled : next.cancelled = scheduler.cancelled) (closing : next.closing = scheduler.closing)
    (started : scheduler.worker ≠ .unstarted) : next.Orderly where
  proper := by rw [mailbox]; exact orderly.proper
  unstarted idle := by
    rw [lifecycle] at idle
    exact absurd (orderly.unstarted idle).1 started
  uncancelled open_ := by
    rw [lifecycle] at open_
    rw [cancelled, closing, mailbox]
    exact orderly.uncancelled open_
  fired stopped := by
    rw [lifecycle] at stopped
    rw [cancelled]
    rcases orderly.fired stopped with fired | ⟨never, _⟩
    · exact .inl fired
    · exact absurd never started

/-- Letting a request in keeps order: the queue stays proper, and a worker is there from now on. -/
theorem Orderly.enqueued {request : Request Snapshot Callback}
    {pushed : Pushed (Job Snapshot Callback)} {mailbox : LaneSlots (Job Snapshot Callback)}
    (orderly : scheduler.Orderly) (open_ : scheduler.lifecycle ≠ .stopped)
    (pushes : scheduler.mailbox.push (.analyze request) = (pushed, mailbox))
    (mailboxNext : next.mailbox = mailbox) (running : next.lifecycle = .running)
    (cancelled : next.cancelled = scheduler.cancelled)
    (closing : next.closing = scheduler.closing) : next.Orderly where
  proper := by
    have pushProper := LaneSlots.proper_push (.analyze request) orderly.proper
    rw [pushes] at pushProper
    rw [mailboxNext]
    exact pushProper
  unstarted idle := by simp [running] at idle
  uncancelled _ := by
    rcases orderly.uncancelled open_ with ⟨uncancelled, notClosing, noTerminate⟩
    rw [cancelled, closing, mailboxNext]
    refine ⟨uncancelled, notClosing, ?_⟩
    intro terminateMem
    have perm := LaneSlots.push_perm (Job.analyze request) orderly.proper
    rw [pushes] at perm
    have old := perm.mem_iff.mp (List.mem_append_left pushed.displaced terminateMem)
    rcases List.mem_cons.mp old with impossible | old
    · cases impossible
    · exact noTerminate old
  fired stopped := by simp [running] at stopped

/-- Taking a job out keeps order. -/
theorem Orderly.received {job : Job Snapshot Callback}
    {mailbox : LaneSlots (Job Snapshot Callback)} (orderly : scheduler.Orderly)
    (receiving : scheduler.worker = .receiving)
    (pops : scheduler.mailbox.pop = (some job, mailbox)) (mailboxNext : next.mailbox = mailbox)
    (lifecycle : next.lifecycle = scheduler.lifecycle)
    (cancelled : next.cancelled = scheduler.cancelled)
    (closing : next.closing = scheduler.closing) : next.Orderly where
  proper := by
    have popProper := LaneSlots.proper_pop orderly.proper
    rw [pops] at popProper
    rw [mailboxNext]
    exact popProper
  unstarted idle := by
    rw [lifecycle] at idle
    have never := (orderly.unstarted idle).1
    simp [receiving] at never
  uncancelled open_ := by
    rw [lifecycle] at open_
    rcases orderly.uncancelled open_ with ⟨uncancelled, notClosing, noTerminate⟩
    rw [cancelled, closing, mailboxNext]
    refine ⟨uncancelled, notClosing, ?_⟩
    intro terminateMem
    apply noTerminate
    rw [LaneSlots.toList_of_pop_some pops]
    exact List.mem_cons_of_mem _ terminateMem
  fired stopped := by
    rw [lifecycle] at stopped
    rw [cancelled]
    rcases orderly.fired stopped with fired | ⟨never, _⟩
    · exact .inl fired
    · simp [receiving] at never

theorem Orderly.of_rule (orderly : scheduler.Orderly) (rule : scheduler.Rule event next) :
    next.Orderly := by
  cases rule with
  | started idle =>
    rcases orderly.unstarted idle with ⟨_, empty, _⟩
    rcases orderly.uncancelled (by simp [idle]) with ⟨uncancelled, notClosing, noTerminate⟩
    exact ⟨orderly.proper, by simp, fun _ => ⟨uncancelled, notClosing, noTerminate⟩, by simp⟩
  | enqueued found open_ pushes => exact orderly.enqueued open_ pushes rfl rfl rfl rfl
  | polled looping => exact orderly.ofWorker rfl rfl rfl rfl (by simp [looping])
  | receivedNone receiving pops =>
    exact orderly.ofWorker (LaneSlots.toList_of_pop_none pops) rfl rfl rfl (by simp [receiving])
  | receivedTerminate receiving pops => exact orderly.received receiving pops rfl rfl rfl rfl
  | receivedRequest receiving pops => exact orderly.received receiving pops rfl rfl rfl rfl
  | skipped holding => exact orderly.ofWorker rfl rfl rfl rfl (by simp [holding])
  | began holding => exact orderly.ofWorker rfl rfl rfl rfl (by simp [holding])
  | answered executing => exact orderly.ofWorker rfl rfl rfl rfl (by simp [executing])
  | failed executing => exact orderly.ofWorker rfl rfl rfl rfl (by simp [executing])
  | gaveUp executing => exact orderly.ofWorker rfl rfl rfl rfl (by simp [executing])
  | recordFaulted recording => exact orderly.ofWorker rfl rfl rfl rfl (by simp [recording])
  | recorded recording => exact orderly.ofWorker rfl rfl rfl rfl (by simp [recording])
  | superseded delivering => exact orderly.ofWorker rfl rfl rfl rfl (by simp [delivering])
  | lost delivering => exact orderly.ofWorker rfl rfl rfl rfl (by simp [delivering])
  | completed delivering => exact orderly.ofWorker rfl rfl rfl rfl (by simp [delivering])
  | posted posting => exact orderly.ofWorker rfl rfl rfl rfl (by simp [posting])
  | dropped posting => exact orderly.ofWorker rfl rfl rfl rfl (by simp [posting])
  | cleared clearing => exact orderly.ofWorker rfl rfl rfl rfl (by simp [clearing])
  | neverStarted idle =>
    rcases orderly.unstarted idle with ⟨never, _, unpublished⟩
    exact ⟨orderly.proper, by simp, by simp, fun _ => .inr ⟨never, unpublished⟩⟩
  | stopping => exact ⟨LaneSlots.proper_single _, by simp, by simp, fun _ => .inl rfl⟩
  | joined closing =>
    have stopped := orderly.stopped_of_closing closing
    exact ⟨orderly.proper, by simp [stopped], by simp [stopped], orderly.fired⟩
  | gaveUpNothing closing =>
    have stopped := orderly.stopped_of_closing closing
    exact ⟨orderly.proper, by simp [stopped], by simp [stopped], orderly.fired⟩
  | gaveUpRequest closing =>
    have stopped := orderly.stopped_of_closing closing
    refine ⟨orderly.proper, by simp [stopped], by simp [stopped], fun _ => ?_⟩
    rcases orderly.fired stopped with fired | ⟨never, _⟩
    · exact .inl fired
    · exact .inr ⟨never, rfl⟩
  | _ => exact ⟨orderly.proper, orderly.unstarted, orderly.uncancelled, orderly.fired⟩

theorem stopped_of_rule (stopped : scheduler.lifecycle = .stopped) (rule : scheduler.Rule event next) :
    next.lifecycle = .stopped := by
  cases rule with
  | startAgain running => exact stopped
  | started idle => simp [stopped] at idle
  | enqueued found open_ => exact absurd stopped open_
  | neverStarted | stopping => rfl
  | _ => exact stopped

theorem closing_of_rule {count : Nat} (stopped : scheduler.lifecycle = .stopped)
    (rule : scheduler.Rule event next) (closing : next.closing = some count) :
    scheduler.closing = some count := by
  cases rule with
  | stopping running => simp [stopped] at running
  | joined | gaveUpNothing | gaveUpRequest => cases closing
  | _ => exact closing

theorem cancelled_of_rule (cancelled : scheduler.cancelled = true) (rule : scheduler.Rule event next) :
    next.cancelled = true := by
  cases rule with
  | stopping => rfl
  | _ => exact cancelled

/-- A scheduler that is stopped lets no job into its queue. -/
theorem mailbox_of_stopped (stopped : scheduler.lifecycle = .stopped)
    (rule : scheduler.Rule event next) : next.mailbox = scheduler.mailbox ∨
      event = .workerReceive ∧ ∃ job, scheduler.mailbox.pop = (some job, next.mailbox) := by
  cases rule with
  | enqueued found open_ => exact absurd stopped open_
  | receivedNone receiving pops => exact .inl (LaneSlots.toList_of_pop_none pops)
  | receivedTerminate receiving pops => exact .inr ⟨rfl, _, pops⟩
  | receivedRequest receiving pops => exact .inr ⟨rfl, _, pops⟩
  | stopping running => simp [stopped] at running
  | _ => exact .inl rfl

/-- Once the scheduler is stopped no request waits. -/
def Emptied (scheduler : Scheduler Snapshot Callback Output) : Prop :=
  scheduler.lifecycle = .stopped → Job.requestIds scheduler.mailbox.toList = []

theorem emptied_new (config : Config) (sufficient : Reason → Bool) :
    (new config sufficient : Scheduler Snapshot Callback Output).Emptied := nofun

theorem Emptied.of_rule (emptied : scheduler.Emptied) (orderly : scheduler.Orderly)
    (rule : scheduler.Rule event next) : next.Emptied := by
  cases rule with
  | started | enqueued => exact nofun
  | receivedNone receiving pops =>
    intro stopped
    rw [LaneSlots.toList_of_pop_none pops]
    exact emptied stopped
  | receivedTerminate receiving pops =>
    intro stopped
    have empty := emptied stopped
    rwa [LaneSlots.toList_of_pop_some pops] at empty
  | receivedRequest receiving pops =>
    intro stopped
    have empty := emptied stopped
    rw [LaneSlots.toList_of_pop_some pops] at empty
    cases empty
  | neverStarted idle =>
    intro _
    rw [(orderly.unstarted idle).2.1]
    rfl
  | stopping => exact fun _ => rfl
  | _ => exact emptied

end Scheduler

end EditorAnalysis
