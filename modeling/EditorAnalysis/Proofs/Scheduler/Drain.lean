import EditorAnalysis.Proofs.Scheduler.Coalescing

/-!
# The worker left to itself

When nothing goes wrong and nothing else enters the queue, the worker gets through with what waits.
Each of its steps lessens `Scheduler.stepsLeft`, and a worker at work always has a next step.
-/

namespace EditorAnalysis

variable {Snapshot Callback Output : Type}

/-- No request enters the queue and no shutdown comes; the worker's analyzer calls return an
analysis, and the version source raises no exception in its steps. -/
def Event.Calm : Event Snapshot Callback Output → Prop
  | .enqueue _ _ | .shutdown => False
  | .workerAnswer execution => ∃ analysis, execution.verdict = .ready analysis
  | .workerRecord reading _ => ∃ version, reading = .ok version
  | _ => True

theorem Event.Calm.ne_shutdown {event : Event Snapshot Callback Output} (calm : event.Calm) :
    event ≠ .shutdown := by
  rintro rfl
  exact calm

theorem Event.Calm.ne_enqueue {event : Event Snapshot Callback Output} (calm : event.Calm)
    (id : RequestId) (launch : Launch) :
    event ≠ .enqueue id launch := by
  rintro rfl
  exact calm

namespace Worker

/-- The worker runs and is not about to leave. -/
def AtWork : Worker Snapshot Callback Output → Prop
  | .unstarted | .clearing true | .exited => False
  | _ => True

/-- A bound on the steps until the worker looks for a job or has left. -/
def stepsLeft : Worker Snapshot Callback Output → Nat
  | .unstarted | .exited => 0
  | .receiving => 1
  | .looping => 2
  | .clearing _ => 3
  | .posting _ _ => 4
  | .delivering _ _ => 5
  | .recording _ _ => 6
  | .executing _ => 7
  | .holding _ => 8

end Worker

namespace Scheduler

/-- A bound on the steps in which the worker is through with everything that waits. -/
def stepsLeft (scheduler : Scheduler Snapshot Callback Output) : Nat :=
  9 * scheduler.waiting.length + scheduler.worker.stepsLeft

variable {scheduler before after : Scheduler Snapshot Callback Output}
  {event : Event Snapshot Callback Output}

/-- As long as nothing goes wrong the worker stays at work. -/
theorem Sound.atWork_of_rule (sound : before.Sound) (running : before.lifecycle = .running)
    (atWork : before.worker.AtWork) (calm : event.Calm) (rule : before.Rule event after) :
    after.worker.AtWork := by
  rcases sound.orderly.uncancelled (by simp [running]) with ⟨uncancelled, _, noTerminate⟩
  cases rule with
  | started | receivedNone | receivedRequest | began | answered | recorded | superseded | lost
  | completed | posted | dropped => exact trivial
  | enqueued => exact calm.elim
  | polled looping =>
    simp only [uncancelled]
    exact trivial
  | receivedTerminate receiving pops =>
    rw [LaneSlots.toList_of_pop_some pops] at noTerminate
    exact absurd List.mem_cons_self noTerminate
  | skipped holding cancelled => simp [uncancelled] at cancelled
  | failed executing failed =>
    rcases calm with ⟨analysis, ready⟩
    simp [failed] at ready
  | gaveUp executing gaveUp =>
    rcases calm with ⟨analysis, ready⟩
    simp [gaveUp] at ready
  | recordFaulted => exact trivial
  | @cleared leaves clearing =>
    rw [clearing] at atWork
    cases leaves with
    | true => exact atWork.elim
    | false => exact trivial
  | _ => exact atWork

/-- The next step of the worker, with the answers it would get from its collaborators. -/
def nextWork (scheduler : Scheduler Snapshot Callback Output) (execution : Execution Output)
    (reading : Attempt Version) : Event Snapshot Callback Output :=
  match scheduler.worker with
  | .receiving => .workerReceive
  | .holding _ => .workerBegin
  | .executing _ => .workerAnswer execution
  | .recording _ _ => .workerRecord reading 0
  | .delivering _ _ => .workerDeliver
  | .posting _ _ => .workerPost true
  | .clearing _ => .workerClear
  | _ => .workerPoll

theorem isWorker_nextWork (execution : Execution Output) (reading : Attempt Version) :
    (scheduler.nextWork execution reading).isWorker = true := by
  cases worker : scheduler.worker <;> simp [nextWork, worker, Event.isWorker]

/-- A worker at work can go on, whatever its collaborators answer. -/
theorem isSome_step_nextWork (execution : Execution Output) (reading : Attempt Version)
    (atWork : scheduler.worker.AtWork) :
    (scheduler.step (scheduler.nextWork execution reading)).isSome := by
  cases worker : scheduler.worker with
  | unstarted | exited => simp [worker, Worker.AtWork] at atWork
  | looping => simp [nextWork, worker, step, workerPoll]
  | receiving => simp [nextWork, worker, step, workerReceive]
  | holding request =>
    simp only [nextWork, worker, step, workerBegin]
    split <;> rfl
  | executing request =>
    simp only [nextWork, worker, step, workerAnswer]
    split <;> rfl
  | recording request analysis =>
    simp only [nextWork, worker, step, workerRecord]
    split <;> rfl
  | delivering request analysis =>
    simp only [nextWork, worker, step, workerDeliver]
    split
    · rfl
    · split <;> rfl
  | posting request analysis => simp [nextWork, worker, step, workerPost]
  | clearing leaves => simp [nextWork, worker, step, workerClear]

/-- A worker at work can take a step in which nothing goes wrong. -/
theorem exists_step (atWork : scheduler.worker.AtWork) :
    ∃ event : Event Snapshot Callback Output, event.Calm ∧ event.isWorker = true ∧
      (scheduler.step event).isSome := by
  have calm : (scheduler.nextWork (.ok (.ok ⟨none, {}, false⟩)) (.ok {})).Calm := by
    cases worker : scheduler.worker <;>
      simp [nextWork, worker, Event.Calm, Execution.verdict]
  exact ⟨_, calm, isWorker_nextWork _ _, isSome_step_nextWork _ _ atWork⟩

theorem stepsLeft_lt {worker next : Worker Snapshot Callback Output}
    (mailbox : after.mailbox = before.mailbox) (was : before.worker = worker)
    (now : after.worker = next) (nearer : next.stepsLeft < worker.stepsLeft) :
    after.stepsLeft < before.stepsLeft := by
  rw [stepsLeft, stepsLeft, waiting_of_mailbox mailbox, was, now]
  omega

/-- Every step of the worker brings it nearer to rest. -/
theorem Orderly.stepsLeft_of_rule (orderly : before.Orderly) (rule : before.Rule event after)
    (works : event.isWorker = true)
    (unfinished : before.worker.request? ≠ none ∨ before.waiting ≠ []) :
    after.stepsLeft < before.stepsLeft := by
  cases rule with
  | polled looping =>
    refine stepsLeft_lt rfl looping rfl ?_
    cases before.cancelled <;> simp [Worker.stepsLeft]
  | receivedNone receiving pops =>
    have empty : before.waiting = [] := by
      rw [waiting, LaneSlots.toList_eq_nil_of_pop_none orderly.proper pops]
      rfl
    simp [receiving, empty, Worker.request?] at unfinished
  | @receivedTerminate mailbox receiving pops =>
    have queue : before.waiting = mailbox.toList.filterMap Job.request? := by
      rw [waiting, LaneSlots.toList_of_pop_some pops]
      rfl
    rw [stepsLeft, stepsLeft, receiving, queue]
    exact Nat.lt_succ_self _
  | @receivedRequest mailbox request receiving pops =>
    have queue : before.waiting = request :: mailbox.toList.filterMap Job.request? :=
      congrArg (List.filterMap Job.request?) (LaneSlots.toList_of_pop_some pops)
    rw [stepsLeft, stepsLeft, receiving, queue, List.length_cons]
    change 9 * (mailbox.toList.filterMap Job.request?).length + 8 < 9 * (_ + 1) + 1
    omega
  | skipped holding | began holding =>
    exact stepsLeft_lt rfl holding rfl (by simp [Worker.stepsLeft])
  | answered executing | failed executing | gaveUp executing =>
    exact stepsLeft_lt rfl executing rfl (by simp [Worker.stepsLeft])
  | recorded recording | recordFaulted recording =>
    exact stepsLeft_lt rfl recording rfl (by simp [Worker.stepsLeft])
  | superseded delivering | lost delivering | completed delivering =>
    exact stepsLeft_lt rfl delivering rfl (by simp [Worker.stepsLeft])
  | posted posting | dropped posting =>
    exact stepsLeft_lt rfl posting rfl (by simp [Worker.stepsLeft])
  | @cleared leaves clearing =>
    refine stepsLeft_lt rfl clearing rfl ?_
    cases leaves <;> simp [Worker.stepsLeft]
  | refused submits | faulted submits | openedRecent submits | openedInline submits
  | openedQueued submits => simp [submits.isWorker_eq_false] at works
  | _ => cases works

/-- From any state of a worker at work it can get through with everything that waits, since each step
it takes lessens the number of those that are left. -/
theorem Sound.exists_drain (sound : scheduler.Sound) (running : scheduler.lifecycle = .running)
    (atWork : scheduler.worker.AtWork) :
    ∃ drain final, scheduler.run drain = some final ∧ (∀ event ∈ drain, event.Calm) ∧
      final.worker.request? = none ∧ final.waiting = [] := by
  generalize left : scheduler.stepsLeft = steps
  induction steps using Nat.strongRecOn generalizing scheduler with
  | ind steps ih =>
    by_cases finished : scheduler.worker.request? = none ∧ scheduler.waiting = []
    · exact ⟨[], scheduler, rfl, (fun event member => by cases member), finished⟩
    · rcases exists_step atWork with ⟨event, calm, works, possible⟩
      rcases Option.isSome_iff_exists.mp possible with ⟨next, step⟩
      have rule := rule_of_step step
      have nearer := sound.orderly.stepsLeft_of_rule rule works
        (Decidable.not_and_iff_not_or_not.mp finished)
      rcases ih next.stepsLeft (left ▸ nearer) (sound.of_rule rule)
        (running_of_rule rule running calm.ne_shutdown)
        (sound.atWork_of_rule running atWork calm rule) rfl with ⟨drain, final, run, calmly, rests⟩
      refine ⟨event :: drain, final, ?_, ?_, rests⟩
      · rw [Scheduler.run, step, Option.bind_some, run]
      · intro other member
        rcases List.mem_cons.mp member with rfl | later
        · exact calm
        · exact calmly other later

end Scheduler

end EditorAnalysis
