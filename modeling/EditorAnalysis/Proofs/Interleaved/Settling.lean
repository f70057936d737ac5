import EditorAnalysis.Proofs.Interleaved.Draining

/-!
# The request that is in flight when a shutdown comes

A shutdown waits for the worker, and gives it up if that takes too long.

* As long as the shutdown has not given the worker up, `Settling` says how far the worker has got with
  the request that it had published. Its token has fired, and so a worker that looks now does not drop
  the result for what waits.
* Once the worker is given up with a request that has no outcome, it is `Harmless`: it holds nothing
  but that request, which is aborted by then, and nobody sees what it does.
-/

namespace EditorAnalysis

variable {Snapshot Callback Output : Type}

/-- The outcome that the worker gives a request after its analyzer call. -/
def Verdict.outcome : Verdict Output → Outcome Output
  | .ready analysis => .completed analysis
  | .failed => .abandoned
  | .cancelled => .aborted

/-- What the analyzer call for the worker's request came to, if it is over. -/
def Worker.verdict? : Worker Snapshot Callback Output → Option (Verdict Output)
  | .recording _ analysis | .delivering _ analysis | .posting _ analysis => some (.ready analysis)
  | _ => none

namespace Move

/-- What the analyzer call on the worker came to, if it ends in this move. -/
def verdict? : Move Snapshot Callback Output → Option (Verdict Output)
  | .event (.workerAnswer execution) => some execution.verdict
  | _ => none

/-- Neither the version source nor the dispatcher raises an exception in a move of the worker. -/
def Steady : Move Snapshot Callback Output → Prop
  | .event (.workerRecord (.error _) _) => False
  | .event (.workerPost accepted) => accepted = true
  | _ => True

/-- The move is one of the worker. -/
def isWorker : Move Snapshot Callback Output → Bool
  | .event whole => whole.isWorker
  | .publish | .mark | .count | .call | .look | .decide => true
  | .fire | .drain | .abort | .await => false

end Move

/-- The request the worker has published, if it has no outcome. -/
def Scheduler.unsettled (scheduler : Scheduler Snapshot Callback Output) : List RequestId :=
  scheduler.inFlight.toList.filter fun id => (scheduler.outcome? id).isNone

namespace Interleaved

/-- A shutdown is on its way or waits for the worker. -/
def Attended (threads : Interleaved Snapshot Callback Output) : Prop :=
  threads.shutdown ≠ .between ∨ threads.shared.closing ≠ none

/-- The worker goes back to the head of its loop or has left it. -/
def Leaving (threads : Interleaved Snapshot Callback Output) : Prop :=
  threads.shared.worker = .looping ∨ threads.shared.worker = .exited ∨
    ∃ leaves, threads.shared.worker = .clearing leaves

/-- How far the worker has got with the request that was in flight when a shutdown came, given what
its analyzer call came to and what was posted since. -/
inductive Settling (request : Request Snapshot Callback) (verdicts : List (Verdict Output))
    (posted : List (Answered Snapshot Callback Output))
    (threads : Interleaved Snapshot Callback Output) : Prop where
  | executing (executing : threads.shared.worker = .executing request) (open_ : verdicts = [])
  | recording {analysis : Analysis Output}
      (recording : threads.shared.worker = .recording request analysis)
      (ready : verdicts = [.ready analysis])
  | delivering {analysis : Analysis Output}
      (delivering : threads.shared.worker = .delivering request analysis)
      (ready : verdicts = [.ready analysis]) (keeps : threads.worker ≠ .looked true)
  | posting {analysis : Analysis Output}
      (posting : threads.shared.worker = .posting request analysis)
      (ready : verdicts = [.ready analysis])
  | settled {verdict : Verdict Output} (only : verdicts = [verdict]) (leaving : threads.Leaving)
      (outcome : threads.shared.outcome? request.id = some verdict.outcome)
      (handed : ∀ analysis, verdict = .ready analysis → ⟨request, analysis⟩ ∈ posted)

/-- The worker holds nothing but a request that has an outcome. -/
inductive Harmless (threads : Interleaved Snapshot Callback Output) : Prop where
  | executing {request : Request Snapshot Callback}
      (executing : threads.shared.worker = .executing request)
      (settled : (threads.shared.outcome? request.id).isSome)
  | recording {request : Request Snapshot Callback} {analysis : Analysis Output}
      (recording : threads.shared.worker = .recording request analysis)
      (settled : (threads.shared.outcome? request.id).isSome)
  | delivering {request : Request Snapshot Callback} {analysis : Analysis Output}
      (delivering : threads.shared.worker = .delivering request analysis)
      (settled : (threads.shared.outcome? request.id).isSome)
  | leaving (leaving : threads.Leaving)

/-- Nobody sees anything of a move, but for the count of a call that is about to be made. -/
structure Silent (passage : Passage Snapshot Callback Output) : Prop where
  completions : passage.after.shared.completions = passage.before.shared.completions
  stats : passage.after.shared.stats = passage.before.shared.stats ∨
    passage.move = .count ∧
      passage.after.shared.stats = passage.before.shared.stats.addExecuted
  ui : passage.after.shared.ui = passage.before.shared.ui
  posted : passage.posted = []

variable {threads before after start final : Interleaved Snapshot Callback Output}
  {event : Event Snapshot Callback Output} {move : Move Snapshot Callback Output}
  {moves later : List (Move Snapshot Callback Output)} {sent : List (Request Snapshot Callback)}
  {request : Request Snapshot Callback} {verdicts : List (Verdict Output)}
  {posted all : List (Answered Snapshot Callback Output)}

/-- A shutdown that is not over was on its way before. -/
theorem attended_of_step (stopped : before.shared.lifecycle = .stopped)
    (step : before.step move = some after) (attended : after.Attended) : before.Attended := by
  cases rule_of_step step with
  | event admitted stepped =>
    rcases attended with midway | waits
    · exact .inl midway
    · rcases Option.ne_none_iff_exists'.mp waits with ⟨count, closing⟩
      have closing := Scheduler.closing_of_rule stopped (Scheduler.rule_of_step stepped) closing
      exact .inr (by simp [closing])
  | fired between running => simp [stopped] at running
  | drained point | aborted point | awaits point => exact .inl (by simp [point])
  | _ => exact attended

theorem Attended.closing_whole (attended : threads.Attended) : threads.whole.closing ≠ none := by
  cases shutdown : threads.shutdown with
  | between => simpa [whole, Attended, shutdown] using attended
  | fired | draining => simp [whole, shutdown]

/-- As long as the worker is not given up, its mark is on the request it is concerned with. -/
theorem Known.marked {id : RequestId} {phase : WorkPhase Output} (known : Known sent threads)
    (attended : threads.Attended)
    (works : threads.shared.worker.work? = some (id, phase)) :
    id < threads.shared.completions.length ∧ threads.shared.outcome? id = phase.outcome? true := by
  rw [← worker_whole] at works
  have stands := known.sound.marked works fun _ => attended.closing_whole
  have born := of_decide_eq_true (congrArg View.born stands)
  have recorded := congrArg View.outcome stands
  rw [completions_whole] at born
  rw [outcome_view_whole] at recorded
  exact ⟨born, recorded⟩

/-- A worker that goes back after its token has fired only clears its marks and leaves. -/
theorem Leaving.work {next : Scheduler Snapshot Callback Output} (leaving : before.Leaving)
    (cancelled : before.shared.cancelled = true) (works : event.isWorker = true)
    (rule : before.shared.Rule event next) :
    (event = .workerPoll ∨ event = .workerClear) ∧
      (∃ inFlight busy worker, next = { before.shared with inFlight, busy, worker }) ∧
      ({ before with shared := next } : Interleaved _ _ _).Leaving := by
  unfold Leaving at leaving ⊢
  cases rule with
  | polled looping => exact ⟨.inl rfl, ⟨_, _, _, rfl⟩, .inr (.inl (by simp [cancelled]))⟩
  | @cleared leaves clearing =>
    exact ⟨.inr rfl, ⟨_, _, _, rfl⟩, by cases leaves <;> simp⟩
  | refused submits | faulted submits | openedRecent submits | openedInline submits
  | openedQueued submits => simp [submits.isWorker_eq_false] at works
  | _ => simp_all [Event.isWorker]

section Settling

/-- A move that leaves the worker alone. -/
theorem Settling.kept (settling : Settling request verdicts posted before)
    (known : Known sent before) (step : before.step move = some after)
    (worker : after.shared.worker = before.shared.worker)
    (keeps : before.worker ≠ .looked true → after.worker ≠ .looked true)
    (more : posted ⊆ all) : Settling request verdicts all after := by
  cases settling with
  | executing executing open_ => exact .executing (worker.trans executing) open_
  | recording recording ready => exact .recording (worker.trans recording) ready
  | delivering delivering ready point =>
    exact .delivering (worker.trans delivering) ready (keeps point)
  | posting posting ready => exact .posting (worker.trans posting) ready
  | settled only leaving outcome handed =>
    refine .settled only ?_ (known.outcome?_of_step step outcome) ?_
    · unfold Leaving
      rwa [worker]
    · intro analysis ready
      exact more (handed analysis ready)

/-- An event of the worker takes the request in flight further. -/
theorem Settling.work {next : Scheduler Snapshot Callback Output}
    (settling : Settling request verdicts posted before) (known : Known sent before)
    (cancelled : before.shared.cancelled = true) (attended : before.Attended)
    (steady : (Move.event event).Steady) (admitted : before.admits event = true)
    (works : event.isWorker = true) (rule : before.shared.Rule event next)
    (step : before.step (.event event) = some { before with shared := next }) :
    Settling request (verdicts ++ (Move.event event).verdict?.toList)
      (posted ++ (Transition.mk before.shared event next).posted)
      { before with shared := next } := by
  cases settling with
  | executing executing open_ =>
    rcases known.marked attended (by rw [executing]; rfl) with ⟨born, pending⟩
    rcases rule.of_executing works executing
      with ⟨execution, rfl, ⟨analysis, ready, rfl⟩ | ⟨failed, rfl⟩ | ⟨gaveUp, rfl⟩⟩
    · exact .recording rfl (by simp [open_, Move.verdict?, ready])
    · refine .settled (by simp [open_, Move.verdict?, failed]; rfl) (.inr (.inr ⟨_, rfl⟩)) ?_
        (by simp)
      exact Scheduler.outcome?_of_ended rfl (List.mem_singleton_self _) born pending
    · refine .settled (by simp [open_, Move.verdict?, gaveUp]; rfl) (.inr (.inr ⟨_, rfl⟩)) ?_
        (by simp)
      exact Scheduler.outcome?_of_ended rfl (List.mem_singleton_self _) born pending
  | recording recording ready =>
    rcases rule.of_recording works recording
      with ⟨reading, now, rfl, ⟨payload, fault, rfl⟩ | ⟨recorded, records, rfl⟩⟩
    · cases Scheduler.recordResult_eq_error fault
      cases steady
    · have point : before.worker = .between := by simpa [admits] using admitted
      exact .delivering rfl (by simp [ready, Move.verdict?]) (by simp [point])
  | delivering delivering ready point =>
    cases (rule.of_delivering works delivering).1
    cases admitted
  | @posting analysis posting ready =>
    have completed : before.shared.outcome? request.id = some (Verdict.ready analysis).outcome :=
      (known.marked attended (by rw [posting]; rfl)).2
    rcases rule.of_posting works posting with ⟨rfl, rfl⟩ | ⟨rfl, rfl⟩
    · refine .settled (by simpa [Move.verdict?] using ready) (.inr (.inr ⟨_, rfl⟩)) completed ?_
      intro analysis same
      cases same
      simp [Transition.posted, posting]
    · cases steady
  | settled only leaving outcome handed =>
    rcases leaving.work cancelled works rule with ⟨goesBack, _, still⟩
    have silent : (Move.event event).verdict? = none := by rcases goesBack with rfl | rfl <;> rfl
    refine .settled (by simpa [silent] using only) still (known.outcome?_of_step step outcome) ?_
    intro analysis ready
    exact List.mem_append_left _ (handed analysis ready)

/-- A move while a shutdown is on its way or waits takes the request in flight further. -/
theorem Settling.step (settling : Settling request verdicts posted before)
    (known : Known sent before) (stopped : before.shared.lifecycle = .stopped)
    (cancelled : before.shared.cancelled = true) (attended : before.Attended)
    (steady : move.Steady) (step : before.step move = some after) :
    Settling request (verdicts ++ move.verdict?.toList)
      (posted ++ (Passage.mk before move after).posted) after := by
  have kept (silent : move.verdict? = none)
      (worker : after.shared.worker = before.shared.worker)
      (keeps : before.worker ≠ .looked true → after.worker ≠ .looked true) :
      Settling request (verdicts ++ move.verdict?.toList)
        (posted ++ (Passage.mk before move after).posted) after := by
    simp only [silent, Option.toList_none, List.append_nil]
    exact settling.kept known step worker keeps (List.subset_append_left _ _)
  cases rule_of_step step with
  | @event event next admitted stepped =>
    have rule := Scheduler.rule_of_step stepped
    cases works : event.isWorker with
    | true =>
      rw [Passage.posted_event]
      exact settling.work known cancelled attended steady admitted works rule step
    | false =>
      apply kept ?_ (Scheduler.worker_of_rule rule works (by simp [stopped])) id
      cases event <;> first | rfl | cases works
  | skipped between holding cancelled =>
    cases settling with
    | settled only leaving => simp [Leaving, holding] at leaving
    | _ => simp_all
  | published between holding uncancelled => simp [cancelled] at uncancelled
  | marked | counted | called => exact kept rfl rfl (fun _ => nofun)
  | looked => exact kept rfl rfl (by simp [cancelled])
  | superseded looked delivering =>
    cases settling with
    | delivering same ready keeps => exact absurd looked keeps
    | settled only leaving => simp [Leaving, delivering] at leaving
    | _ => simp_all
  | lost looked delivering wanted lost =>
    have pending := (known.marked attended (by rw [delivering]; rfl)).2
    simp [pending, WorkPhase.outcome?] at lost
  | completed looked delivering wanted pending =>
    cases settling with
    | delivering same ready keeps =>
      cases delivering.symm.trans same
      exact .posting rfl (by simp [ready, Move.verdict?])
    | settled only leaving => simp [Leaving, delivering] at leaving
    | _ => simp_all
  | fired between running => simp [stopped] at running
  | drained | aborted | awaits => exact kept rfl rfl id

end Settling

section Harmless

/-- Nobody sees anything of an event of a harmless worker, which stays harmless. -/
theorem Harmless.work {next : Scheduler Snapshot Callback Output} (harmless : before.Harmless)
    (cancelled : before.shared.cancelled = true) (admitted : before.admits event = true)
    (works : event.isWorker = true) (rule : before.shared.Rule event next) :
    Silent ⟨before, .event event, { before with shared := next }⟩ ∧
      ({ before with shared := next } : Interleaved _ _ _).Harmless := by
  have silent (posts : (Transition.mk before.shared event next).posted = [])
      (completions : next.completions = before.shared.completions)
      (stats : next.stats = before.shared.stats) (ui : next.ui = before.shared.ui) :
      Silent ⟨before, .event event, { before with shared := next }⟩ :=
    ⟨completions, .inl stats, ui, (Passage.posted_event _ _ _).trans posts⟩
  cases harmless with
  | @executing request executing settled =>
    have same (outcome : Outcome Output) :
        Completion.endAll outcome [request.id] before.shared.completions =
          before.shared.completions :=
      Completion.modify_finish_of_recorded outcome settled
    rcases rule.of_executing works executing
      with ⟨execution, rfl, ⟨analysis, ready, rfl⟩ | ⟨failed, rfl⟩ | ⟨gaveUp, rfl⟩⟩
    · exact ⟨silent rfl rfl rfl rfl, .recording rfl settled⟩
    · exact ⟨silent rfl (same _) (if_pos settled) rfl, .leaving (.inr (.inr ⟨_, rfl⟩))⟩
    · exact ⟨silent rfl (same _) (if_pos settled) rfl, .leaving (.inr (.inr ⟨_, rfl⟩))⟩
  | recording recording settled =>
    rcases rule.of_recording works recording
      with ⟨reading, now, rfl, ⟨payload, fault, rfl⟩ | ⟨recorded, records, rfl⟩⟩
    · exact ⟨silent rfl (Completion.modify_finish_of_recorded _ settled) rfl rfl,
        .leaving (.inr (.inr ⟨_, rfl⟩))⟩
    · exact ⟨silent rfl rfl rfl rfl, .delivering rfl settled⟩
  | delivering delivering settled =>
    cases (rule.of_delivering works delivering).1
    cases admitted
  | leaving leaving =>
    rcases leaving.work cancelled works rule with ⟨goesBack, ⟨inFlight, busy, worker, rfl⟩, still⟩
    rcases goesBack with rfl | rfl <;> exact ⟨silent rfl rfl rfl rfl, .leaving still⟩

/-- A move that leaves the worker alone. -/
theorem Harmless.kept (harmless : before.Harmless) (known : Known sent before)
    (step : before.step move = some after) (worker : after.shared.worker = before.shared.worker) :
    after.Harmless := by
  have kept {id : RequestId} (settled : (before.shared.outcome? id).isSome) :
      (after.shared.outcome? id).isSome := by
    rcases Option.isSome_iff_exists.mp settled with ⟨outcome, settled⟩
    rw [known.outcome?_of_step step settled]
    rfl
  cases harmless with
  | executing executing settled => exact .executing (worker.trans executing) (kept settled)
  | recording recording settled => exact .recording (worker.trans recording) (kept settled)
  | delivering delivering settled => exact .delivering (worker.trans delivering) (kept settled)
  | leaving leaving =>
    refine .leaving ?_
    unfold Leaving
    rwa [worker]

/-- Nobody sees anything of the moves of a harmless worker, which stays harmless. -/
theorem Harmless.step (harmless : before.Harmless) (known : Known sent before)
    (stopped : before.shared.lifecycle = .stopped) (cancelled : before.shared.cancelled = true)
    (step : before.step move = some after) :
    (move.isWorker = true → Silent ⟨before, move, after⟩) ∧ after.Harmless := by
  have still (same : after.shared.worker = before.shared.worker) := harmless.kept known step same
  cases rule_of_step step with
  | @event event next admitted stepped =>
    have rule := Scheduler.rule_of_step stepped
    cases works : event.isWorker with
    | true =>
      rcases harmless.work cancelled admitted works rule with ⟨silent, harmless⟩
      exact ⟨fun _ => silent, harmless⟩
    | false =>
      refine ⟨?_, still (Scheduler.worker_of_rule rule works (by simp [stopped]))⟩
      intro worker
      simp [Move.isWorker, works] at worker
  | skipped between holding =>
    cases harmless with
    | leaving leaving => simp [Leaving, holding] at leaving
    | _ => simp_all
  | published between holding uncancelled => simp [cancelled] at uncancelled
  | marked | called | looked => exact ⟨fun _ => ⟨rfl, .inl rfl, rfl, rfl⟩, still rfl⟩
  | counted => exact ⟨fun _ => ⟨rfl, .inr ⟨rfl, rfl⟩, rfl, rfl⟩, still rfl⟩
  | superseded looked delivering =>
    cases harmless with
    | delivering same settled =>
      cases delivering.symm.trans same
      have completions := Completion.modify_finish_of_recorded .superseded settled
      exact ⟨fun _ => ⟨completions, .inl (if_pos settled), rfl, rfl⟩,
        .leaving (.inr (.inr ⟨_, rfl⟩))⟩
    | leaving leaving => simp [Leaving, delivering] at leaving
    | _ => simp_all
  | lost => exact ⟨fun _ => ⟨rfl, .inl rfl, rfl, rfl⟩, .leaving (.inr (.inr ⟨_, rfl⟩))⟩
  | completed looked delivering wanted pending =>
    cases harmless with
    | delivering same settled =>
      cases delivering.symm.trans same
      simp [pending] at settled
    | leaving leaving => simp [Leaving, delivering] at leaving
    | _ => simp_all
  | fired between running => simp [stopped] at running
  | drained | aborted | awaits => exact ⟨nofun, still rfl⟩

end Harmless

end Interleaved

end EditorAnalysis
