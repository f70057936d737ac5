import EditorAnalysis.Proofs.Interleaved.Settling
import EditorAnalysis.Proofs.Scheduler.Callback

/-!
# A shutdown settles everything

A shutdown fires the token, drains the queue, aborts what it has drained and then waits for the worker,
which goes on in between. `Interleaved.shutdown_settles` says what becomes of every request that is
under way by then, at whatever points the worker and other threads come in. It puts together what the
shutdown does with the requests that wait (`Course`), what the worker does with the one it has published
(`Settling`), and that nobody sees anything of a worker that was given up (`Harmless`).

The decision on a result is the one thing that it leaves open: the worker may have looked at its token
before the shutdown fired it.
-/

namespace EditorAnalysis

variable {Snapshot Callback Output : Type}

namespace Scheduler

variable {scheduler final : Scheduler Snapshot Callback Output} {report : ShutdownReport}

theorem of_joinWorker (joins : scheduler.joinWorker = some (report, final)) :
    ∃ count, scheduler.closing = some count ∧ report = ⟨.completed, count⟩ ∧
      scheduler.worker = .exited ∧ final.completions = scheduler.completions := by
  unfold joinWorker at joins
  split at joins
  · next count closing exited =>
    cases joins
    exact ⟨count, closing, rfl, exited, rfl⟩
  · cases joins

theorem of_giveUpWorker (givesUp : scheduler.giveUpWorker = some (report, final)) :
    ∃ count, scheduler.closing = some count ∧
      report = ⟨.timedOut, count + scheduler.unsettled.length⟩ := by
  unfold giveUpWorker at givesUp
  split at givesUp
  · cases givesUp
  · next count closing =>
    refine ⟨count, closing, ?_⟩
    split at givesUp
    · cases givesUp
    · split at givesUp
      · next unpublished =>
        cases givesUp
        simp [unsettled, unpublished]
      · next id published =>
        cases givesUp
        have same : outcome? { scheduler with inFlight := none } id = scheduler.outcome? id := rfl
        cases outcome : scheduler.outcome? id <;> simp [unsettled, published, same, outcome]

/-- A published request without an outcome is inside the worker's analyzer call or right behind it. -/
theorem Sound.unfinished {count : Nat} {id : RequestId} (sound : scheduler.Sound)
    (closing : scheduler.closing = some count) (published : scheduler.inFlight = some id)
    (pending : scheduler.outcome? id = none) :
    ∃ request, request.id = id ∧ (scheduler.worker = .executing request ∨
      (∃ analysis, scheduler.worker = .recording request analysis) ∨
      ∃ analysis, scheduler.worker = .delivering request analysis) := by
  rcases sound.published.concerned id published with ⟨phase, works⟩ | ⟨leaves, clearing⟩
  · have stands := sound.marked works fun _ => by simp [closing]
    have recorded : scheduler.outcome? id = phase.outcome? true := congrArg View.outcome stands
    cases worker : scheduler.worker with
    | executing request =>
      rw [worker] at works
      cases works
      exact ⟨request, rfl, .inl rfl⟩
    | recording request analysis =>
      rw [worker] at works
      cases works
      exact ⟨request, rfl, .inr (.inl ⟨analysis, rfl⟩)⟩
    | delivering request analysis =>
      rw [worker] at works
      cases works
      exact ⟨request, rfl, .inr (.inr ⟨analysis, rfl⟩)⟩
    | posting request analysis =>
      rw [worker] at works
      cases works
      cases pending.symm.trans recorded
    | _ =>
      rw [worker] at works
      cases works
  · rcases sound.staged id with ⟨stage, stands⟩
    have marked : stage.view.marked = true := by
      rw [← stands]
      simp [view, published]
    have unworked : stage.view.worker = none := by
      rw [← stands]
      simp [view, clearing, Worker.workOn, Worker.work?]
    have recorded : scheduler.outcome? id = stage.outcome? := by
      rw [← Stage.outcome_view, ← stands]
      rfl
    rw [pending] at recorded
    rcases Stage.eq_left marked unworked with ⟨analysis, rfl⟩ | ⟨outcome, rfl⟩ <;> cases recorded

end Scheduler

namespace Interleaved

/-- The requests that wait when a shutdown comes, as they are divided up: the worker takes the first one
if it was about to take a job, and aborts it; the shutdown drains the others, and aborts and counts
them before it waits for the worker. -/
structure Divides (start present : Interleaved Snapshot Callback Output)
    (taken drained : List (Request Snapshot Callback)) : Prop where
  all : start.shared.waiting = taken ++ drained
  once : taken ≠ [] → taken.length = 1 ∧ start.shared.worker = .receiving
  away : ∀ request ∈ taken,
    present.shared.worker = .holding request ∨ present.shared.outcome? request.id = some .aborted
  aborted : present.shutdown = .between →
    ∀ request ∈ drained, present.shared.outcome? request.id = some .aborted
  counted : ∀ count, present.shared.closing = some count → count = drained.length

variable {threads fired before after present final last : Interleaved Snapshot Callback Output}
  {move : Move Snapshot Callback Output}
  {moves later afterwards : List (Move Snapshot Callback Output)}
  {sent : List (Request Snapshot Callback)} {request : Request Snapshot Callback}
  {config : Config} {sufficient : Reason → Bool}

theorem whole_of_between (between : threads.shutdown = .between) : threads.whole = threads.shared := by
  simp only [whole, between]

@[simp]
theorem callingBack_whole : threads.whole.callingBack = threads.shared.callingBack := by
  simp [Scheduler.callingBack]

@[simp]
theorem ui_whole : threads.whole.ui = threads.shared.ui := by
  unfold whole
  split <;> rfl

/-- A shutdown that waits for the worker is on its way no longer. -/
theorem Known.between_of_closing {count : Nat} (known : Known sent threads)
    (closing : threads.shared.closing = some count) : threads.shutdown = .between := by
  apply Classical.byContradiction
  intro midway
  simp [(known.underway midway).2.2] at closing

section Since

/-- Induction from the point where a shutdown fires the token. -/
theorem Known.since
    {motive : List (Passage Snapshot Callback Output) → Interleaved Snapshot Callback Output → Prop}
    (known : Known sent threads) (fires : threads.step .fire = some fired) (start : motive [] fired)
    (advance : ∀ {sent past before move after}, Known sent before →
      before.shared.lifecycle = .stopped → before.shared.cancelled = true → motive past before →
        before.step move = some after → motive (past ++ [⟨before, move, after⟩]) after)
    (run : fired.run later = some present) : motive (fired.trace later) present := by
  have course := course_of_fired fires
  have along := (known.step fires).induction
    (motive := fun past state => (state.shared.lifecycle = .stopped ∧
      state.shared.cancelled = true) ∧ motive past state)
    ⟨⟨course.stopped, course.cancelled⟩, start⟩ ?_ run
  · exact along.2.2
  · rintro past before move after known ⟨⟨stopped, cancelled⟩, holds⟩ step
    exact ⟨⟨stopped_of_step stopped step, cancelled_of_step cancelled step⟩,
      advance known stopped cancelled holds step⟩

theorem Known.course_run (known : Known sent threads) (fires : threads.step .fire = some fired)
    (run : fired.run later = some present) :
    ∃ taken done left, Course threads taken done left present :=
  known.since (motive := fun _ state => ∃ taken done left, Course threads taken done left state)
    fires ⟨_, _, _, course_of_fired fires⟩
    (fun known _ _ ⟨_, _, _, course⟩ step => course.step known step) run

/-- From the token on, the worker makes the call it is about to make and begins no other. -/
theorem Known.analyses_run (known : Known sent threads) (fires : threads.step .fire = some fired)
    (run : fired.run later = some present) :
    fired.analysesOf later ++ present.beginning?.toList = threads.beginning?.toList := by
  apply known.since (motive := fun past state =>
    past.flatMap Passage.analyses ++ state.beginning?.toList = threads.beginning?.toList)
    fires ?_ ?_ run
  · cases rule_of_step fires
    rfl
  · intro sent past before move after known stopped cancelled calls step
    rw [List.flatMap_append, List.flatMap_singleton, List.append_assoc,
      known.analyses_of_step stopped cancelled step]
    exact calls

/-- A request that the worker had taken and not begun is aborted by it. -/
theorem Known.held_run (known : Known sent threads) (fires : threads.step .fire = some fired)
    (holding : threads.shared.worker = .holding request) (run : fired.run later = some present) :
    present.shared.worker = .holding request ∨
      present.shared.outcome? request.id = some .aborted := by
  apply known.since (motive := fun _ state => state.shared.worker = .holding request ∨
    state.shared.outcome? request.id = some .aborted) fires ?_ ?_ run
  · cases rule_of_step fires
    exact .inl holding
  · rintro sent past before move after known stopped cancelled (holding | aborted) step
    · exact known.holding_of_step stopped cancelled step holding
    · exact .inr (known.outcome?_of_step step aborted)

/-- The request that is in flight begins to settle. -/
theorem Known.settling_of_fired (known : Known sent threads)
    (fires : threads.step .fire = some fired)
    (concerned : threads.shared.worker.request? = some request)
    (published : threads.shared.inFlight = some request.id) (keeps : threads.worker ≠ .looked true) :
    Settling request threads.shared.worker.verdict?.toList [] fired := by
  cases rule_of_step fires
  cases worker : threads.shared.worker with
  | holding other =>
    have rests : threads.whole.worker.work? = none := by
      rw [worker_whole, worker]
      rfl
    have unmarked := known.sound.published.unmarked rests (by simp [worker])
    simp [published] at unmarked
  | executing other =>
    rw [worker] at concerned
    cases concerned
    exact .executing worker rfl
  | recording other analysis =>
    rw [worker] at concerned
    cases concerned
    exact .recording worker rfl
  | delivering other analysis =>
    rw [worker] at concerned
    cases concerned
    exact .delivering worker rfl keeps
  | posting other analysis =>
    rw [worker] at concerned
    cases concerned
    exact .posting worker rfl
  | _ =>
    rw [worker] at concerned
    cases concerned

theorem Known.settling_run (known : Known sent threads) (fires : threads.step .fire = some fired)
    (concerned : threads.shared.worker.request? = some request)
    (published : threads.shared.inFlight = some request.id) (keeps : threads.worker ≠ .looked true)
    (steady : ∀ move ∈ later, move.Steady) (run : fired.run later = some present)
    (attended : present.Attended) :
    Settling request (threads.shared.worker.verdict?.toList ++ later.filterMap Move.verdict?)
      (fired.postedOf later) present := by
  have along := known.since
    (motive := fun past state => state.Attended → (∀ move ∈ past.map Passage.move, move.Steady) →
      Settling request (threads.shared.worker.verdict?.toList ++
        (past.map Passage.move).filterMap Move.verdict?) (past.flatMap Passage.posted) state)
    fires ?_ ?_ run
  · rw [map_move_trace run] at along
    exact along attended steady
  · intro _ _
    simpa using known.settling_of_fired fires concerned published keeps
  · intro sent past before move after known stopped cancelled settles step attended steady
    have waited := attended_of_step stopped step attended
    simp only [List.map_append, List.map_cons, List.map_nil, List.mem_append,
      List.mem_singleton] at steady
    have settling := settles waited fun move member => steady move (.inl member)
    have moved := settling.step known stopped cancelled waited (steady move (.inr rfl)) step
    have last : [move].filterMap Move.verdict? = move.verdict?.toList := by
      cases found : move.verdict? <;> simp [found]
    simp only [List.map_append, List.map_cons, List.map_nil, List.filterMap_append, last,
      List.flatMap_append, List.flatMap_singleton, ← List.append_assoc]
    exact moved

end Since

section Seen

/-- What is posted in a move is completed. -/
theorem Known.completed_of_posted {answered : Answered Snapshot Callback Output}
    (known : Known sent before) (step : before.step move = some after)
    (posted : answered ∈ (Passage.mk before move after).posted) :
    after.shared.outcome? answered.request.id = some (.completed answered.analysis) := by
  apply known.outcome?_of_step step
  cases rule_of_step step with
  | event admitted stepped =>
    rw [Passage.posted_event] at posted
    unfold Transition.posted at posted
    split at posted
    · next request analysis accepted posting =>
      cases List.mem_singleton.mp posted
      change before.shared.worker = .posting request analysis at posting
      rcases known.sound.staged request.id with ⟨stage, stands⟩
      rcases Scheduler.stage_of_work? stands (by rw [worker_whole, posting]; rfl)
        with ⟨marked, rfl⟩
      rw [← outcome_view_whole, stands]
      rfl
    · cases posted
  | _ => cases posted

/-- What is called back in a move is completed. -/
theorem Known.completed_of_callback {callback : CallbackRun Snapshot Callback Output}
    (known : Known sent before) (step : before.step move = some after)
    (begun : callback ∈ (Passage.mk before move after).callbacks) :
    after.shared.outcome? callback.id = some (.completed callback.answered.analysis) := by
  cases rule_of_step step with
  | @event event next admitted stepped =>
    rw [Passage.callbacks_event] at begun
    cases Scheduler.begins_of_mem_callbacks begun with
    | @submission answered calling fresh =>
      rw [← outcome?_whole]
      apply (known.step step).sound.outcome?_of_callingBack
      rwa [callingBack_whole]
    | @pump answered rest pumps jobs =>
      apply known.outcome?_of_step step
      rcases known.sound.staged answered.request.id with ⟨stage, stands⟩
      have posted : answered.analysis ∈ stage.view.posted := by
        rw [← stands]
        simp only [Scheduler.view, ui_whole]
        rw [jobs, postedFor_cons, if_pos rfl]
        exact List.mem_cons_self
      rcases Stage.eq_posted posted with ⟨marked, rfl⟩
      change before.shared.outcome? answered.request.id = _
      rw [← outcome_view_whole, stands]
      rfl
  | _ => cases begun

/-- What was posted or called back in a run is completed. -/
theorem completed_of_seen (run : (new config sufficient).run moves = some final) :
    (∀ answered ∈ (new config sufficient).postedOf moves,
      final.shared.outcome? answered.request.id = some (.completed answered.analysis)) ∧
    ∀ callback ∈ (new config sufficient).callbacksOf moves,
      final.shared.outcome? callback.id = some (.completed callback.answered.analysis) := by
  have along := (known_new config sufficient).induction
    (motive := fun past state =>
      (∀ answered ∈ past.flatMap Passage.posted,
        state.shared.outcome? answered.request.id = some (.completed answered.analysis)) ∧
      ∀ callback ∈ past.flatMap Passage.callbacks,
        state.shared.outcome? callback.id = some (.completed callback.answered.analysis))
    ⟨by simp, by simp⟩ ?_ run
  · exact along.2
  · rintro past before move after known ⟨posted, calledBack⟩ step
    simp only [List.flatMap_append, List.flatMap_singleton, List.mem_append]
    constructor
    · rintro answered (old | new)
      · exact known.outcome?_of_step step (posted answered old)
      · exact known.completed_of_posted step new
    · rintro callback (old | new)
      · exact known.outcome?_of_step step (calledBack callback old)
      · exact known.completed_of_callback step new

end Seen

section Over

variable {left : Scheduler Snapshot Callback Output} {report : ShutdownReport}
  {taken drained : List (Request Snapshot Callback)} {id : RequestId}

/-- None of the requests that wait when a shutdown comes was or will be analyzed. -/
theorem not_analyzed (run : (new config sufficient).run moves = some threads)
    (between : threads.shutdown = .between) (fires : threads.step .fire = some fired)
    (laterRun : fired.run later = some present) (waits : request ∈ threads.shared.waiting) :
    ∀ analyzed ∈ (new config sufficient).analysesOf (moves ++ .fire :: later),
      analyzed.id ≠ request.id := by
  have known := known_of_run run
  intro analyzed member same
  have stands := known.sound.view_of_waiting (by rwa [whole_of_between between])
  rw [← same] at stands
  rw [analysesOf, trace_append run, List.flatMap_append, List.mem_append, trace, fires,
    List.flatMap_cons] at member
  rcases member with past | future
  · rcases begun_of_analysesOf run analyzed past with ⟨stage, begunStands, begun⟩
    cases Stage.view_injective (stands.symm.trans begunStands)
    exact begun
  · have begins : analyzed ∈ threads.beginning?.toList := by
      rw [← known.analyses_run fires laterRun]
      exact List.mem_append_left _ future
    have executing := (executing_of_beginning (Option.mem_toList.mp begins)).1
    rcases Scheduler.stage_of_work? stands (by rw [worker_whole, executing]; rfl)
      with ⟨marked, impossible⟩
    cases impossible

/-- The shutdown sees that the worker has left. -/
theorem Known.joined (known : Known sent threads) (fires : threads.step .fire = some fired)
    (run : fired.run later = some present) (divides : Divides threads present taken drained)
    (joins : present.shared.joinWorker = some (report, left)) :
    report = ⟨.completed, drained.length⟩ ∧
    (∀ request ∈ threads.shared.waiting, left.outcome? request.id = some .aborted) ∧
    (∀ request, threads.shared.worker = .holding request →
      left.outcome? request.id = some .aborted) ∧
    ((∀ move ∈ later, move.Steady) → threads.worker ≠ .looked true →
      ∀ request, threads.shared.worker.request? = some request →
        threads.shared.inFlight = some request.id → ∃ verdict,
          threads.shared.worker.verdict?.toList ++ later.filterMap Move.verdict? = [verdict] ∧
          left.outcome? request.id = some verdict.outcome ∧
          ∀ analysis, verdict = .ready analysis → ⟨request, analysis⟩ ∈ fired.postedOf later) := by
  rcases Scheduler.of_joinWorker joins with ⟨count, closing, rfl, exited, cells⟩
  have between := ((known.step fires).run run).between_of_closing closing
  have same (id : RequestId) : left.outcome? id = present.shared.outcome? id := by
    rw [Scheduler.outcome?, cells, ← Scheduler.outcome?]
  refine ⟨by rw [divides.counted count closing], ?_, ?_, ?_⟩
  · intro request waits
    rw [same]
    rw [divides.all] at waits
    rcases List.mem_append.mp waits with away | there
    · rcases divides.away request away with holding | aborted
      · simp [exited] at holding
      · exact aborted
    · exact divides.aborted between request there
  · intro request holding
    rw [same]
    rcases known.held_run fires holding run with still | aborted
    · simp [exited] at still
    · exact aborted
  · intro steady keeps request concerned published
    have attended : present.Attended := .inr (by simp [closing])
    cases known.settling_run fires concerned published keeps steady run attended with
    | settled only leaving outcome handed => exact ⟨_, only, (same _).trans outcome, handed⟩
    | executing executing => simp [exited] at executing
    | recording recording => simp [exited] at recording
    | delivering delivering => simp [exited] at delivering
    | posting posting => simp [exited] at posting

theorem Known.harmless_of_giveUp {count : Nat} (known : Known sent present)
    (closing : present.shared.closing = some count) (published : present.shared.inFlight = some id)
    (pending : present.shared.outcome? id = none)
    (step : present.shared.step .giveUpWorker = some left) :
    ({ present with shared := left } : Interleaved _ _ _).Harmless ∧
      left.outcome? id = some .aborted := by
  have sound := known.sound
  rw [whole_of_between (known.between_of_closing closing)] at sound
  cases Scheduler.rule_of_step step with
  | refused submits | faulted submits | openedRecent submits | openedInline submits
  | openedQueued submits => cases submits
  | gaveUpNothing closing remains unpublished => simp [published] at unpublished
  | gaveUpRequest closing remains same =>
    cases published.symm.trans same
    rcases sound.unfinished closing published pending with ⟨request, rfl, at_⟩
    have born := sound.born_of_inFlight published
    have aborted : Completion.recorded
        (Completion.endAll .aborted [request.id] present.shared.completions) request.id =
          some .aborted := by
      rw [Completion.recorded_endAll_same _ born, ← Scheduler.outcome?_eq_recorded, pending]
      rfl
    have settled := congrArg Option.isSome aborted
    refine ⟨?_, aborted⟩
    rcases at_ with executing | ⟨analysis, recording⟩ | ⟨analysis, delivering⟩
    · exact .executing executing settled
    · exact .recording recording settled
    · exact .delivering delivering settled

/-- Nobody sees anything of a harmless worker, however long it goes on. -/
theorem Harmless.silent_of_run (harmless : threads.Harmless) (known : Known sent threads)
    (stopped : threads.shared.lifecycle = .stopped) (cancelled : threads.shared.cancelled = true)
    (run : threads.run moves = some final) :
    ∀ passage ∈ threads.trace moves, passage.move.isWorker = true → Silent passage := by
  have along := known.induction
    (motive := fun past state => (state.shared.lifecycle = .stopped ∧
      state.shared.cancelled = true) ∧ state.Harmless ∧
        ∀ passage ∈ past, passage.move.isWorker = true → Silent passage)
    ⟨⟨stopped, cancelled⟩, harmless, by simp⟩ ?_ run
  · exact along.2.2.2
  · rintro past before move after known ⟨⟨stopped, cancelled⟩, harmless, silent⟩ step
    rcases harmless.step known stopped cancelled step with ⟨now, still⟩
    refine ⟨⟨stopped_of_step stopped step, cancelled_of_step cancelled step⟩, still, ?_⟩
    intro passage member works
    rcases List.mem_append.mp member with old | new
    · exact silent passage old works
    · cases List.mem_singleton.mp new
      exact now works

/-- The shutdown gives the worker up: a published request without an outcome is aborted, and nothing
the worker still does with it is seen. -/
theorem gaveUp (run : (new config sufficient).run moves = some threads)
    (fires : threads.step .fire = some fired) (laterRun : fired.run later = some present)
    (givesUp : present.shared.giveUpWorker = some (report, left))
    (published : present.shared.inFlight = some id) (pending : present.shared.outcome? id = none)
    (lastRun : ({ present with shared := left } : Interleaved _ _ _).run afterwards = some last) :
    left.outcome? id = some .aborted ∧ last.shared.outcome? id = some .aborted ∧
    (∀ passage ∈ ({ present with shared := left } : Interleaved _ _ _).trace afterwards,
      passage.move.isWorker = true → Silent passage) ∧
    (∀ answered ∈ (new config sufficient).postedOf
      (moves ++ .fire :: (later ++ .event .giveUpWorker :: afterwards)),
        answered.request.id ≠ id) ∧
    (∀ callback ∈ (new config sufficient).callbacksOf
      (moves ++ .fire :: (later ++ .event .giveUpWorker :: afterwards)), callback.id ≠ id) := by
  have known := known_of_run run
  have present' := (known.step fires).run laterRun
  rcases Scheduler.of_giveUpWorker givesUp with ⟨count, closing, _⟩
  have shared : present.shared.step .giveUpWorker = some left := by
    simp [Scheduler.step, givesUp]
  have step : present.step (.event .giveUpWorker) = some { present with shared := left } := by
    simp [Interleaved.step, admits, shared]
  rcases present'.harmless_of_giveUp closing published pending shared with ⟨harmless, aborted⟩
  rcases known.course_run fires laterRun with ⟨_, _, _, course⟩
  have given := present'.step step
  have kept := given.outcome?_run lastRun aborted
  have whole : (new config sufficient).run
      (moves ++ .fire :: (later ++ .event .giveUpWorker :: afterwards)) = some last := by
    rw [run_append, run, Option.bind_some, Interleaved.run, fires, Option.bind_some, run_append,
      laterRun, Option.bind_some, Interleaved.run, step, Option.bind_some, lastRun]
  refine ⟨aborted, kept, ?_, ?_, ?_⟩
  · exact harmless.silent_of_run given (stopped_of_step course.stopped step)
      (cancelled_of_step course.cancelled step) lastRun
  · intro answered posted same
    have completed := (completed_of_seen whole).1 answered posted
    rw [same, kept] at completed
    cases completed
  · intro callback begun same
    have completed := (completed_of_seen whole).2 callback begun
    rw [same, kept] at completed
    cases completed

end Over

end Interleaved

end EditorAnalysis
