import EditorAnalysis.Proofs.Interleaved.Undisturbed
import EditorAnalysis.Proofs.Interleaved.Whole

/-!
# What a shutdown does with the requests that wait

The requests that wait when a shutdown fires the token are divided up: the worker may take the first
one if it was about to take a job, and the shutdown drains the others and aborts them. `Course` is the
invariant of this from the token on.

None of these requests is ever analyzed. From the token on, the only analyzer call that still begins is
the one for a request that the worker had published before (`analyses_since_fire`).
-/

namespace EditorAnalysis

variable {Snapshot Callback Output : Type}

namespace Interleaved

/-- The requests that waited when a shutdown came: those that the worker has taken, those that the
shutdown has aborted and those that are left. -/
structure Course (start : Interleaved Snapshot Callback Output)
    (taken done left : List (Request Snapshot Callback))
    (present : Interleaved Snapshot Callback Output) : Prop where
  stopped : present.shared.lifecycle = .stopped
  cancelled : present.shared.cancelled = true
  divided : start.shared.waiting = taken ++ (done ++ left)
  once : taken ≠ [] →
    taken.length = 1 ∧ start.shared.worker = .receiving ∧ present.shared.worker ≠ .receiving
  receives : present.shared.worker = .receiving → start.shared.worker = .receiving
  away : ∀ request ∈ taken,
    present.shared.worker = .holding request ∨ present.shared.outcome? request.id = some .aborted
  aborted : ∀ request ∈ done, present.shared.outcome? request.id = some .aborted
  fired : present.shutdown = .fired → done = [] ∧ left = present.shared.waiting
  draining : ∀ requests aborted, present.shutdown = .draining requests aborted →
    left = requests ∧ aborted = done.length
  finished : present.shutdown = .between → left = [] ∧ present.shared.waiting = [] ∧
    ∀ count, present.shared.closing = some count → count = done.length

variable {threads start before after final : Interleaved Snapshot Callback Output}
  {event : Event Snapshot Callback Output} {move : Move Snapshot Callback Output}
  {moves later : List (Move Snapshot Callback Output)}
  {sent taken done left : List (Request Snapshot Callback)} {request : Request Snapshot Callback}

@[simp]
theorem calls_whole : threads.whole.calls = threads.shared.calls := by
  unfold whole
  split <;> rfl

@[simp]
theorem analyzing_whole : threads.whole.analyzing = threads.shared.analyzing := by
  simp [Scheduler.analyzing]

theorem waiting_whole {requests : List (Request Snapshot Callback)} {aborted : Nat}
    (known : Known sent threads) (draining : threads.shutdown = .draining requests aborted) :
    threads.whole.waiting = requests := by
  have jobs := toList_queueOf (known.drained _ _ draining).1
  have whole : threads.whole.mailbox = queueOf requests := by simp only [whole, draining]
  rw [Scheduler.waiting, whole, jobs, List.filterMap_map]
  exact List.filterMap_some

theorem stopped_of_step (stopped : before.shared.lifecycle = .stopped)
    (step : before.step move = some after) : after.shared.lifecycle = .stopped := by
  cases rule_of_step step with
  | event admitted stepped => exact Scheduler.stopped_of_rule stopped (Scheduler.rule_of_step stepped)
  | fired => rfl
  | _ => exact stopped

theorem cancelled_of_step (cancelled : before.shared.cancelled = true)
    (step : before.step move = some after) : after.shared.cancelled = true := by
  cases rule_of_step step with
  | event admitted stepped =>
    exact Scheduler.cancelled_of_rule cancelled (Scheduler.rule_of_step stepped)
  | fired => rfl
  | _ => exact cancelled

theorem ne_workerBegin_of_admits (admitted : threads.admits event = true) :
    event ≠ .workerBegin := by
  rintro rfl
  cases admitted

/-- The worker holds its request until it looks at its token, and waits for no other job. -/
theorem worker_of_stopped {before after : Scheduler Snapshot Callback Output}
    (stopped : before.lifecycle = .stopped) (cancelled : before.cancelled = true)
    (notBegin : event ≠ .workerBegin) (rule : before.Rule event after) :
    (∀ request, before.worker = .holding request → after.worker = .holding request) ∧
      (after.worker = .receiving → before.worker = .receiving) := by
  cases works : event.isWorker with
  | false =>
    have same := Scheduler.worker_of_rule rule works (by simp [stopped])
    exact ⟨fun _ => same.trans, same.symm.trans⟩
  | true =>
    cases rule with
    | skipped | began => exact absurd rfl notBegin
    | @cleared leaves clearing => cases leaves <;> simp [clearing]
    | refused submits | faulted submits | openedRecent submits | openedInline submits
    | openedQueued submits => simp [submits.isWorker_eq_false] at works
    | _ => simp_all [Event.isWorker]

/-- A request that the worker has taken and not yet begun has no outcome. -/
theorem Known.pending_of_holding (known : Known sent threads)
    (holding : threads.shared.worker = .holding request) :
    request.id < threads.shared.completions.length ∧
      threads.shared.outcome? request.id = none := by
  rcases known.sound.staged request.id with ⟨stage, stands⟩
  have held : stage.view.held = true := by
    rw [← stands]
    simp [Scheduler.view, holding, Worker.held?]
  cases Stage.eq_held held
  have born := of_decide_eq_true (congrArg View.born stands)
  have recorded := congrArg View.outcome stands
  rw [completions_whole] at born
  rw [outcome_view_whole] at recorded
  exact ⟨born, recorded⟩

/-- A worker that looks at a token that has fired aborts the request it holds. -/
theorem Known.publish_of_cancelled (known : Known sent before)
    (cancelled : before.shared.cancelled = true)
    (holding : before.shared.worker = .holding request) (step : before.step .publish = some after) :
    after.shared.outcome? request.id = some .aborted := by
  rcases known.pending_of_holding holding with ⟨born, pending⟩
  cases rule_of_step step with
  | skipped between other =>
    cases holding.symm.trans other
    exact Scheduler.outcome?_of_ended rfl (List.mem_singleton_self _) born pending
  | published between other uncancelled => simp [cancelled] at uncancelled

/-- The worker keeps the request it holds until it aborts it. -/
theorem Known.holding_of_step (known : Known sent before)
    (stopped : before.shared.lifecycle = .stopped) (cancelled : before.shared.cancelled = true)
    (step : before.step move = some after) (holding : before.shared.worker = .holding request) :
    after.shared.worker = .holding request ∨
      after.shared.outcome? request.id = some .aborted := by
  cases rule_of_step step with
  | event admitted stepped =>
    have rule := Scheduler.rule_of_step stepped
    have workers := worker_of_stopped stopped cancelled (ne_workerBegin_of_admits admitted) rule
    exact .inl (workers.1 request holding)
  | skipped => exact .inr (known.publish_of_cancelled cancelled holding step)
  | published between other uncancelled => simp [cancelled] at uncancelled
  | superseded looked delivering | lost looked delivering | completed looked delivering =>
    cases delivering.symm.trans holding
  | _ => exact .inl holding

theorem Course.away_of_step (course : Course start taken done left before)
    (known : Known sent before) (step : before.step move = some after) :
    ∀ request ∈ taken, after.shared.worker = .holding request ∨
      after.shared.outcome? request.id = some .aborted := by
  intro request member
  rcases course.away request member with holding | aborted
  · exact known.holding_of_step course.stopped course.cancelled step holding
  · exact .inr (known.outcome?_of_step step aborted)

/-- A move that has nothing to do with the requests that waited. -/
theorem Course.kept (course : Course start taken done left before)
    (known : Known sent before) (step : before.step move = some after)
    (receives : after.shared.worker = .receiving → before.shared.worker = .receiving)
    (shutdown : after.shutdown = before.shutdown)
    (waiting : after.shared.waiting = before.shared.waiting)
    (closing : ∀ count, after.shared.closing = some count → before.shared.closing = some count) :
    Course start taken done left after where
  stopped := stopped_of_step course.stopped step
  cancelled := cancelled_of_step course.cancelled step
  divided := course.divided
  once some := by
    rcases course.once some with ⟨one, received, gone⟩
    exact ⟨one, received, fun again => gone (receives again)⟩
  receives again := course.receives (receives again)
  away := course.away_of_step known step
  aborted request member := known.outcome?_of_step step (course.aborted request member)
  fired at_ := by
    rw [waiting]
    exact course.fired (shutdown.symm.trans at_)
  draining requests aborted at_ := course.draining requests aborted (shutdown.symm.trans at_)
  finished at_ := by
    rcases course.finished (shutdown.symm.trans at_) with ⟨none, empty, counted⟩
    exact ⟨none, waiting.trans empty, fun count waits => counted count (closing count waits)⟩

/-- The worker takes a request after the token has fired. -/
theorem Course.took {next : Scheduler Snapshot Callback Output}
    {mailbox : LaneSlots (Job Snapshot Callback)} (course : Course start taken done left before)
    (known : Known sent before) (step : before.step (.event .workerReceive) = some after)
    (receiving : before.shared.worker = .receiving)
    (pops : before.shared.mailbox.pop = (some (.analyze request), mailbox))
    (took : next = { before.shared with mailbox, worker := .holding request })
    (becomes : after = { before with shared := next }) :
    ∃ left, Course start [request] [] left after := by
  subst took
  subst becomes
  have head : before.shared.waiting = request :: mailbox.toList.filterMap Job.request? :=
    congrArg (List.filterMap Job.request?) (LaneSlots.toList_of_pop_some pops)
  have none : taken = [] := by
    apply Classical.byContradiction
    intro some
    exact (course.once some).2.2 receiving
  have fired : before.shutdown = .fired := by
    cases shutdown : before.shutdown with
    | between =>
      have empty := (course.finished shutdown).2.1
      rw [head] at empty
      cases empty
    | fired => rfl
    | draining requests aborted =>
      have empty := (known.empty_of_draining shutdown).2
      rw [head] at empty
      cases empty
  rcases course.fired fired with ⟨nothing, all⟩
  refine ⟨mailbox.toList.filterMap Job.request?, ?_⟩
  have divided := course.divided
  rw [none, nothing, all, head] at divided
  exact {
    stopped := course.stopped
    cancelled := course.cancelled
    divided := divided
    once := fun _ => ⟨rfl, course.receives receiving, by simp⟩
    receives := by simp
    away := by
      intro other member
      rw [List.mem_singleton.mp member]
      exact .inl rfl
    aborted := by simp
    fired := fun _ => ⟨rfl, rfl⟩
    draining := by
      intro requests aborted at_
      cases fired.symm.trans at_
    finished := fun at_ => by cases fired.symm.trans at_ }

theorem Course.of_event {next : Scheduler Snapshot Callback Output}
    (course : Course start taken done left before) (known : Known sent before)
    (admitted : before.admits event = true) (stepped : before.shared.step event = some next)
    (step : before.step (.event event) = some { before with shared := next }) :
    ∃ taken done left, Course start taken done left { before with shared := next } := by
  have rule := Scheduler.rule_of_step stepped
  have receives := (worker_of_stopped course.stopped course.cancelled
    (ne_workerBegin_of_admits admitted) rule).2
  have goesOn (waiting : next.waiting = before.shared.waiting) :
      ∃ taken done left, Course start taken done left { before with shared := next } := by
    refine ⟨taken, done, left, course.kept known step receives rfl waiting ?_⟩
    intro count waits
    exact Scheduler.closing_of_rule course.stopped rule waits
  by_cases receive : event = .workerReceive
  · subst receive
    cases rule with
    | refused submits | faulted submits | openedRecent submits | openedInline submits
    | openedQueued submits => cases submits
    | receivedNone receiving pops =>
      exact goesOn (Scheduler.waiting_of_mailbox (LaneSlots.toList_of_pop_none pops))
    | receivedTerminate receiving pops =>
      apply goesOn
      simp only [Scheduler.waiting, LaneSlots.toList_of_pop_some pops]
      rfl
    | receivedRequest receiving pops =>
      rcases course.took known step receiving pops rfl rfl with ⟨left, took⟩
      exact ⟨_, _, left, took⟩
  · rcases Scheduler.mailbox_of_stopped course.stopped rule with same | ⟨receives, _⟩
    · exact goesOn (Scheduler.waiting_of_mailbox same)
    · exact absurd receives receive

/-- The requests that waited go their way with every move. -/
theorem Course.step (course : Course start taken done left before) (known : Known sent before)
    (step : before.step move = some after) :
    ∃ taken done left, Course start taken done left after := by
  have kept (receives : after.shared.worker = .receiving → before.shared.worker = .receiving)
      (shutdown : after.shutdown = before.shutdown)
      (waiting : after.shared.waiting = before.shared.waiting)
      (closing : after.shared.closing = before.shared.closing) :
      ∃ taken done left, Course start taken done left after := by
    refine ⟨taken, done, left, course.kept known step receives shutdown waiting ?_⟩
    intro count waits
    rwa [closing] at waits
  cases rule_of_step step with
  | event admitted stepped => exact course.of_event known admitted stepped step
  | skipped | superseded | lost | completed => exact kept (by simp) rfl rfl rfl
  | published between holding uncancelled => simp [course.cancelled] at uncancelled
  | marked | counted | called | looked => exact kept id rfl rfl rfl
  | fired between running => simp [course.stopped] at running
  | drained fired =>
    rcases course.fired fired with ⟨rfl, rfl⟩
    refine ⟨taken, [], before.shared.waiting, ?_⟩
    exact { course with
      fired := by simp
      draining := by
        intro requests aborted at_
        cases at_
        exact ⟨rfl, rfl⟩
      finished := by simp }
  | @aborted request requests count draining =>
    rcases course.draining _ _ draining with ⟨rfl, rfl⟩
    have waits : request ∈ before.whole.waiting := by
      rw [waiting_whole known draining]
      exact List.mem_cons_self
    have pending := known.sound.outcome?_of_waiting waits
    have born := known.sound.born_of_waiting waits
    rw [outcome?_whole] at pending
    rw [completions_whole] at born
    refine ⟨taken, done ++ [request], requests, ?_⟩
    exact {
      stopped := course.stopped
      cancelled := course.cancelled
      divided := by simpa using course.divided
      once := course.once
      receives := course.receives
      away := course.away_of_step known step
      aborted := by
        intro other member
        rcases List.mem_append.mp member with old | new
        · exact known.outcome?_of_step step (course.aborted other old)
        · rw [List.mem_singleton.mp new]
          exact Scheduler.outcome?_of_ended rfl (List.mem_singleton_self _) born pending
      fired := by simp
      draining := by
        intro others aborted at_
        cases at_
        exact ⟨rfl, by simp [pending]⟩
      finished := by simp }
  | @awaits count draining =>
    rcases course.draining _ _ draining with ⟨rfl, rfl⟩
    refine ⟨taken, done, [], ?_⟩
    exact { course with
      fired := by simp
      draining := by simp
      finished := by
        intro _
        refine ⟨rfl, (known.empty_of_draining draining).2, ?_⟩
        intro count waits
        exact (Option.some.inj waits).symm }

/-- The token has fired, and nothing is done yet. -/
theorem course_of_fired (fires : start.step .fire = some after) :
    Course start [] [] start.shared.waiting after := by
  cases rule_of_step fires with
  | fired =>
    exact {
      stopped := rfl
      cancelled := rfl
      divided := rfl
      once := fun some => absurd rfl some
      receives := id
      away := by simp
      aborted := by simp
      fired := fun _ => ⟨rfl, rfl⟩
      draining := by simp
      finished := by simp }

section Analyses

/-- What there is in a stage when a request of an event is newly analyzed. -/
theorem Known.begins_of_event {next : Scheduler Snapshot Callback Output}
    (known : Known sent before) (step : before.step (.event event) = some { before with shared := next })
    (begun : request ∈ (Transition.mk before.shared event next).analyses) :
    ∃ stage later : Stage Output, before.whole.view request.id = stage.view ∧
      ({ before with shared := next } : Interleaved _ _ _).whole.view request.id = later.view ∧
      (stage = .unborn ∧ later = .called .executing ∨
        stage = .held ∧ later = .worked .executing true) := by
  rw [Transition.analyses, Transition.mem_newIn] at begun
  rcases begun with ⟨inside, outside⟩
  rcases known.sound.staged request.id with ⟨stage, stands⟩
  rcases (known.flows step).advances _ _ stands with ⟨later, laterStands, moves⟩
  refine ⟨stage, later, stands, laterStands, ?_⟩
  apply (Scheduler.begins_of_newly_analyzing stands laterStands moves ?_ ?_).2
  · rw [analyzing_whole]
    exact List.mem_map_of_mem inside
  · rwa [analyzing_whole]

/-- The request whose analyzer call is about to be made is at the hands of the worker. -/
theorem executing_of_beginning (begins : threads.beginning? = some request) :
    threads.shared.worker = .executing request ∧ threads.worker ≠ .between := by
  unfold beginning? at begins
  split at begins
  · next point executing =>
    cases begins
    exact ⟨executing, by simp [point]⟩
  · next point executing =>
    cases begins
    exact ⟨executing, by simp [point]⟩
  · next point executing =>
    cases begins
    exact ⟨executing, by simp [point]⟩
  · cases begins

theorem Known.begun_of_analyses (known : Known sent before) (step : before.step move = some after)
    (begun : request ∈ (Passage.mk before move after).analyses) :
    ∃ stage : Stage Output, after.whole.view request.id = stage.view ∧ stage.Begun := by
  cases rule_of_step step with
  | event admitted stepped =>
    rw [Passage.analyses_event] at begun
    rcases known.begins_of_event step begun with ⟨_, later, _, laterStands, ⟨_, rfl⟩ | ⟨_, rfl⟩⟩
    · exact ⟨_, laterStands, rfl⟩
    · exact ⟨_, laterStands, trivial⟩
  | called counted =>
    have executing := (executing_of_beginning (Option.mem_toList.mp begun)).1
    rcases (known.step step).sound.staged request.id with ⟨stage, stands⟩
    have works : ({ before with worker := .between } : Interleaved _ _ _).whole.worker.work? =
        some (request.id, .executing) := by
      rw [worker_whole, executing]
      rfl
    rcases Scheduler.stage_of_work? stands works with ⟨marked, rfl⟩
    exact ⟨_, stands, trivial⟩
  | _ => cases begun

/-- What was analyzed in a run has got past the point where that may happen. -/
theorem begun_of_analysesOf {config : Config} {sufficient : Reason → Bool}
    (run : (new config sufficient).run moves = some final) :
    ∀ request ∈ (new config sufficient).analysesOf moves,
      ∃ stage : Stage Output, final.whole.view request.id = stage.view ∧ stage.Begun := by
  have along := (known_new config sufficient).induction
    (motive := fun past state => ∀ request ∈ past.flatMap Passage.analyses,
      ∃ stage : Stage Output, state.whole.view request.id = stage.view ∧ stage.Begun) (by simp) ?_ run
  · exact along.2
  · intro past before move after known begun step request member
    rw [List.flatMap_append, List.flatMap_singleton] at member
    rcases List.mem_append.mp member with old | new
    · rcases begun request old with ⟨stage, stands, begun⟩
      exact (known.flows step).stage Stage.Advance.begun stands begun
    · exact known.begun_of_analyses step new

/-- Once the token has fired no event begins an analyzer call. -/
theorem Known.analyses_of_event {next : Scheduler Snapshot Callback Output}
    (known : Known sent before) (stopped : before.shared.lifecycle = .stopped)
    (cancelled : before.shared.cancelled = true) (stepped : before.shared.step event = some next)
    (step : before.step (.event event) = some { before with shared := next }) :
    (Transition.mk before.shared event next).analyses = [] := by
  apply List.eq_nil_iff_forall_not_mem.mpr
  intro request begun
  have rule := Scheduler.rule_of_step stepped
  rcases known.begins_of_event step begun
    with ⟨stage, later, stands, laterStands, ⟨rfl, rfl⟩ | ⟨rfl, rfl⟩⟩
  · have unborn := congrArg View.born stands
    have born := congrArg View.born laterStands
    simp only [Scheduler.view, completions_whole, Scheduler.length_of_stopped stopped rule]
      at unborn born
    rw [unborn] at born
    cases born
  · have holds := congrArg View.held stands
    have works := congrArg View.worker laterStands
    simp only [Scheduler.view, worker_whole] at holds works
    rcases Scheduler.eq_holding_of_held? (of_decide_eq_true holds) with ⟨held, holding, _⟩
    rcases Scheduler.eq_executing_of_workOn works with ⟨_, executing, _⟩
    have uncancelled := Scheduler.uncancelled_of_begin rule (by simp [stopped]) holding executing
    simp [cancelled] at uncancelled

/-- Once the token has fired, the worker makes the call it is about to make and begins no other. -/
theorem Known.analyses_of_step (known : Known sent before)
    (stopped : before.shared.lifecycle = .stopped) (cancelled : before.shared.cancelled = true)
    (step : before.step move = some after) :
    (Passage.mk before move after).analyses ++ after.beginning?.toList =
      before.beginning?.toList := by
  have fits := known.fits
  cases rule_of_step step with
  | @event event next admitted stepped =>
    have nothing := known.analyses_of_event stopped cancelled stepped step
    have same : ({ before with shared := next } : Interleaved _ _ _).beginning? =
        before.beginning? := by
      by_cases between : before.worker = .between
      · simp [beginning?, between]
      · have other := isWorker_of_admits admitted between
        have worker := Scheduler.worker_of_rule (Scheduler.rule_of_step stepped) other
          (by simp [stopped])
        simp only [beginning?, worker]
    rw [Passage.analyses_event, nothing, same]
    rfl
  | published between holding uncancelled => simp [cancelled] at uncancelled
  | skipped between | looked between => simp [Passage.analyses, Passage.transition?, beginning?, between]
  | marked point | counted point =>
    simp only [Fits, point] at fits
    rcases fits with ⟨request, executing⟩
    simp [Passage.analyses, Passage.transition?, beginning?, point, executing]
  | called => simp [Passage.analyses, beginning?]
  | superseded point | lost point | completed point =>
    simp [Passage.analyses, Passage.transition?, beginning?, point]
  | _ => rfl

end Analyses

end Interleaved

end EditorAnalysis
