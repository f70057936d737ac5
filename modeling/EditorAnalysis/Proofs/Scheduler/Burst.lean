import EditorAnalysis.Proofs.Scheduler.Drain

/-!
# The burst law

A worker that is left with a busy request and a queue goes through them in order.
`Scheduler.Drained` says how far it has got: the requests of the line are split into those that are
done, the one at its hands and those that wait, what was analyzed is what has left the queue, and
every request that is done has met the fate that the requests behind it decided. Nothing enters the
line, and so what stands behind a request is the same at every moment.

`Scheduler.burst_law` puts this behind the closed form of `survivors`.
-/

namespace EditorAnalysis

variable {Snapshot Callback Output : Type}

/-- Newer work of its lane stands behind a request whose result is not always delivered. -/
def Request.Outdone (request : Request Snapshot Callback)
    (behind : List (Request Snapshot Callback)) : Prop :=
  request.reason.alwaysDelivered = false ∧
    ∃ other ∈ behind, other.reason.lane = request.reason.lane

/-- A burst leaves newer work of its lane behind a request whose result is not always delivered. -/
def Request.Overtaken (request : Request Snapshot Callback)
    (sent : List (Request Snapshot Callback)) : Prop :=
  request.reason.lane = .interactive ∧ (lastInteractive sent).isSome ∨
    request.reason = .parseFile ∧ (lastBackground sent).isSome

theorem Reason.alwaysDelivered_of_interactive {reason : Reason}
    (interactive : reason.lane = .interactive) : reason.alwaysDelivered = false := by
  cases reason <;> first | rfl | cases interactive

theorem Reason.eq_parseFile {reason : Reason} (background : reason.lane = .background)
    (notAlways : reason.alwaysDelivered = false) : reason = .parseFile := by
  cases reason with
  | parseFile => rfl
  | fullTypeCheck => cases notAlways
  | _ => cases background

section Survivors

variable {requests earlier later : List (Request Snapshot Callback)}
  {request : Request Snapshot Callback}

theorem not_outdone_of_survivors (split : survivors requests = earlier ++ request :: later) :
    ¬ request.Outdone later := by
  rintro ⟨_, other, member, same⟩
  have apart := pairwise_survivors requests
  rw [split] at apart
  exact (List.pairwise_cons.mp (List.pairwise_append.mp apart).2.1).1 other member same.symm

theorem outdone_survivors_iff :
    request.Outdone (survivors requests) ↔ request.Overtaken requests := by
  constructor
  · rintro ⟨notAlways, other, survives, same⟩
    rcases List.mem_append.mp survives with interactive | background
    · rw [Option.mem_toList] at interactive
      left
      rw [← same, interactive]
      exact ⟨lane_of_lastInteractive interactive, rfl⟩
    · rw [Option.mem_toList] at background
      right
      rw [lane_of_lastBackground background] at same
      rw [background]
      exact ⟨Reason.eq_parseFile same.symm notAlways, rfl⟩
  · rintro (⟨interactive, there⟩ | ⟨parses, there⟩)
    · rcases Option.isSome_iff_exists.mp there with ⟨other, last⟩
      refine ⟨Reason.alwaysDelivered_of_interactive interactive, other, ?_, ?_⟩
      · exact List.mem_append_left _ (Option.mem_toList.mpr last)
      · rw [lane_of_lastInteractive last, interactive]
    · rcases Option.isSome_iff_exists.mp there with ⟨other, last⟩
      refine ⟨by rw [parses]; rfl, other, ?_, ?_⟩
      · exact List.mem_append_right _ (Option.mem_toList.mpr last)
      · rw [lane_of_lastBackground last, parses]
        rfl

end Survivors

/-- The request whose analyzer call on the worker has begun. -/
def Worker.begun? : Worker Snapshot Callback Output → Option (Request Snapshot Callback)
  | .holding _ => none
  | worker => worker.request?

namespace Worker

variable {worker : Worker Snapshot Callback Output} {request : Request Snapshot Callback}

theorem request?_of_begun? (begun : worker.begun? = some request) :
    worker.request? = some request := by
  cases worker with
  | holding => cases begun
  | _ => exact begun

theorem held?_of_begun? (begun : worker.begun? = some request) : worker.held? = none := by
  cases worker with
  | holding => cases begun
  | _ => rfl

theorem begun?_of_rest (rests : worker.request? = none) : worker.begun? = none := by
  cases worker with
  | holding => rfl
  | _ => exact rests

end Worker

namespace Scheduler

/-- A request has ended as what stands behind it decides. -/
def Fate (scheduler : Scheduler Snapshot Callback Output) (request : Request Snapshot Callback)
    (behind : List (Request Snapshot Callback)) : Prop :=
  (request.Outdone behind → scheduler.outcome? request.id = some .superseded) ∧
    (¬ request.Outdone behind → ∃ analysis,
      scheduler.outcome? request.id = some (.completed analysis))

/-- The requests of a line that the worker has not done with yet. -/
def remaining (scheduler : Scheduler Snapshot Callback Output) : List (Request Snapshot Callback) :=
  scheduler.worker.request?.toList ++ scheduler.waiting

variable {scheduler before after : Scheduler Snapshot Callback Output}
  {event : Event Snapshot Callback Output}

theorem Fate.of_rule {request : Request Snapshot Callback}
    {behind : List (Request Snapshot Callback)} (fate : before.Fate request behind)
    (sound : before.Sound) (rule : before.Rule event after) : after.Fate request behind := by
  constructor
  · intro outdone
    exact sound.outcome?_of_rule rule (fate.1 outdone)
  · intro wanted
    rcases fate.2 wanted with ⟨analysis, completed⟩
    exact ⟨analysis, sound.outcome?_of_rule rule completed⟩

/-- What the worker looks at before it delivers. -/
theorem Sound.isOutdone_iff (sound : scheduler.Sound) (open_ : scheduler.lifecycle ≠ .stopped)
    (request : Request Snapshot Callback) :
    scheduler.isOutdone request = true ↔ request.Outdone scheduler.waiting := by
  have uncancelled := (sound.orderly.uncancelled open_).1
  have laneOf (other : Request Snapshot Callback) :
      HasLane.lane (Job.analyze other) = other.reason.lane := rfl
  simp [isOutdone, uncancelled, LaneSlots.contains, sound.orderly.mailbox_eq open_,
    Request.Outdone, laneOf]

/-- How far the worker has got with a line of requests: those that are done, and what was analyzed
of the line so far. The line begins with the request that was busy at first. -/
structure Drained (busy : Request Snapshot Callback) (line : List (Request Snapshot Callback))
    (ids : List RequestId) (done analyzed : List (Request Snapshot Callback))
    (scheduler : Scheduler Snapshot Callback Output) : Prop where
  sound : scheduler.Sound
  running : scheduler.lifecycle = .running
  born : ∀ id ∈ ids, id < scheduler.completions.length
  order : busy :: line = done ++ scheduler.remaining
  executed : busy :: analyzed = done ++ scheduler.worker.begun?.toList
  settled : ∀ earlier request later, busy :: line = earlier ++ request :: later →
    earlier.length < done.length → scheduler.Fate request later
  posting : ∀ request analysis, scheduler.worker = .posting request analysis →
    ¬ request.Outdone scheduler.waiting

variable {busy : Request Snapshot Callback} {line done analyzed : List (Request Snapshot Callback)}
  {ids : List RequestId}

/-- A step that takes no request out of the hands it is in. -/
theorem Drained.stays (known : Drained busy line ids done analyzed before)
    (step : before.step event = some after) (running : after.lifecycle = .running)
    (waits : after.worker.request?.toList ++ after.waiting =
      before.worker.request?.toList ++ before.waiting)
    (begun : after.worker.begun? = before.worker.begun?)
    (quiet : before.worker.held? = none ∨ ∀ request, after.worker ≠ .executing request)
    (posting : ∀ request analysis, after.worker = .posting request analysis →
      ¬ request.Outdone after.waiting) :
    Drained busy line ids done
      (analyzed ++ (Transition.mk before event after).analyses.filter fun request =>
        request.id ∈ ids) after where
  sound := known.sound.of_rule (rule_of_step step)
  running := running
  born id listed := born_of_rule (rule_of_step step) (known.born id listed)
  order := known.order.trans (congrArg _ waits.symm)
  executed := by
    rw [known.sound.filter_analyses step known.born quiet, List.append_nil, begun]
    exact known.executed
  settled earlier request later split passed :=
    (known.settled earlier request later split passed).of_rule known.sound (rule_of_step step)
  posting := posting

/-- A step of the worker that leaves the queue and the request at its hands as they are. -/
theorem Drained.advances {worker next : Worker Snapshot Callback Output}
    (known : Drained busy line ids done analyzed before) (step : before.step event = some after)
    (running : after.lifecycle = before.lifecycle) (mailbox : after.mailbox = before.mailbox)
    (was : before.worker = worker) (now : after.worker = next)
    (same : next.request? = worker.request?) (begun : next.begun? = worker.begun?)
    (quiet : worker.held? = none)
    (posting : ∀ request analysis, next = .posting request analysis →
      ¬ request.Outdone before.waiting) :
    Drained busy line ids done
      (analyzed ++ (Transition.mk before event after).analyses.filter fun request =>
        request.id ∈ ids) after := by
  have waiting := waiting_of_mailbox mailbox
  apply known.stays step (running.trans known.running)
  · rw [now, was, same, waiting]
  · rw [now, was, begun]
  · left
    rw [was, quiet]
  · rw [now, waiting]
    exact posting

/-- A step that ends the request at the worker's hands, the only one begun whose fate is open. -/
theorem Drained.finishes {request : Request Snapshot Callback}
    (known : Drained busy line ids done analyzed before) (step : before.step event = some after)
    (running : after.lifecycle = .running) (begun : before.worker.begun? = some request)
    (rests : after.worker.request? = none) (waiting : after.waiting = before.waiting)
    (fate : after.Fate request before.waiting) :
    Drained busy line ids (done ++ [request])
      (analyzed ++ (Transition.mk before event after).analyses.filter fun request =>
        request.id ∈ ids) after := by
  have rule := rule_of_step step
  have order : busy :: line = done ++ request :: before.waiting := by
    rw [known.order, remaining, Worker.request?_of_begun? begun]
    rfl
  have quiet := Worker.held?_of_begun? begun
  refine ⟨known.sound.of_rule rule, running, ?_, ?_, ?_, ?_, ?_⟩
  · intro id listed
    exact born_of_rule rule (known.born id listed)
  · rw [order, remaining, rests, waiting, List.append_assoc]
    rfl
  · rw [known.sound.filter_analyses step known.born (.inl quiet), List.append_nil, known.executed,
      begun, Worker.begun?_of_rest rests]
    simp
  · intro earlier other later split passed
    rw [List.length_append, List.length_singleton] at passed
    by_cases before : earlier.length < done.length
    · exact (known.settled earlier other later split before).of_rule known.sound rule
    · have same : earlier.length = done.length := by omega
      rw [order] at split
      rcases List.append_inj split same.symm with ⟨_, rest⟩
      cases rest
      exact fate
  · intro other analysis posting
    simp [posting, Worker.request?] at rests

/-- The worker begins a request of the line behind the busy one, the next one to be analyzed. -/
theorem Drained.begins {request : Request Snapshot Callback}
    (known : Drained busy line ids done analyzed before) (step : before.step event = some after)
    (listed : ∀ request ∈ line, request.id ∈ ids) (running : after.lifecycle = before.lifecycle)
    (holding : before.worker = .holding request) (executing : after.worker = .executing request)
    (calls : after.calls = before.calls) (mailbox : after.mailbox = before.mailbox) :
    Drained busy line ids done
      (analyzed ++ (Transition.mk before event after).analyses.filter fun request =>
        request.id ∈ ids) after := by
  have rule := rule_of_step step
  have waiting := waiting_of_mailbox mailbox
  have order := known.order
  have executed := known.executed
  rw [remaining, holding] at order
  rw [holding, Worker.begun?, Option.toList_none, List.append_nil] at executed
  have inLine : request ∈ line := by
    rw [← executed, List.cons_append, List.cons.injEq] at order
    rw [order.2]
    exact List.mem_append_right _ List.mem_cons_self
  rw [known.sound.filter_analyses_of_began holding executing calls (listed request inLine)]
  refine ⟨known.sound.of_rule rule, running.trans known.running, ?_, ?_, ?_, ?_, ?_⟩
  · intro id listed
    exact born_of_rule rule (known.born id listed)
  · rw [order, remaining, executing, waiting]
    rfl
  · rw [← List.cons_append, executed, executing]
    rfl
  · intro earlier other later split passed
    exact (known.settled earlier other later split passed).of_rule known.sound rule
  · intro other analysis posting
    simp [executing] at posting

/-- What a step of the worker does to the line. -/
theorem Drained.work (known : Drained busy line ids done analyzed before)
    (listed : ∀ request ∈ line, request.id ∈ ids) (calm : event.Calm)
    (works : event.isWorker = true) (step : before.step event = some after) :
    ∃ done, Drained busy line ids done
      (analyzed ++ (Transition.mk before event after).analyses.filter fun request =>
        request.id ∈ ids) after := by
  have running := known.running
  have sound := known.sound
  rcases sound.orderly.uncancelled (by simp [running]) with ⟨uncancelled, _, noTerminate⟩
  have marked {id : RequestId} {phase : WorkPhase Output}
      (works : before.worker.work? = some (id, phase)) :
      before.view id = (Stage.worked phase true).view :=
    sound.marked works fun stopped => by simp [running] at stopped
  cases rule_of_step step with
  | polled looping =>
    have now : (if before.cancelled then Worker.exited else .receiving :
        Worker Snapshot Callback Output) = .receiving := if_neg (by simp [uncancelled])
    exact ⟨done, known.advances step rfl rfl looping now rfl rfl rfl (by simp)⟩
  | receivedNone receiving pops =>
    cases LaneSlots.toList_of_pop_none pops
    exact ⟨done, known.advances step rfl rfl receiving rfl rfl rfl rfl (by simp)⟩
  | receivedTerminate receiving pops =>
    rw [LaneSlots.toList_of_pop_some pops] at noTerminate
    exact absurd List.mem_cons_self noTerminate
  | receivedRequest receiving pops =>
    refine ⟨done, known.stays step running ?_ ?_ (.inl (by rw [receiving]; rfl)) (by simp)⟩
    · have queue := congrArg (List.filterMap Job.request?) (LaneSlots.toList_of_pop_some pops)
      rw [receiving]
      exact queue.symm
    · rw [receiving]
      rfl
  | skipped holding cancelled => simp [uncancelled] at cancelled
  | began holding _ => exact ⟨done, known.begins step listed rfl holding rfl rfl rfl⟩
  | answered executing ready =>
    exact ⟨done, known.advances step rfl rfl executing rfl rfl rfl rfl (by simp)⟩
  | failed executing failed =>
    rcases calm with ⟨analysis, ready⟩
    simp [failed] at ready
  | gaveUp executing gaveUp =>
    rcases calm with ⟨analysis, ready⟩
    simp [gaveUp] at ready
  | recordFaulted recording fault =>
    rcases calm with ⟨version, read⟩
    rw [recordResult_eq_error fault] at read
    cases read
  | recorded recording records =>
    exact ⟨done, known.advances step rfl rfl recording rfl rfl rfl rfl (by simp)⟩
  | @superseded request analysis delivering outdone =>
    have stands := marked (by rw [delivering]; rfl)
    have born := of_decide_eq_true (congrArg View.born stands)
    have outdone := (sound.isOutdone_iff (by simp [running]) request).mp outdone
    refine ⟨_, known.finishes step running (by rw [delivering]; rfl) rfl rfl ⟨fun _ => ?_, ?_⟩⟩
    · exact outcome?_of_ended rfl (List.mem_singleton_self _) born (congrArg View.outcome stands)
    · exact fun wanted => absurd outdone wanted
  | @lost request analysis delivering wanted lost =>
    have pending := congrArg View.outcome (marked (by rw [delivering]; rfl))
    change before.outcome? request.id = none at pending
    simp [pending] at lost
  | @completed request analysis delivering wanted pending =>
    refine ⟨done, known.advances step rfl rfl delivering rfl rfl rfl rfl ?_⟩
    intro other analysis posting outdone
    cases posting
    rw [(sound.isOutdone_iff (by simp [running]) request).mpr outdone] at wanted
    cases wanted
  | @posted request analysis posting | @dropped request analysis posting =>
    have completed := congrArg View.outcome (marked (by rw [posting]; rfl))
    have wanted := known.posting request analysis posting
    exact ⟨_, known.finishes step running (by rw [posting]; rfl) rfl rfl
      ⟨fun outdone => absurd outdone wanted, fun _ => ⟨analysis, completed⟩⟩⟩
  | @cleared leaves clearing =>
    cases leaves with
    | true => exact ⟨done, known.advances step rfl rfl clearing rfl rfl rfl rfl (by simp)⟩
    | false => exact ⟨done, known.advances step rfl rfl clearing rfl rfl rfl rfl (by simp)⟩
  | refused submits | faulted submits | openedRecent submits | openedInline submits
  | openedQueued submits => simp [submits.isWorker_eq_false] at works
  | _ => cases works

theorem Drained.step (known : Drained busy line ids done analyzed before)
    (listed : ∀ request ∈ line, request.id ∈ ids) (calm : event.Calm)
    (step : before.step event = some after) :
    ∃ done, Drained busy line ids done
      (analyzed ++ (Transition.mk before event after).analyses.filter fun request =>
        request.id ∈ ids) after := by
  have rule := rule_of_step step
  cases works : event.isWorker with
  | true => exact known.work listed calm works step
  | false =>
    have worker := worker_of_rule rule works (by simp [known.running])
    have waiting := waiting_of_mailbox
      (mailbox_of_rule rule works calm.ne_shutdown calm.ne_enqueue)
    have running := running_of_rule rule known.running calm.ne_shutdown
    refine ⟨done, known.stays step running ?_ ?_ ?_ ?_⟩
    · rw [worker, waiting]
    · rw [worker]
    · cases held : before.worker.held? with
      | none => exact .inl rfl
      | some id =>
        right
        intro request executing
        simp [← worker, executing, Worker.held?] at held
    · rw [worker, waiting]
      exact known.posting

/-- How far the worker has got with the line after a calm run. -/
theorem Drained.run {drain : List (Event Snapshot Callback Output)}
    {final : Scheduler Snapshot Callback Output}
    (known : Drained busy line ids [] [] scheduler) (listed : ∀ request ∈ line, request.id ∈ ids)
    (atWork : scheduler.worker.AtWork) (run : scheduler.run drain = some final)
    (calm : ∀ event ∈ drain, event.Calm) :
    (∃ done, Drained busy line ids done
      ((scheduler.analysesOf drain).filter fun request => request.id ∈ ids) final) ∧
    final.stats.displaced = scheduler.stats.displaced ∧ final.worker.AtWork := by
  have along := run_induction
    (motive := fun past state => (∀ event ∈ past.map Transition.event, event.Calm) →
      (∃ done, Drained busy line ids done
        ((past.flatMap Transition.analyses).filter fun request => request.id ∈ ids) state) ∧
      state.stats.displaced = scheduler.stats.displaced ∧ state.worker.AtWork)
    (fun _ => ⟨⟨[], known⟩, rfl, atWork⟩) ?_ run
  · rw [map_event_trace run] at along
    exact along calm
  · intro past before event after known step calm
    simp only [List.map_append, List.map_cons, List.map_nil, List.mem_append,
      List.mem_singleton] at calm
    have calmHere := calm event (.inr rfl)
    have rule := rule_of_step step
    rcases known fun event member => calm event (.inl member)
      with ⟨⟨done, drained⟩, displaced, atWork⟩
    rw [List.flatMap_append, List.flatMap_singleton, List.filter_append]
    refine ⟨drained.step listed calmHere step, ?_, ?_⟩
    · rw [displaced_of_rule rule calmHere.ne_shutdown calmHere.ne_enqueue, displaced]
    · exact drained.sound.atWork_of_rule drained.running atWork calmHere rule

/-- What is known once the worker rests and nothing waits. -/
theorem Drained.rests (known : Drained busy line ids done analyzed scheduler)
    (rests : scheduler.worker.request? = none) (empty : scheduler.waiting = []) :
    analyzed = line ∧ ∀ earlier request later, busy :: line = earlier ++ request :: later →
      scheduler.Fate request later := by
  have order := known.order
  have executed := known.executed
  rw [remaining, rests, empty, Option.toList_none, List.append_nil, List.append_nil] at order
  rw [Worker.begun?_of_rest rests, Option.toList_none, List.append_nil, ← order] at executed
  refine ⟨List.tail_eq_of_cons_eq executed, ?_⟩
  intro earlier request later split
  apply known.settled earlier request later split
  rw [← order, split]
  simp

/-- The line that a burst leaves. -/
theorem Coalesced.drained {start : Scheduler Snapshot Callback Output}
    {sent : List (Request Snapshot Callback)} (known : Coalesced start sent scheduler)
    (executing : start.worker = .executing busy) :
    Drained busy (survivors sent) (sent.map fun request => request.id) [] [] scheduler := by
  have worker := known.worker.trans executing
  refine ⟨known.sound, known.running, ?_, ?_, ?_, ?_, ?_⟩
  · intro id listed
    rcases List.mem_map.mp listed with ⟨request, member, rfl⟩
    rcases known.displaced request member with survives | displaced
    · rw [← known.waiting] at survives
      exact known.sound.born_of_waiting survives
    · exact lt_length_of_outcome? displaced
  · rw [remaining, worker, known.waiting]
    rfl
  · rw [worker]
    rfl
  · intro earlier request later split passed
    cases passed
  · intro request analysis posting
    simp [worker] at posting

/-- No request of a burst has been analyzed when the burst is over. -/
theorem Coalesced.not_analyzed {first start : Scheduler Snapshot Callback Output}
    {sent : List (Request Snapshot Callback)} {past : List (Event Snapshot Callback Output)}
    (known : Coalesced start sent scheduler) (sound : first.Sound)
    (run : first.run past = some scheduler) :
    ((first.analysesOf past).filter fun request =>
      request.id ∈ sent.map fun request => request.id) = [] := by
  apply List.filter_eq_nil_iff.mpr
  intro request analyzed listed
  rcases sound.begun_of_analysesOf run request analyzed with ⟨stage, stands, begun⟩
  rcases List.mem_map.mp (of_decide_eq_true listed) with ⟨other, member, same⟩
  rw [← same] at stands
  rcases known.displaced other member with survives | displaced
  · rw [← known.waiting] at survives
    rw [known.sound.view_of_waiting survives] at stands
    rw [← Stage.view_injective stands] at begun
    exact begun
  · have ended : stage.outcome? = some .displaced := by
      rw [← Stage.outcome_view, ← stands]
      exact displaced
    exact Stage.not_begun_of_displaced ended begun

/-- The burst law. While the worker is inside the analyzer with nothing behind its request, a burst
enters the queue. Left to itself the worker can always get through, and however it does, it has
analyzed the survivors of the burst, in their order, and nothing else of it. -/
theorem burst_law {config : Config} {sufficient : Reason → Bool}
    {events burst : List (Event Snapshot Callback Output)}
    {middle : Scheduler Snapshot Callback Output}
    (run : (new config sufficient).run events = some scheduler)
    (notStopped : scheduler.lifecycle ≠ .stopped) (executing : scheduler.worker = .executing busy)
    (empty : scheduler.mailbox.toList = []) (burstRun : scheduler.run burst = some middle)
    (whileBusy : ∀ event ∈ burst, event.isWorker = false ∧ event ≠ .shutdown) :
    let sent := scheduler.sentOf burst
    (sent.map fun request => request.id).Nodup ∧
    (∀ drain reached, middle.run drain = some reached → (∀ event ∈ drain, event.Calm) →
      ∃ rest final, reached.run rest = some final ∧ (∀ event ∈ rest, event.Calm) ∧
        final.worker.request? = none ∧ final.waiting = []) ∧
    ∀ drain final, middle.run drain = some final → (∀ event ∈ drain, event.Calm) →
      final.worker.request? = none → final.waiting = [] →
      (((new config sufficient).analysesOf (events ++ burst ++ drain)).filter fun request =>
        request.id ∈ sent.map fun request => request.id) = survivors sent ∧
      (∀ request ∈ survivors sent, ∃ analysis,
        final.outcome? request.id = some (.completed analysis)) ∧
      (∀ request ∈ sent, request ∉ survivors sent →
        final.outcome? request.id = some .displaced) ∧
      final.stats.displaced = scheduler.stats.displaced +
        UInt64.ofNat (sent.length - (survivors sent).length) ∧
      (busy.Overtaken sent → final.outcome? busy.id = some .superseded) ∧
      (¬ busy.Overtaken sent → ∃ analysis,
        final.outcome? busy.id = some (.completed analysis)) := by
  intro sent
  have sound := (sound_new config sufficient).run run
  have running : scheduler.lifecycle = .running := by
    cases lifecycle : scheduler.lifecycle with
    | idle => simp [(sound.orderly.unstarted lifecycle).1] at executing
    | running => rfl
    | stopped => exact absurd lifecycle notStopped
  have noneWaits : scheduler.waiting = [] := by
    rw [waiting, empty]
    rfl
  have coalesced : Coalesced scheduler sent middle :=
    sound.coalesced running noneWaits burstRun whileBusy
  have drained := coalesced.drained executing
  have listed : ∀ request ∈ survivors sent, request.id ∈ sent.map fun request => request.id :=
    fun request survives => List.mem_map_of_mem (mem_of_mem_survivors survives)
  have atWork : middle.worker.AtWork := by
    rw [coalesced.worker, executing]
    exact trivial
  refine ⟨coalesced.distinct, ?_, ?_⟩
  · intro drain reached drainRun calm
    rcases drained.run listed atWork drainRun calm with ⟨⟨done, known⟩, _, atWork⟩
    exact known.sound.exists_drain known.running atWork
  · intro drain final drainRun calm rests finalWaits
    rcases drained.run listed atWork drainRun calm with ⟨⟨done, known⟩, displaced, _⟩
    rcases known.rests rests finalWaits with ⟨analyzed, fate⟩
    have past : (new config sufficient).run (events ++ burst) = some middle := by
      rw [run_append, run, Option.bind_some, burstRun]
    refine ⟨?_, ?_, ?_, ?_, ?_, ?_⟩
    · rw [analysesOf, trace_append past, List.flatMap_append, List.filter_append]
      have before := coalesced.not_analyzed (sound_new config sufficient) past
      rw [analysesOf] at before analyzed
      rw [before, analyzed, List.nil_append]
    · intro request survives
      rcases List.append_of_mem survives with ⟨earlier, later, split⟩
      have behind := fate (busy :: earlier) request later (by rw [split]; rfl)
      exact behind.2 (not_outdone_of_survivors split)
    · intro request member gone
      rcases coalesced.displaced request member with survives | outcome
      · exact absurd survives gone
      · exact coalesced.sound.outcome?_run drainRun outcome
    · rcases coalesced.counted with ⟨count, balance, counted⟩
      have difference : sent.length - (survivors sent).length = count := by omega
      rw [displaced, counted, difference]
    · intro overtaken
      exact (fate [] busy _ rfl).1 (outdone_survivors_iff.mpr overtaken)
    · intro free
      exact (fate [] busy _ rfl).2 fun outdone => free (outdone_survivors_iff.mp outdone)

/-- A check that the worker is busy with. -/
def busyCheck : List (Event Unit Unit Unit) :=
  [.submit { source := ⟨"a"⟩, position := {}, reason := .fullTypeCheck, snapshot := () } (.ok {}) 0,
    .enqueue 0 .started, .workerPoll, .workerReceive, .workerBegin]

/-- A parse, a completion and a check. -/
def mixedBurst : List (Event Unit Unit Unit) :=
  [.submit { source := ⟨"a"⟩, position := {}, reason := .parseFile, snapshot := () } (.ok {}) 0,
    .enqueue 1 .started,
    .submit { source := ⟨"a"⟩, position := {}, reason := .completeWord, snapshot := () } (.ok {}) 0,
    .enqueue 2 .started,
    .submit { source := ⟨"a"⟩, position := {}, reason := .fullTypeCheck, snapshot := () } (.ok {}) 0,
    .enqueue 3 .started]

/-- The worker ends one request and takes the next, if there is one. -/
def oneAnswer : List (Event Unit Unit Unit) :=
  [.workerAnswer (.ok (.ok ⟨none, {}, false⟩)), .workerRecord (.ok {}) 0, .workerDeliver,
    .workerPost true, .workerClear, .workerPoll, .workerReceive]

theorem burst_law_mixedBurst : ∃ scheduler middle final : Scheduler Unit Unit Unit,
    (new .default fun _ => false).run busyCheck = some scheduler ∧
      scheduler.run mixedBurst = some middle ∧
      middle.run (oneAnswer ++ .workerBegin :: oneAnswer ++ .workerBegin :: oneAnswer) =
        some final ∧
      final.outcome? 1 = some .displaced ∧
      (∃ analysis, final.outcome? 2 = some (.completed analysis)) ∧
      (∃ analysis, final.outcome? 3 = some (.completed analysis)) ∧
      ∃ analysis, final.outcome? 0 = some (.completed analysis) := by
  have run : (new .default fun _ => false : Scheduler Unit Unit Unit).run busyCheck = some _ := rfl
  have whileBusy : ∀ event ∈ mixedBurst, event.isWorker = false ∧ event ≠ .shutdown := by
    simp [mixedBurst, Event.isWorker]
  have calm : ∀ event ∈ oneAnswer ++ .workerBegin :: oneAnswer ++ .workerBegin :: oneAnswer,
      event.Calm := by
    simp [oneAnswer, Event.Calm, Execution.verdict]
  have law := burst_law run (by decide) rfl rfl (by exact rfl) whileBusy
  have law := law.2.2 _ _ rfl calm rfl rfl
  rcases law with ⟨_, completed, displaced, _, _, free⟩
  refine ⟨_, _, _, rfl, rfl, rfl, displaced _ (.head _) ?_, completed _ (.head _),
    completed _ (.tail _ (.head _)), free ?_⟩
  · intro survives
    exact absurd (List.mem_map_of_mem (f := fun request => request.id) survives) (by decide)
  · rintro (⟨interactive, _⟩ | ⟨parses, _⟩)
    · cases interactive
    · cases parses

end Scheduler

end EditorAnalysis
