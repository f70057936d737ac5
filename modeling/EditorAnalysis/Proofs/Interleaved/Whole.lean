import EditorAnalysis.Proofs.Interleaved.Passage
import EditorAnalysis.Proofs.Scheduler.Pipeline

/-!
# A shutdown on its way

Between the point where a shutdown fires the token and the one where it waits for the worker, a
request may be in a place that the scheduler does not know of, among those that the shutdown has
drained. `Interleaved.whole` puts these back into the queue and lets the shutdown wait already. What
holds of every scheduler then holds of it too, at every point of a run, and `Interleaved.flows_of_step`
says that every move of a thread takes requests along the stages and keeps their order.
-/

namespace EditorAnalysis

variable {Snapshot Callback Output : Type}

/-- A queue of the given requests, of which there are at most two. -/
def queueOf : List (Request Snapshot Callback) → LaneSlots (Job Snapshot Callback)
  | [] => { first := none, second := none }
  | first :: rest => { first := some (.analyze first), second := rest.head?.map .analyze }

theorem toList_queueOf {requests : List (Request Snapshot Callback)} (short : requests.length ≤ 2) :
    (queueOf requests).toList = requests.map .analyze := by
  rcases requests with _ | ⟨first, _ | ⟨second, _ | ⟨third, rest⟩⟩⟩
  · rfl
  · rfl
  · rfl
  · simp at short

theorem pop_queueOf {request : Request Snapshot Callback}
    {requests : List (Request Snapshot Callback)} (short : (request :: requests).length ≤ 2) :
    (queueOf (request :: requests)).pop = (some (.analyze request), queueOf requests) := by
  rcases requests with _ | ⟨second, _ | ⟨third, rest⟩⟩
  · rfl
  · rfl
  · simp at short

/-- A queue without an order to go is made up of the requests in it. -/
theorem queueOf_waiting {slots : LaneSlots (Job Snapshot Callback)} (proper : slots.Proper)
    (noOrder : .terminate ∉ slots.toList) :
    queueOf (slots.toList.filterMap Job.request?) = slots ∧
      (slots.toList.filterMap Job.request?).length ≤ 2 := by
  rcases slots with ⟨_ | _ | _, _ | _ | _⟩ <;>
    simp_all [LaneSlots.toList, LaneSlots.Proper, queueOf, Job.request?]

namespace Scheduler

open Completion (endAll)

variable {before after scheduler : Scheduler Snapshot Callback Output}
  {event : Event Snapshot Callback Output}

section Overlay

variable (mailbox : LaneSlots (Job Snapshot Callback)) (closing : Option Nat)

/-- Recording neither looks at the queue nor at a shutdown. -/
theorem recordResult_overlaid {request : Request Snapshot Callback} {analysis : Analysis Output}
    {reading : Attempt Version} {now : Instant}
    {answer : Attempt (Scheduler Snapshot Callback Output)}
    (records : scheduler.recordResult request analysis reading now = answer) :
    recordResult { scheduler with mailbox, closing } request analysis reading now =
      answer.map fun recorded => { recorded with mailbox, closing } := by
  subst records
  have same : cacheAfter { scheduler with mailbox, closing } request analysis reading =
    scheduler.cacheAfter request analysis reading := rfl
  rw [recordResult_eq, recordResult_eq, same]
  cases scheduler.cacheAfter request analysis reading <;> rfl

theorem rule_idle_of_stopped {trigger : IdleTrigger Snapshot Callback} (reading : Attempt Version)
    (now : Instant) (stopped : scheduler.lifecycle = .stopped) :
    scheduler.Rule (.idle trigger reading now) scheduler := by
  by_cases decided : scheduler.idleDecision trigger.needsRefresh trigger.quiet = .submit
  · exact .refused (.idle reading now decided) stopped
  · exact .declined decided

/-- In a scheduler that is stopped, what the queue holds and whether a shutdown waits make no
difference to a step that does not look at them. -/
theorem Rule.overlaid (rule : before.Rule event after) (stopped : before.lifecycle = .stopped)
    (unattended : before.closing = none) (notReceive : event ≠ .workerReceive)
    (notDeliver : event ≠ .workerDeliver) :
    Rule { before with mailbox, closing } event { after with mailbox, closing } := by
  have never {Property : Prop} (open_ : before.lifecycle ≠ .stopped) : Property :=
    absurd stopped open_
  cases rule with
  | setActive source => exact .setActive source
  | startAgain running => exact never (by simp [running])
  | startFailed failed => exact .startFailed (by simpa [start, stopped] using failed)
  | started idle => exact never (by simp [idle])
  | refused submits =>
    cases submits with
    | submit => exact .refused (.submit _ _ _) stopped
    | idle => exact rule_idle_of_stopped _ _ stopped
  | declined => exact rule_idle_of_stopped _ _ stopped
  | faulted _ open_ | openedRecent _ open_ | openedInline _ open_ | openedQueued _ open_
  | enqueued _ open_ => exact never open_
  | turnedAway found failed => exact .turnedAway found (by simpa [start, stopped] using failed)
  | answeredCall found ready => exact .answeredCall found ready
  | failedCall found failed => exact .failedCall found failed
  | cancelledCall found cancelled => exact .cancelledCall found cancelled
  | faultedCall found fault =>
    exact .faultedCall found (recordResult_overlaid mailbox closing fault)
  | @lostCall id _ _ request analysis _ found records lost =>
    have calls : call? { before with mailbox, closing } id = some ⟨request, .recording analysis⟩ :=
      found
    have rule := Rule.lostCall calls (recordResult_overlaid mailbox closing records) lost
    exact rule
  | @deliveredCall id _ _ request analysis _ found records pending =>
    have calls : call? { before with mailbox, closing } id = some ⟨request, .recording analysis⟩ :=
      found
    have rule := Rule.deliveredCall calls (recordResult_overlaid mailbox closing records) pending
    exact rule
  | returnedCall found => exact .returnedCall found
  | polled looping => exact .polled looping
  | receivedNone | receivedTerminate | receivedRequest => exact absurd rfl notReceive
  | skipped holding cancelled => exact .skipped holding cancelled
  | began holding uncancelled => exact .began holding uncancelled
  | answered executing ready => exact .answered executing ready
  | failed executing failed => exact .failed executing failed
  | gaveUp executing cancelled => exact .gaveUp executing cancelled
  | recordFaulted recording fault =>
    exact .recordFaulted recording (recordResult_overlaid mailbox closing fault)
  | @recorded _ _ request analysis _ recording records =>
    have holds : ({ before with mailbox, closing } : Scheduler Snapshot Callback Output).worker =
      .recording request analysis := recording
    have rule := Rule.recorded holds (recordResult_overlaid mailbox closing records)
    exact rule
  | superseded | lost | completed => exact absurd rfl notDeliver
  | posted posting => exact .posted posting
  | dropped posting => exact .dropped posting
  | cleared clearing => exact .cleared clearing
  | neverStarted idle => exact never (by simp [idle])
  | stoppedAgain => exact .stoppedAgain stopped
  | stopping running => exact never (by simp [running])
  | joined waits | gaveUpNothing waits | gaveUpRequest waits => simp [unattended] at waits
  | pumped jobs => exact .pumped jobs
  | droppedPump => exact .droppedPump

end Overlay

section Flows

variable {request : Request Snapshot Callback} {analysis : Analysis Output}

theorem Sound.recounted (sound : scheduler.Sound) (busy : Bool) (stats : Stats) :
    Sound { scheduler with busy, stats } where
  orderly := ⟨sound.orderly.proper, sound.orderly.unstarted, sound.orderly.uncancelled,
    sound.orderly.fired⟩
  published := ⟨sound.published.concerned, sound.published.marked⟩
  staged := sound.staged
  consistent := sound.consistent

/-- The marks of the worker and the counters have no part in the flow of requests. -/
theorem Flows.recounted (flows : Flows before after []) (busy : Bool) (stats : Stats) :
    Flows before { after with busy, stats } [] where
  sound := flows.sound.recounted busy stats
  advances := flows.advances
  pipeline := by
    rcases flows.pipeline with shrinks | ⟨_, _, sends, _⟩
    · exact .inl shrinks
    · cases sends

theorem Sound.flows_still (sound : scheduler.Sound) : Flows scheduler scheduler [] where
  sound := sound
  advances _ stage stands := ⟨stage, stands, .inl rfl⟩
  pipeline := .inl ⟨rfl, List.Sublist.refl _⟩

theorem Sound.flows_published (sound : scheduler.Sound)
    (holding : scheduler.worker = .holding request) (uncancelled : scheduler.cancelled = false) :
    Flows scheduler
      { scheduler with inFlight := some request.id, worker := .executing request } [] := by
  have flows := sound.flows_silent (.began holding uncancelled) (List.Subset.refl _)
  exact flows.recounted scheduler.busy scheduler.stats

/-- The worker ends the request it is concerned with, without posting it. -/
theorem Sound.flows_workEnd {id : RequestId} {phase : WorkPhase Output} {outcome : Outcome Output}
    (sound : scheduler.Sound) (works : scheduler.worker.work? = some (id, phase))
    (ends : phase.MayEnd outcome) (leaves : Bool) (stats : Stats) :
    Flows scheduler { scheduler with
      completions := endAll outcome [id] scheduler.completions
      stats
      worker := .clearing leaves } [] where
  sound := {
    orderly := sound.orderly.ofWorker rfl rfl rfl rfl (by
      intro never
      simp [never, Worker.work?] at works)
    published := .done rfl
    staged := by
      intro target
      rcases sound.staged target with ⟨stage, stands⟩
      rcases advance_of_workEnd outcome leaves stands works ends with ⟨later, stands, _⟩
      exact ⟨later, stands⟩
    consistent := Completion.consistent_endAll sound.consistent }
  advances _ _ stands := advance_of_workEnd outcome leaves stands works ends
  pipeline := by
    left
    refine ⟨rfl, pipeline_sublist (List.Sublist.refl _) ?_ (List.Sublist.refl _)⟩
    exact List.nil_sublist _

/-- The worker goes on from its wait without a request. -/
theorem Sound.flows_received (sound : scheduler.Sound) (receiving : scheduler.worker = .receiving)
    {worker : Worker Snapshot Callback Output} (goesOn : worker = .looping ∨ worker = .exited) :
    Flows scheduler { scheduler with worker } [] := by
  have rests : scheduler.worker.request? = none := by rw [receiving]; rfl
  have stillRests : worker.request? = none := by rcases goesOn with rfl | rfl <;> rfl
  have same := view_of_rest worker scheduler.mailbox rests stillRests rfl
  refine ⟨⟨?_, ?_, ?_, sound.consistent⟩, ?_, .inl ⟨rfl, ?_⟩⟩
  · exact sound.orderly.ofWorker rfl rfl rfl rfl (by simp [receiving])
  · refine .atRest ?_ (Worker.work?_of_rest stillRests)
    exact sound.published.unmarked (by rw [receiving]; rfl) (by simp [receiving])
  · intro id
    rcases sound.staged id with ⟨stage, stands⟩
    exact ⟨stage, (same id).trans stands⟩
  · intro id stage stands
    exact stays_of_view_eq stands (same id)
  · refine pipeline_sublist (List.Sublist.refl _) ?_ (List.Sublist.refl _)
    rw [stillRests]
    exact List.nil_sublist _

/-- A shutdown comes and has not drained the queue yet. -/
theorem Sound.flows_fired (sound : scheduler.Sound) (running : scheduler.lifecycle = .running) :
    Flows scheduler { scheduler with
      lifecycle := .stopped
      cancelled := true
      closing := some 0 } [] where
  sound := {
    orderly := ⟨sound.orderly.proper, nofun, by simp, fun _ => .inl rfl⟩
    published := by
      refine ⟨sound.published.concerned, ?_⟩
      intro id phase works
      rcases sound.published.marked id phase works with here | ⟨stopped, _⟩
      · exact .inl here
      · simp [running] at stopped
    staged := sound.staged
    consistent := sound.consistent }
  advances _ _ stands := stays_of_view_eq stands rfl
  pipeline := .inl ⟨rfl, List.Sublist.refl _⟩

theorem advance_of_abort {id : RequestId} {stage : Stage Output} {stats : Stats}
    {mailbox : LaneSlots (Job Snapshot Callback)} (stands : scheduler.view id = stage.view)
    (pops : scheduler.mailbox.pop = (some (.analyze request), mailbox)) :
    ∃ later, view { scheduler with
        mailbox
        completions := endAll .aborted [request.id] scheduler.completions
        stats } id = later.view ∧ (later = stage ∨ stage.Advance later) := by
  have ids := congrArg Job.requestIds (LaneSlots.toList_of_pop_some pops)
  have counts := congrArg (List.count id) ids
  rw [Job.requestIds_analyze, List.count_cons] at counts
  by_cases here : request.id = id
  · have waits : 0 < stage.view.waiting := by
      rw [← stands]
      simp [view, counts, here]
    cases Stage.eq_waiting waits
    refine ⟨.ended .aborted false, ?_, .inr .drain⟩
    simp only [view, Stage.view, View.mk.injEq, decide_eq_true_eq] at stands ⊢
    rcases stands with ⟨born, recorded, calls, waiting, held, works, marked, posted⟩
    have left : (Job.requestIds mailbox.toList).count id = 0 := by
      simp only [waiting, here, beq_self_eq_true, if_true] at counts
      omega
    simp [born, here, Completion.recorded_endAll_same, recorded, calls, left, held, works, marked,
      posted]
  · apply stays_of_view_eq stands
    have other : id ∉ [request.id] := by simp [Ne.symm here]
    simp [view, Completion.recorded_endAll_other _ other, counts, here]

/-- A shutdown aborts one of the requests that it has drained. -/
theorem Sound.flows_aborted {mailbox : LaneSlots (Job Snapshot Callback)} (sound : scheduler.Sound)
    (stopped : scheduler.lifecycle = .stopped)
    (pops : scheduler.mailbox.pop = (some (.analyze request), mailbox)) (stats : Stats) :
    Flows scheduler { scheduler with
      mailbox
      completions := endAll .aborted [request.id] scheduler.completions
      stats } [] where
  sound := {
    orderly := by
      refine ⟨?_, by simp [stopped], by simp [stopped], sound.orderly.fired⟩
      have proper := LaneSlots.proper_pop sound.orderly.proper
      rwa [pops] at proper
    published := ⟨sound.published.concerned, sound.published.marked⟩
    staged := by
      intro id
      rcases sound.staged id with ⟨stage, stands⟩
      rcases advance_of_abort stands pops with ⟨later, stands, _⟩
      exact ⟨later, stands⟩
    consistent := Completion.consistent_endAll sound.consistent }
  advances _ _ stands := advance_of_abort stands pops
  pipeline := by
    left
    refine ⟨rfl, pipeline_sublist (List.Sublist.refl _) (List.Sublist.refl _) ?_⟩
    have head : scheduler.waiting = request :: mailbox.toList.filterMap Job.request? :=
      congrArg (List.filterMap Job.request?) (LaneSlots.toList_of_pop_some pops)
    rw [head]
    exact List.sublist_cons_self _ _

/-- A shutdown that waits already waits with another count, and no request is in the queue. -/
theorem Sound.flows_awaits {mailbox : LaneSlots (Job Snapshot Callback)} {known count : Nat}
    (sound : scheduler.Sound) (closing : scheduler.closing = some known)
    (empty : scheduler.waiting = []) (proper : mailbox.Proper)
    (stillEmpty : mailbox.toList.filterMap Job.request? = []) :
    Flows scheduler { scheduler with mailbox, closing := some count } [] := by
  have stopped := sound.orderly.stopped_of_closing closing
  have same (id : RequestId) :
      view { scheduler with mailbox, closing := some count } id = scheduler.view id := by
    simp only [view, requestIds_mailbox, empty]
    simp [Job.requestIds, stillEmpty]
  refine ⟨⟨?_, ?_, ?_, sound.consistent⟩, ?_, .inl ⟨rfl, ?_⟩⟩
  · exact ⟨proper, by simp [stopped], by simp [stopped], sound.orderly.fired⟩
  · refine ⟨sound.published.concerned, ?_⟩
    intro id phase works
    rcases sound.published.marked id phase works with here | ⟨_, unattended⟩
    · exact .inl here
    · simp [closing] at unattended
  · intro id
    rcases sound.staged id with ⟨stage, stands⟩
    exact ⟨stage, (same id).trans stands⟩
  · intro id stage stands
    exact stays_of_view_eq stands (same id)
  · refine pipeline_sublist (List.Sublist.refl _) (List.Sublist.refl _) ?_
    rw [Scheduler.waiting, stillEmpty]
    exact List.nil_sublist _

end Flows

end Scheduler

namespace Interleaved

open Scheduler (Ordered Flows)

/-- The scheduler as it would be if the shutdown that is on its way waited for the worker already,
with the requests still in the queue that it has drained and not yet aborted. -/
def whole (threads : Interleaved Snapshot Callback Output) : Scheduler Snapshot Callback Output :=
  match threads.shutdown with
  | .between => threads.shared
  | .fired => { threads.shared with closing := some 0 }
  | .draining requests _ =>
      { threads.shared with mailbox := queueOf requests, closing := some 0 }

/-- The point of the worker fits what it is concerned with. -/
def Fits (threads : Interleaved Snapshot Callback Output) : Prop :=
  match threads.worker with
  | .between => True
  | .published | .marked | .counted => ∃ request, threads.shared.worker = .executing request
  | .looked droppable => ∃ request analysis,
      threads.shared.worker = .delivering request analysis ∧
        (droppable = true → request.reason.alwaysDelivered = false) ∧
        (threads.shared.cancelled = false → droppable = !request.reason.alwaysDelivered)

/-- What is known at every point of a run after some requests have been sent, in this order. -/
structure Known (sent : List (Request Snapshot Callback))
    (threads : Interleaved Snapshot Callback Output) : Prop where
  ordered : Ordered sent threads.whole
  fits : threads.Fits
  underway : threads.shutdown ≠ .between →
    threads.shared.lifecycle = .stopped ∧ threads.shared.cancelled = true ∧
      threads.shared.closing = none
  unordered : threads.shutdown = .fired → .terminate ∉ threads.shared.mailbox.toList
  drained : ∀ requests aborted, threads.shutdown = .draining requests aborted →
    requests.length ≤ 2 ∧
      (threads.shared.mailbox = ⟨some .terminate, none⟩ ∨ threads.shared.mailbox = ⟨none, none⟩)

variable {threads before after final : Interleaved Snapshot Callback Output}
  {event : Event Snapshot Callback Output} {move : Move Snapshot Callback Output}
  {moves : List (Move Snapshot Callback Output)} {sent : List (Request Snapshot Callback)}

theorem known_new (config : Config) (sufficient : Reason → Bool) :
    Known [] (new config sufficient : Interleaved Snapshot Callback Output) where
  ordered := Scheduler.ordered_new config sufficient
  fits := trivial
  underway midway := absurd rfl midway
  unordered := nofun
  drained := nofun

@[simp]
theorem worker_whole : threads.whole.worker = threads.shared.worker := by
  unfold whole
  split <;> rfl

@[simp]
theorem cancelled_whole : threads.whole.cancelled = threads.shared.cancelled := by
  unfold whole
  split <;> rfl

@[simp]
theorem lifecycle_whole : threads.whole.lifecycle = threads.shared.lifecycle := by
  unfold whole
  split <;> rfl

@[simp]
theorem completions_whole : threads.whole.completions = threads.shared.completions := by
  unfold whole
  split <;> rfl

@[simp]
theorem inFlight_whole : threads.whole.inFlight = threads.shared.inFlight := by
  unfold whole
  split <;> rfl

@[simp]
theorem outcome?_whole (id : RequestId) : threads.whole.outcome? id = threads.shared.outcome? id := by
  simp [Scheduler.outcome?]

@[simp]
theorem outcome_view_whole (id : RequestId) :
    (threads.whole.view id).outcome = threads.shared.outcome? id :=
  outcome?_whole id

/-- In a scheduler that is stopped nothing enters the queue. -/
theorem waiting_of_stopped {before after : Scheduler Snapshot Callback Output}
    (stopped : before.lifecycle = .stopped) (rule : before.Rule event after) :
    after.waiting.Sublist before.waiting := by
  rcases Scheduler.mailbox_of_stopped stopped rule with same | ⟨_, job, pops⟩
  · rw [Scheduler.waiting_of_mailbox same]
  · rw [Scheduler.waiting, Scheduler.waiting, LaneSlots.toList_of_pop_some pops]
    exact (List.sublist_cons_self job _).filterMap Job.request?

theorem sent_of_stopped {before after : Scheduler Snapshot Callback Output}
    (stopped : before.lifecycle = .stopped) (rule : before.Rule event after) :
    (Transition.mk before event after).sent = [] :=
  Scheduler.sent_of_waiting_subset (waiting_of_stopped stopped rule).subset

/-- An event while a shutdown has fired the token and not yet drained the queue. -/
theorem flows_of_fired {before after : Scheduler Snapshot Callback Output}
    (sound : Scheduler.Sound { before with closing := some 0 })
    (stopped : before.lifecycle = .stopped) (unattended : before.closing = none)
    (notDeliver : event ≠ .workerDeliver) (rule : before.Rule event after) :
    Flows { before with closing := some 0 } { after with closing := some 0 } [] := by
  have subset := (waiting_of_stopped stopped rule).subset
  by_cases receive : event = .workerReceive
  · subst receive
    cases rule with
    | refused submits | faulted submits | openedRecent submits | openedInline submits
    | openedQueued submits => cases submits
    | receivedNone receiving pops => exact sound.flows_silent (.receivedNone receiving pops) subset
    | receivedTerminate receiving pops =>
      exact sound.flows_silent (.receivedTerminate receiving pops) subset
    | receivedRequest receiving pops =>
      exact sound.flows_silent (.receivedRequest receiving pops) subset
  · have overlaid := rule.overlaid before.mailbox (some 0) stopped unattended receive notDeliver
    rcases Scheduler.mailbox_of_stopped stopped rule with same | ⟨receives, _⟩
    · have queue : ({ after with mailbox := before.mailbox, closing := some 0 } :
          Scheduler Snapshot Callback Output) = { after with closing := some 0 } := by rw [← same]
      rw [queue] at overlaid
      exact sound.flows_silent overlaid subset
    · exact absurd receives receive

/-- An event while the requests that a shutdown has drained are not all aborted. -/
theorem flows_of_draining {before after : Scheduler Snapshot Callback Output}
    {mailbox : LaneSlots (Job Snapshot Callback)}
    (sound : Scheduler.Sound { before with mailbox, closing := some 0 })
    (stopped : before.lifecycle = .stopped) (unattended : before.closing = none)
    (empty : before.waiting = []) (notDeliver : event ≠ .workerDeliver)
    (rule : before.Rule event after) :
    Flows { before with mailbox, closing := some 0 } { after with mailbox, closing := some 0 }
      [] := by
  by_cases receive : event = .workerReceive
  · subst receive
    cases rule with
    | refused submits | faulted submits | openedRecent submits | openedInline submits
    | openedQueued submits => cases submits
    | receivedNone receiving => exact sound.flows_received receiving (.inl rfl)
    | receivedTerminate receiving => exact sound.flows_received receiving (.inr rfl)
    | receivedRequest receiving pops =>
      rw [Scheduler.waiting, LaneSlots.toList_of_pop_some pops] at empty
      cases empty
  · have overlaid := rule.overlaid mailbox (some 0) stopped unattended receive notDeliver
    exact sound.flows_silent overlaid (List.Subset.refl _)

theorem Known.sound (known : Known sent threads) : threads.whole.Sound :=
  known.ordered.sound

theorem Known.empty_of_draining {requests : List (Request Snapshot Callback)} {aborted : Nat}
    (known : Known sent threads) (draining : threads.shutdown = .draining requests aborted) :
    threads.shared.mailbox.Proper ∧ threads.shared.waiting = [] := by
  rcases (known.drained requests aborted draining).2 with order | none <;>
    simp [Scheduler.waiting, LaneSlots.Proper, LaneSlots.toList, Job.request?, *]

theorem Known.flows_event {next : Scheduler Snapshot Callback Output} (known : Known sent before)
    (admitted : before.admits event = true) (step : before.shared.step event = some next) :
    Flows before.whole ({ before with shared := next } : Interleaved _ _ _).whole
      (Transition.mk before.shared event next).sent := by
  have rule := Scheduler.rule_of_step step
  have sound := known.sound
  have notDeliver : event ≠ .workerDeliver := by
    rintro rfl
    cases admitted
  cases shutdown : before.shutdown with
  | between =>
    simp only [whole, shutdown] at sound ⊢
    exact sound.flows rule
  | fired =>
    rcases known.underway (by simp [shutdown]) with ⟨stopped, _, unattended⟩
    simp only [whole, shutdown] at sound ⊢
    rw [sent_of_stopped stopped rule]
    exact flows_of_fired sound stopped unattended notDeliver rule
  | draining requests aborted =>
    rcases known.underway (by simp [shutdown]) with ⟨stopped, _, unattended⟩
    have empty := (known.empty_of_draining shutdown).2
    simp only [whole, shutdown] at sound ⊢
    rw [sent_of_stopped stopped rule]
    exact flows_of_draining sound stopped unattended empty notDeliver rule

/-- A worker that has looked at its token and does not drop its result would not drop it if it looked
at both at once. -/
theorem Known.isOutdone_eq_false {droppable : Bool} {request : Request Snapshot Callback}
    {analysis : Analysis Output} (known : Known sent before)
    (looked : before.worker = .looked droppable)
    (delivering : before.shared.worker = .delivering request analysis)
    (wanted : (droppable && before.shared.mailbox.contains request.reason.lane) = false) :
    before.whole.isOutdone request = false := by
  cases cancelled : before.shared.cancelled with
  | true => simp [Scheduler.isOutdone, cancelled]
  | false =>
    have between : before.shutdown = .between := by
      apply Classical.byContradiction
      intro midway
      simp [(known.underway midway).2.1] at cancelled
    have fits := known.fits
    simp only [Fits, looked] at fits
    rcases fits with ⟨other, _, same, _, exact⟩
    cases delivering.symm.trans same
    rw [exact cancelled] at wanted
    simpa [whole, between, Scheduler.isOutdone, cancelled] using wanted

/-- Every move of a thread takes requests along the stages and keeps their order. -/
theorem Known.flows (known : Known sent before) (step : before.step move = some after) :
    Flows before.whole after.whole (Passage.mk before move after).sent := by
  have sound := known.sound
  cases rule_of_step step with
  | event admitted stepped =>
    have flows := known.flows_event admitted stepped
    simpa using flows
  | skipped between holding cancelled =>
    cases shutdown : before.shutdown <;> simp only [whole, shutdown] at sound ⊢ <;>
      exact sound.flows_silent (.skipped holding cancelled) (List.Subset.refl _)
  | published between holding uncancelled =>
    cases shutdown : before.shutdown <;> simp only [whole, shutdown] at sound ⊢ <;>
      exact sound.flows_published holding uncancelled
  | marked published =>
    cases shutdown : before.shutdown <;> simp only [whole, shutdown] at sound ⊢ <;>
      exact sound.flows_still.recounted true _
  | counted marked =>
    cases shutdown : before.shutdown <;> simp only [whole, shutdown] at sound ⊢ <;>
      exact sound.flows_still.recounted _ _
  | called | looked => exact sound.flows_still
  | @superseded request analysis looked delivering outdone =>
    have works : before.shared.worker.work? = some (request.id, .delivering analysis) := by
      rw [delivering]; rfl
    cases shutdown : before.shutdown <;> simp only [whole, shutdown] at sound ⊢ <;>
      exact sound.flows_workEnd works rfl false _
  | @lost _ request analysis looked delivering wanted lost =>
    have works : before.shared.worker.work? = some (request.id, .delivering analysis) := by
      rw [delivering]; rfl
    have same : Completion.endAll .superseded [request.id] before.shared.completions =
        before.shared.completions := Completion.modify_finish_of_recorded _ lost
    cases shutdown : before.shutdown <;> simp only [whole, shutdown] at sound ⊢
    all_goals
      have flows := sound.flows_workEnd works rfl false before.shared.stats
      rw [same] at flows
      exact flows
  | completed looked delivering wanted pending =>
    have outdone := known.isOutdone_eq_false looked delivering wanted
    cases shutdown : before.shutdown <;> simp only [whole, shutdown] at sound outdone ⊢ <;>
      exact sound.flows_silent (.completed delivering outdone pending) (List.Subset.refl _)
  | fired between running =>
    simp only [whole, between] at sound ⊢
    exact sound.flows_fired running
  | drained fired =>
    simp only [whole, fired] at sound ⊢
    have queue : queueOf before.shared.waiting = before.shared.mailbox :=
      (queueOf_waiting sound.orderly.proper (known.unordered fired)).1
    rw [queue]
    exact sound.flows_still
  | aborted draining =>
    rcases known.underway (by simp [draining]) with ⟨stopped, _, _⟩
    have pops := pop_queueOf (known.drained _ _ draining).1
    simp only [whole, draining] at sound ⊢
    exact sound.flows_aborted stopped pops _
  | awaits draining =>
    rcases known.empty_of_draining draining with ⟨proper, empty⟩
    simp only [whole, draining] at sound ⊢
    exact sound.flows_awaits rfl rfl proper empty

theorem isWorker_of_admits (admitted : threads.admits event = true)
    (inside : threads.worker ≠ .between) : event.isWorker = false := by
  cases event <;> simp_all [admits, Event.isWorker]

/-- A shutdown of a running scheduler is no event. -/
theorem cancelled_of_event {next : Scheduler Snapshot Callback Output}
    (admitted : threads.admits event = true) (rule : threads.shared.Rule event next) :
    next.cancelled = threads.shared.cancelled := by
  cases rule with
  | stopping running => simp [admits, running] at admitted
  | _ => rfl

theorem Known.begun (known : Known sent threads) {request : Request Snapshot Callback}
    (concerned : threads.shared.worker.request? = some request) :
    threads.shared.lifecycle ≠ .idle := by
  intro idle
  have never := (known.sound.orderly.unstarted (by simpa using idle)).1
  rw [worker_whole] at never
  simp [never, Worker.request?] at concerned

/-- An event leaves the worker alone while it is inside of a step. -/
theorem Known.fits_of_event {next : Scheduler Snapshot Callback Output} (known : Known sent before)
    (admitted : before.admits event = true) (rule : before.shared.Rule event next) :
    ({ before with shared := next } : Interleaved Snapshot Callback Output).Fits := by
  have fits := known.fits
  have cancelled := cancelled_of_event admitted rule
  unfold Fits at fits ⊢
  cases point : before.worker with
  | between => exact trivial
  | published | marked | counted =>
    rw [point] at fits
    rcases fits with ⟨request, executing⟩
    have other := isWorker_of_admits admitted (by simp [point])
    have same := Scheduler.worker_of_rule rule other (known.begun (by rw [executing]; rfl))
    exact ⟨request, same.trans executing⟩
  | looked droppable =>
    rw [point] at fits
    rcases fits with ⟨request, analysis, delivering, droppable, exact⟩
    have other := isWorker_of_admits admitted (by simp [point])
    have same := Scheduler.worker_of_rule rule other (known.begun (by rw [delivering]; rfl))
    exact ⟨request, analysis, same.trans delivering, droppable, by rwa [cancelled]⟩

theorem Known.fits_of_step (known : Known sent before) (step : before.step move = some after) :
    after.Fits := by
  have fits := known.fits
  cases rule_of_step step with
  | event admitted stepped => exact known.fits_of_event admitted (Scheduler.rule_of_step stepped)
  | skipped between => simp [Fits, between]
  | published => exact ⟨_, rfl⟩
  | marked point | counted point =>
    simp only [Fits, point] at fits ⊢
    exact fits
  | called | superseded | lost | completed => exact trivial
  | @looked request analysis between delivering =>
    refine ⟨request, analysis, delivering, ?_, ?_⟩
    · intro droppable
      simp only [Bool.and_eq_true, Bool.not_eq_true'] at droppable
      exact droppable.1
    · intro uncancelled
      simp only at uncancelled
      simp [uncancelled]
  | fired =>
    cases point : before.worker with
    | between => simp [Fits]
    | published | marked | counted =>
      simp only [Fits, point] at fits ⊢
      exact fits
    | looked droppable =>
      simp only [Fits, point] at fits ⊢
      rcases fits with ⟨request, analysis, delivering, droppable, _⟩
      exact ⟨request, analysis, delivering, droppable, nofun⟩
  | drained | aborted | awaits => exact fits

theorem Known.step (known : Known sent before) (step : before.step move = some after) :
    Known (sent ++ (Passage.mk before move after).sent) after where
  ordered := known.ordered.of_flows (known.flows step)
  fits := known.fits_of_step step
  underway midway := by
    cases rule_of_step step with
    | event admitted stepped =>
      have rule := Scheduler.rule_of_step stepped
      rcases known.underway midway with ⟨stopped, cancelled, unattended⟩
      refine ⟨Scheduler.stopped_of_rule stopped rule, Scheduler.cancelled_of_rule cancelled rule, ?_⟩
      apply Option.eq_none_iff_forall_ne_some.mpr
      intro count closing
      have waited := Scheduler.closing_of_rule stopped rule closing
      simp [unattended] at waited
    | fired between running =>
      refine ⟨rfl, rfl, ?_⟩
      have open_ := known.sound.orderly.uncancelled (by simp [running])
      simpa [whole, between] using open_.2.1
    | drained fired => exact known.underway (by simp [fired])
    | aborted draining => exact known.underway (by simp [draining])
    | awaits => exact absurd rfl midway
    | _ => exact known.underway midway
  unordered fired := by
    cases rule_of_step step with
    | event admitted stepped =>
      have rule := Scheduler.rule_of_step stepped
      have stopped := (known.underway (by simp_all)).1
      have noOrder := known.unordered fired
      rcases Scheduler.mailbox_of_stopped stopped rule with same | ⟨_, job, pops⟩
      · rwa [same]
      · rw [LaneSlots.toList_of_pop_some pops] at noOrder
        exact fun order => noOrder (List.mem_cons_of_mem job order)
    | fired between running =>
      have open_ := known.sound.orderly.uncancelled (by simp [running])
      simpa [whole, between] using open_.2.2
    | drained | aborted | awaits => cases fired
    | _ => exact known.unordered fired
  drained requests aborted draining := by
    cases rule_of_step step with
    | event admitted stepped =>
      have rule := Scheduler.rule_of_step stepped
      have stopped := (known.underway (by simp_all)).1
      rcases known.drained requests aborted draining with ⟨short, queue⟩
      refine ⟨short, ?_⟩
      rcases Scheduler.mailbox_of_stopped stopped rule with same | ⟨_, job, pops⟩
      · rwa [same]
      · rcases queue with order | none
        · rw [order] at pops
          exact .inr (congrArg Prod.snd pops).symm
        · rw [none] at pops
          cases congrArg Prod.fst pops
    | drained fired =>
      cases draining
      refine ⟨?_, .inl rfl⟩
      have sound := known.sound
      simp only [whole, fired] at sound
      exact (queueOf_waiting sound.orderly.proper (known.unordered fired)).2
    | aborted before =>
      cases draining
      rcases known.drained _ _ before with ⟨short, queue⟩
      exact ⟨Nat.le_of_succ_le short, queue⟩
    | fired | awaits => cases draining
    | _ => exact known.drained requests aborted draining

/-- Induction along a run, with what is known at each of its points. -/
theorem Known.induction
    {motive : List (Passage Snapshot Callback Output) → Interleaved Snapshot Callback Output → Prop}
    (known : Known sent threads) (start : motive [] threads)
    (advance : ∀ past before move after, Known (sent ++ past.flatMap Passage.sent) before →
      motive past before → before.step move = some after →
        motive (past ++ [⟨before, move, after⟩]) after)
    (run : threads.run moves = some final) :
    Known (sent ++ threads.sentOf moves) final ∧ motive (threads.trace moves) final := by
  apply run_induction (motive := fun past state =>
    Known (sent ++ past.flatMap Passage.sent) state ∧ motive past state) ?_ ?_ run
  · exact ⟨by simpa using known, start⟩
  · rintro past before move after ⟨known, holds⟩ step
    refine ⟨?_, advance past before move after known holds step⟩
    rw [List.flatMap_append, List.flatMap_singleton, ← List.append_assoc]
    exact known.step step

theorem Known.run (known : Known sent threads) (run : threads.run moves = some final) :
    Known (sent ++ threads.sentOf moves) final :=
  (known.induction (motive := fun _ _ => True) trivial (fun _ _ _ _ _ _ _ => trivial) run).1

theorem known_of_run {config : Config} {sufficient : Reason → Bool}
    (run : (new config sufficient).run moves = some final) :
    Known ((new config sufficient).sentOf moves) final :=
  (known_new config sufficient).run run

/-- A recorded outcome stays. -/
theorem Known.outcome?_of_step {id : RequestId} {outcome : Outcome Output}
    (known : Known sent before) (step : before.step move = some after)
    (settled : before.shared.outcome? id = some outcome) :
    after.shared.outcome? id = some outcome := by
  rcases known.sound.staged id with ⟨stage, stands⟩
  have start : stage.outcome? = some outcome := by
    rw [← Stage.outcome_view, ← stands, outcome_view_whole, settled]
  rcases (known.flows step).stage (fun advance => advance.outcome?_eq) stands start
    with ⟨later, laterStands, kept⟩
  rwa [← Stage.outcome_view, ← laterStands, outcome_view_whole] at kept

theorem Known.outcome?_run {id : RequestId} {outcome : Outcome Output} (known : Known sent threads)
    (run : threads.run moves = some final)
    (settled : threads.shared.outcome? id = some outcome) :
    final.shared.outcome? id = some outcome :=
  (known.induction (motive := fun _ state => state.shared.outcome? id = some outcome) settled
    (fun _ _ _ _ known settled step => known.outcome?_of_step step settled) run).2

/-- What waits was sent later than what the worker is concerned with. -/
theorem Known.sublist_of_waiting {request newer : Request Snapshot Callback}
    (known : Known sent threads) (concerned : threads.shared.worker.request? = some request)
    (waits : newer ∈ threads.shared.waiting) : [request, newer].Sublist sent := by
  apply known.ordered.sublist_of_waiting (by simpa using concerned)
  cases shutdown : threads.shutdown with
  | between => simpa [whole, shutdown] using waits
  | fired => simpa [whole, shutdown, Scheduler.waiting] using waits
  | draining requests aborted =>
    rw [(known.empty_of_draining shutdown).2] at waits
    cases waits

end Interleaved

end EditorAnalysis
