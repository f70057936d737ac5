import EditorAnalysis.Proofs.Scheduler.Origin
import EditorAnalysis.Proofs.Scheduler.Paths
import EditorAnalysis.Proofs.Scheduler.VersionOrder
import EditorAnalysis.Proofs.Scheduler.LifeCourse
import EditorAnalysis.Proofs.Scheduler.VoidRequest

/-!
# Refused submissions

A submission is refused at two points. After a shutdown it is not let in, and nothing happens. One that
was let in can still be turned away at the queue, when the worker does not run and cannot be started;
by then it has a request and has been counted, and other threads may have acted since.

Such a request is void: from the moment it is made the scheduler is beside one that never saw the
submission, and when it is turned away not even the submission under way is left of it.
-/

namespace EditorAnalysis

variable {Snapshot Callback Output : Type}

theorem ThreadName.ofString?_eq_none_iff {text : String} :
    ThreadName.ofString? text = none ↔ '\x00' ∈ text.toList := by
  simp [ThreadName.ofString?]

/-- A request that is not about to enter the queue, and will not be. -/
def Stage.PastQueueing (stage : Stage Output) : Prop :=
  stage ≠ .unborn ∧ stage ≠ .called .queueing

theorem Stage.PastQueueing.of_advance {stage later : Stage Output} (past : stage.PastQueueing)
    (advance : stage.Advance later) : later.PastQueueing := by
  cases advance with
  | openQueued => exact absurd rfl past.1
  | _ => exact ⟨nofun, nofun⟩

section Below

variable {number : Nat}

theorem Event.renumber_of_callId?_eq_none {event : Event Snapshot Callback Output}
    (nobody : event.callId? = none) : event.renumber number = event := by
  cases event with
  | enqueue | answerCall | recordCall | returnCall => cases nobody
  | _ => rfl

theorem Event.exists_renumber {event : Event Snapshot Callback Output}
    (elsewhere : event.callId? ≠ some number) :
    ∃ origin : Event Snapshot Callback Output, event = origin.renumber number := by
  cases carries : event.callId? with
  | none => exact ⟨event, (Event.renumber_of_callId?_eq_none carries).symm⟩
  | some id =>
    have different : id ≠ number := fun here => elsewhere (here ▸ carries)
    rcases exists_skipping different with ⟨origin, rfl⟩
    cases event with
    | enqueue id launch =>
      cases carries
      exact ⟨.enqueue origin launch, rfl⟩
    | answerCall id execution =>
      cases carries
      exact ⟨.answerCall origin execution, rfl⟩
    | recordCall id reading now =>
      cases carries
      exact ⟨.recordCall origin reading now, rfl⟩
    | returnCall id =>
      cases carries
      exact ⟨.returnCall origin, rfl⟩
    | _ => cases carries

theorem Request.renumber_of_lt {request : Request Snapshot Callback}
    (below : request.id < number) : request.renumber number = request := by
  rw [Request.renumber, skipping_of_lt below]

theorem map_eq_self {α : Type} {change : α → α} {entries : List α}
    (fixed : ∀ entry ∈ entries, change entry = entry) : entries.map change = entries :=
  (List.map_congr_left fixed).trans (List.map_id entries)

theorem LaneSlots.map_eq_self {Item : Type} {change : Item → Item} {slots : LaneSlots Item}
    (fixed : ∀ item ∈ slots.toList, change item = item) : slots.map change = slots := by
  rcases slots with ⟨_ | first, _ | second⟩ <;> simp_all [LaneSlots.map, LaneSlots.toList]

end Below

namespace Scheduler

/-- Nobody gets in, and whoever tries changes nothing and asks no collaborator for anything. -/
structure Refuses (scheduler : Scheduler Snapshot Callback Output) : Prop where
  submit : ∀ submission idleTriggered reading now,
    scheduler.openCall submission idleTriggered reading now = (.refused, scheduler)
  start : ∀ launch, scheduler.start launch = .error (.error .shutDown)
  silent : ∀ event : Event Snapshot Callback Output,
    ((∃ submission idleTriggered reading now,
        scheduler.Submits event submission idleTriggered reading now) ∨
      ∃ launch, event = .start launch) →
    scheduler.step event = some scheduler ∧
      (Transition.mk scheduler event scheduler).asked? = none ∧
      (Transition.mk scheduler event scheduler).handles = [] ∧
      (Transition.mk scheduler event scheduler).sent = [] ∧
      (Transition.mk scheduler event scheduler).analyses = [] ∧
      (Transition.mk scheduler event scheduler).callbacks = []

/-- The scheduler with one submission more, whose request of the given number was turned away. -/
def withTurnedAway (scheduler : Scheduler Snapshot Callback Output) (number : Nat) :
    Scheduler Snapshot Callback Output :=
  scheduler.withVoid number (Completion.pending.finish .abandoned)
    (scheduler.calls.map (Call.renumber number))

/-- What a run brings about is what another one does with the numbers moved, but for one handle that
it makes first. -/
structure Mirrors (scheduler : Scheduler Snapshot Callback Output) (number : Nat) (handle : Handle)
    (events others : List (Event Snapshot Callback Output)) : Prop where
  handles : scheduler.handlesOf events =
    handle :: (scheduler.handlesOf others).map (Handle.renumber number)
  sent : scheduler.sentOf events = (scheduler.sentOf others).map (Request.renumber number)
  analyses : scheduler.analysesOf events =
    (scheduler.analysesOf others).map (Request.renumber number)
  callbacks : (scheduler.callbacksOf events).map CallbackRun.seen =
    ((scheduler.callbacksOf others).map CallbackRun.seen).map
      (Prod.map id (Answered.renumber number))

/-- No request of the given number enters the queue, is analyzed or called back. -/
structure Unheard (scheduler : Scheduler Snapshot Callback Output) (number : Nat)
    (events : List (Event Snapshot Callback Output)) : Prop where
  sent : ∀ request ∈ scheduler.sentOf events, request.id ≠ number
  analyses : ∀ request ∈ scheduler.analysesOf events, request.id ≠ number
  callbacks : ∀ callback ∈ scheduler.callbacksOf events, callback.id ≠ number

/-- Whoever turns to a scheduler is answered as by the other one, with the numbers moved. -/
structure AnswersLike (full rest : Scheduler Snapshot Callback Output) (number : Nat) : Prop where
  submit : ∀ submission idleTriggered reading now,
    (full.openCall submission idleTriggered reading now).1 =
      (rest.openCall submission idleTriggered reading now).1.renumber number
  idle : ∀ trigger reading now,
    (full.onIdle trigger reading now).1 =
      (rest.onIdle trigger reading now).1.map id (Option.map (Opening.renumber number))
  enqueue : ∀ target launch,
    (full.enqueue (skipping number target) launch).map Prod.fst =
      (rest.enqueue target launch).map Prod.fst
  outcome? : ∀ target, full.outcome? (skipping number target) = rest.outcome? target

/-- Why the worker cannot be started. -/
inductive Unstartable (scheduler : Scheduler Snapshot Callback Output) (launch : Launch) :
    StartFailure → Prop where
  | stopped (stopped : scheduler.lifecycle = .stopped) :
      Unstartable scheduler launch (.error .shutDown)
  | badName (idle : scheduler.lifecycle = .idle)
      (unclean : '\x00' ∈ scheduler.config.threadName.toList) :
      Unstartable scheduler launch .badName
  | unspawned {cause : String} (idle : scheduler.lifecycle = .idle)
      (clean : '\x00' ∉ scheduler.config.threadName.toList) (failed : launch = .failed cause) :
      Unstartable scheduler launch (.error (.spawn cause))

variable {scheduler before after rest opened held failed final : Scheduler Snapshot Callback Output}
  {event : Event Snapshot Callback Output}
  {events between later : List (Event Snapshot Callback Output)} {launch : Launch}
  {failure : StartFailure}

section Stopped

theorem start_eq_error_iff :
    scheduler.start launch = .error failure ↔ scheduler.Unstartable launch failure := by
  constructor
  · intro failed
    unfold start at failed
    cases lifecycle : scheduler.lifecycle with
    | running => simp [lifecycle] at failed
    | stopped =>
      simp only [lifecycle, Except.error.injEq] at failed
      exact failed ▸ .stopped lifecycle
    | idle =>
      cases name : ThreadName.ofString? scheduler.config.threadName with
      | none =>
        simp only [lifecycle, name, Except.error.injEq] at failed
        exact failed ▸ .badName lifecycle (ThreadName.ofString?_eq_none_iff.mp name)
      | some clean =>
        cases launch with
        | started => simp [lifecycle, name] at failed
        | failed cause =>
          simp only [lifecycle, name, Except.error.injEq] at failed
          refine failed ▸ .unspawned lifecycle ?_ rfl
          rw [← ThreadName.ofString?_eq_none_iff, name]
          exact nofun
  · intro unstartable
    cases unstartable with
    | stopped stopped => simp [start, stopped]
    | badName idle unclean =>
      simp [start, idle, ThreadName.ofString?_eq_none_iff.mpr unclean]
    | unspawned idle clean failed =>
      subst failed
      have named := mt ThreadName.ofString?_eq_none_iff.mp clean
      cases name : ThreadName.ofString? scheduler.config.threadName with
      | none => exact absurd name named
      | some text => simp [start, idle, name]

/-- Nothing begins where calls only end or get ready to queue and the worker and the queue stay. -/
theorem begins_nothing
    (calls : ∀ call ∈ after.calls, call ∈ before.calls ∨ call.phase = .queueing)
    (mailbox : after.mailbox = before.mailbox) (worker : after.worker = before.worker)
    (outside : (Transition.mk before event after).pumped = []) :
    (Transition.mk before event after).sent = [] ∧
      (Transition.mk before event after).analyses = [] ∧
      (Transition.mk before event after).callbacks = [] := by
  have old {request : Request Snapshot Callback} {phase : CallPhase Output}
      (called : ⟨request, phase⟩ ∈ after.calls) (busy : phase ≠ .queueing) :
      ⟨request, phase⟩ ∈ before.calls :=
    (calls _ called).resolve_right busy
  refine ⟨sent_of_waiting_subset ?_, analyses_eq_nil ?_ ?_, ?_⟩
  · rw [waiting, mailbox]
    exact List.Subset.refl _
  · intro request called
    exact old called (by simp)
  · intro request executing
    exact worker ▸ executing
  · have inline : (Transition.mk before event after).newIn callingBack
        (fun answered => answered.request.id) = [] :=
      Transition.newIn_of_subset (callingBack_subset fun _ _ called => old called (by simp))
    simp [Transition.callbacks, inline, outside]

theorem refuses_of_stopped (stopped : scheduler.lifecycle = .stopped) : scheduler.Refuses where
  submit submission idleTriggered reading now := by
    simp [openCall, isShutDown, stopped]
  start launch := start_eq_error_iff.mpr (.stopped stopped)
  silent event calls := by
    rcases calls with ⟨submission, idleTriggered, reading, now, submits⟩ | ⟨launch, rfl⟩
    · have refused : scheduler.openCall submission idleTriggered reading now =
          (.refused, scheduler) := by
        simp [openCall, isShutDown, stopped]
      refine ⟨?_, ?_, ?_, begins_nothing (fun _ => .inl) rfl rfl submits.pumped_eq⟩
      · rw [submits.step_eq, refused]
      · cases submits with
        | submit => simp [Transition.asked?, stopped]
        | idle => simp [Transition.asked?, stopped]
      · rw [submits.handles_eq, refused]
        rfl
    · refine ⟨?_, rfl, rfl, begins_nothing (fun _ => .inl) rfl rfl rfl⟩
      rw [step, start_eq_error_iff.mpr (.stopped stopped)]

end Stopped

section Voiding

variable {submission : Submission Snapshot Callback} {idleTriggered : Bool} {version : Version}
  {now : Instant}

theorem Sound.born_of_call {call : Call Snapshot Callback Output} (sound : scheduler.Sound)
    (called : call ∈ scheduler.calls) : call.request.id < scheduler.completions.length :=
  sound.staged.born_of_call? (sound.call?_of_mem called)

theorem Sound.born_of_posted {answered : Answered Snapshot Callback Output}
    (sound : scheduler.Sound) (posted : answered ∈ scheduler.ui.jobs) :
    answered.request.id < scheduler.completions.length := by
  rcases sound.staged answered.request.id with ⟨stage, stands⟩
  have there : answered.analysis ∈ stage.view.posted := by
    rw [← stands]
    exact List.mem_map_of_mem (List.mem_filter.mpr ⟨posted, by simp⟩)
  rcases Stage.eq_posted there with ⟨marked, rfl⟩
  exact of_decide_eq_true (congrArg View.born stands)

/-- A void request that comes last moves no number. -/
theorem Sound.withVoid_last (sound : scheduler.Sound) (cell : Completion Output)
    (calls : List (Call Snapshot Callback Output)) :
    scheduler.withVoid scheduler.completions.length cell calls =
      { scheduler with
        stats := scheduler.stats.addSubmitted
        calls
        completions := scheduler.completions ++ [cell] } := by
  have mailbox : scheduler.mailbox.map (Job.renumber scheduler.completions.length) =
      scheduler.mailbox := by
    apply LaneSlots.map_eq_self
    intro job queued
    cases job with
    | terminate => rfl
    | analyze request =>
      have waits : request ∈ scheduler.waiting := List.mem_filterMap.mpr ⟨_, queued, rfl⟩
      rw [Job.renumber, Request.renumber_of_lt (sound.born_of_waiting waits)]
  have inFlight : scheduler.inFlight.map (skipping scheduler.completions.length) =
      scheduler.inFlight := by
    cases published : scheduler.inFlight with
    | none => rfl
    | some id => rw [Option.map_some, skipping_of_lt (sound.born_of_inFlight published)]
  have worker : scheduler.worker.renumber scheduler.completions.length = scheduler.worker := by
    cases concerned : scheduler.worker with
    | holding request | executing request | recording request | delivering request
    | posting request =>
      have born := sound.born_of_worker (congrArg Worker.request? concerned)
      rw [Worker.renumber, Request.renumber_of_lt born]
    | _ => rfl
  have ui : scheduler.ui.map (Answered.renumber scheduler.completions.length) = scheduler.ui := by
    rw [UiQueue.map, map_eq_self]
    intro answered posted
    rw [Answered.renumber, Request.renumber_of_lt (sound.born_of_posted posted)]
  rw [withVoid, mailbox, inFlight, worker, ui, List.insertIdx_length_self]

theorem Sound.map_renumber_calls (sound : scheduler.Sound) :
    scheduler.calls.map (Call.renumber scheduler.completions.length) = scheduler.calls := by
  apply map_eq_self
  intro call called
  rw [Call.renumber, Request.renumber_of_lt (sound.born_of_call called)]

theorem Sound.withTurnedAway_last (sound : scheduler.Sound) :
    scheduler.withTurnedAway scheduler.completions.length =
      { scheduler with
        stats := scheduler.stats.addSubmitted
        completions := scheduler.completions ++ [Completion.pending.finish .abandoned] } := by
  rw [withTurnedAway, sound.map_renumber_calls, sound.withVoid_last]

/-- With a submission that is to enter the queue the scheduler is beside one without. -/
theorem Sound.beside_of_queued (sound : before.Sound) (open_ : before.lifecycle ≠ .stopped)
    (path : before.path submission = .queued) :
    Beside before.completions.length .pending
      [⟨before.built submission idleTriggered version now, .queueing⟩] before
      (before.openCall submission idleTriggered (.ok version) now).2 := by
  have opened : (before.openCall submission idleTriggered (.ok version) now).2 =
      before.withVoid before.completions.length .pending
        (before.calls ++ [⟨before.built submission idleTriggered version now, .queueing⟩]) := by
    rw [snd_openCall open_, path, sound.withVoid_last]
    rfl
  rw [opened]
  refine ⟨Nat.le_refl _, by simp [built], before.calls, [], (List.append_nil _).symm, ?_⟩
  rw [sound.map_renumber_calls, List.map_nil, List.append_nil]

end Voiding

section Void

variable {number : Nat} {cell : Completion Output} {extra : List (Call Snapshot Callback Output)}
  {full next : Scheduler Snapshot Callback Output} {call : Call Snapshot Callback Output}

theorem Beside.call?_void (beside : Beside number cell extra rest full) :
    full.call? number = extra.head? := by
  rcases beside with ⟨room, own, left, right, _, rfl⟩
  have elsewhere (calls : List (Call Snapshot Callback Output)) :
      (calls.map (Call.renumber number)).find? (fun call => call.request.id == number) = none := by
    apply List.find?_eq_none.mpr
    intro call member
    rcases List.mem_map.mp member with ⟨origin, _, rfl⟩
    rw [beq_iff_eq]
    exact skipping_ne number origin.request.id
  have here : extra.find? (fun call => call.request.id == number) = extra.head? := by
    cases extra with
    | nil => rfl
    | cons call others => exact List.find?_cons_of_pos (by simp [own])
  simp only [Scheduler.call?, withVoid_calls, List.find?_append, elsewhere, here, Option.none_or,
    Option.or_none]

theorem exists_call_of_callId? {id : RequestId} (rule : before.Rule event next)
    (carries : event.callId? = some id) :
    ∃ call, before.call? id = some call ∧
      (call.phase = .queueing → ∃ launch, event = .enqueue id launch) := by
  cases rule with
  | refused submits | faulted submits | openedRecent submits | openedInline submits
  | openedQueued submits => cases submits <;> cases carries
  | turnedAway found | enqueued found =>
    cases carries
    exact ⟨_, found, fun _ => ⟨_, rfl⟩⟩
  | answeredCall found | failedCall found | cancelledCall found | faultedCall found | lostCall found
  | deliveredCall found | returnedCall found =>
    cases carries
    exact ⟨_, found, nofun⟩
  | _ => cases carries

/-- Nothing happens to a void request but that it is turned away. -/
theorem Beside.callId?_ne (beside : Beside number cell extra rest full)
    (quiet : ∀ call ∈ extra, call.phase = .queueing)
    (unsent : extra = [] ∨ ∀ launch, event ≠ .enqueue number launch)
    (step : full.step event = some next) : event.callId? ≠ some number := by
  intro carries
  rcases exists_call_of_callId? (rule_of_step step) carries with ⟨call, found, enqueues⟩
  rw [beside.call?_void] at found
  have void := List.mem_of_head? found
  rcases unsent with rfl | unsent
  · cases void
  · rcases enqueues (quiet call void) with ⟨launch, rfl⟩
    exact unsent launch rfl

/-- So whatever happens beside a void request happens without it. -/
theorem Beside.exists_run (beside : Beside number cell extra rest full)
    (quiet : ∀ call ∈ extra, call.phase = .queueing)
    (unsent : extra = [] ∨ ∀ launch, .enqueue number launch ∉ events)
    (run : full.run events = some final) :
    ∃ origins next, events = origins.map (Event.renumber number) ∧ rest.run origins = some next ∧
      Beside number cell extra next final := by
  induction events generalizing rest full with
  | nil =>
    cases run
    exact ⟨[], rest, rfl, rfl, beside⟩
  | cons event later ih =>
    simp only [Scheduler.run, Option.bind_eq_some_iff] at run
    rcases run with ⟨next, step, run⟩
    have notHere : extra = [] ∨ ∀ launch, event ≠ .enqueue number launch :=
      unsent.imp_right fun absent launch here => absent launch (here ▸ List.mem_cons_self)
    have notLater : extra = [] ∨ ∀ launch, .enqueue number launch ∉ later :=
      unsent.imp_right fun absent launch inside => absent launch (List.mem_cons_of_mem _ inside)
    rcases Event.exists_renumber (beside.callId?_ne quiet notHere step) with ⟨origin, rfl⟩
    have steps := beside.step origin
    rw [step] at steps
    cases stepped : rest.step origin with
    | none =>
      rw [stepped] at steps
      cases steps
    | some nextRest =>
      rw [stepped] at steps
      cases steps with
      | some besideToo =>
        rcases ih besideToo notLater run with ⟨origins, finalRest, rfl, restRun, besideFinal⟩
        refine ⟨origin :: origins, finalRest, rfl, ?_, besideFinal⟩
        rw [Scheduler.run, stepped]
        exact restRun

/-- A void request is turned away with nothing left of its submission. -/
theorem Beside.turnedAway (beside : Beside number cell [call] rest held)
    (fails : held.enqueue number launch = some (.error failure, failed)) :
    held.start launch = .error failure ∧
      failed = (held.finish number .abandoned).endCall number ∧
      Beside number (cell.finish .abandoned) [] rest failed := by
  have found := beside.call?_void
  unfold Scheduler.enqueue at fails
  rw [found] at fails
  rcases call with ⟨request, _ | _ | _ | _⟩
  · simp only [List.head?_cons] at fails
    cases launched : held.start launch with
    | ok started =>
      rw [launched] at fails
      cases fails
    | error cause =>
      rw [launched] at fails
      cases fails
      refine ⟨rfl, rfl, ?_⟩
      rcases beside with ⟨room, own, left, right, split, rfl⟩
      have kept (calls : List (Call Snapshot Callback Output)) :
          (calls.map (Call.renumber number)).filter (fun call => call.request.id != number) =
            calls.map (Call.renumber number) := by
        apply List.filter_eq_self.mpr
        intro call member
        rcases List.mem_map.mp member with ⟨origin, _, rfl⟩
        exact bne_iff_ne.mpr (skipping_ne number origin.request.id)
      have gone : request.id = number := own _ (List.mem_singleton_self _)
      have same : ((rest.withVoid number cell (left.map (Call.renumber number) ++
          ([⟨request, .queueing⟩] ++ right.map (Call.renumber number)))).finish number
            .abandoned).endCall number =
          rest.withVoid number (cell.finish .abandoned) (rest.calls.map (Call.renumber number)) := by
        simp only [Scheduler.endCall, Scheduler.finish, withVoid, modify_insertIdx_self,
          List.filter_append, kept, split, List.map_append]
        simp [gone]
      rw [same]
      exact ⟨room, List.forall_mem_nil _, rest.calls, [], (List.append_nil _).symm, by simp⟩
  · cases fails
  · cases fails
  · cases fails

theorem Sound.uncalled_of_rule {id : RequestId} (sound : before.Sound)
    (rule : before.Rule event next) (born : id < before.completions.length)
    (uncalled : ∀ call ∈ before.calls, call.request.id ≠ id) :
    ∀ call ∈ next.calls, call.request.id ≠ id := by
  intro call called
  rcases sound.mem_calls_of_rule rule called
    with ⟨old, present, same, _⟩ | ⟨_, _, _, _, _, _, rfl⟩
  · rw [← same]
    exact uncalled old present
  · exact (Nat.ne_of_lt born).symm

theorem Sound.uncalled_of_run {id : RequestId} (sound : before.Sound)
    (run : before.run events = some final) (born : id < before.completions.length)
    (uncalled : ∀ call ∈ before.calls, call.request.id ≠ id) :
    ∀ call ∈ final.calls, call.request.id ≠ id := by
  have known := run_preserves
    (motive := fun state : Scheduler Snapshot Callback Output => state.Sound ∧
      id < state.completions.length ∧ ∀ call ∈ state.calls, call.request.id ≠ id)
    (fun _ _ _ known rule => ⟨known.1.of_rule rule, born_of_rule rule known.2.1,
      known.1.uncalled_of_rule rule known.2.1 known.2.2⟩)
    ⟨sound, born, uncalled⟩ run
  exact known.2.2

theorem born_of_run {id : RequestId} (run : before.run events = some final)
    (born : id < before.completions.length) : id < final.completions.length :=
  run_preserves (motive := fun state : Scheduler Snapshot Callback Output =>
    id < state.completions.length) (fun _ _ _ born rule => born_of_rule rule born) born run

/-- A submission that is still to enter the queue has not tried to so far: doing so ends it, and its
request is not made a second time. -/
theorem Sound.unsent_of_called {id : RequestId} (sound : before.Sound)
    (run : before.run events = some final) (born : id < before.completions.length)
    (called : final.call? id = some call) (launch : Launch) : .enqueue id launch ∉ events := by
  intro sent
  rcases List.append_of_mem sent with ⟨past, later, rfl⟩
  rw [run_append] at run
  rcases Option.bind_eq_some_iff.mp run with ⟨middle, pastRun, run⟩
  simp only [Scheduler.run, Option.bind_eq_some_iff] at run
  rcases run with ⟨next, step, run⟩
  have rule := rule_of_step step
  have gone : ∀ other ∈ next.calls, other.request.id ≠ id := by
    cases rule with
    | turnedAway | enqueued =>
      intro other member
      exact bne_iff_ne.mp (List.mem_filter.mp member).2
    | refused submits | faulted submits | openedRecent submits | openedInline submits
    | openedQueued submits => cases submits
  have nextSound := (sound.run pastRun).of_rule rule
  have nextBorn := born_of_rule rule (born_of_run pastRun born)
  have uncalled := nextSound.uncalled_of_run run nextBorn gone
  have own := List.find?_some called
  exact uncalled call (List.mem_of_find?_eq_some called) (by simpa using own)

end Void

section Runs

variable {number : Nat} {cell : Completion Output} {call : Call Snapshot Callback Output}
  {others more : List (Event Snapshot Callback Output)} {handle : Handle}

theorem trace_cons (step : before.step event = some after) :
    before.trace (event :: later) = ⟨before, event, after⟩ :: after.trace later := by
  rw [trace, step]

/-- A submission that is let in and turned away, with what others do in between and later. -/
structure Excursion (before opened held failed rest : Scheduler Snapshot Callback Output)
    (event : Event Snapshot Callback Output) (number : Nat) (launch : Launch)
    (others : List (Event Snapshot Callback Output)) (call : Call Snapshot Callback Output) :
    Prop where
  opens : before.step event = some opened
  quiet : call.phase = .queueing
  beside : Beside number .pending [call] before opened
  run : opened.run (others.map (Event.renumber number)) = some held
  restRun : before.run others = some rest
  fails : held.step (.enqueue number launch) = some failed
  left : Beside number (Completion.pending.finish .abandoned) [] rest failed

/-- What the opening and the failure show nothing of is read off the others alone, renumbered. -/
theorem Excursion.flatMap_trace {Entry : Type} {change : Entry → Entry}
    (excursion : Excursion before opened held failed rest event number launch others call)
    (read : Transition Snapshot Callback Output → List Entry)
    (moves : ∀ {cell extra transition other}, (∀ call ∈ extra, call.phase = .queueing) →
      Paired number cell extra transition other → read other = (read transition).map change)
    (silent : read ⟨held, .enqueue number launch, failed⟩ = [])
    (more : List (Event Snapshot Callback Output)) :
    (before.trace (event :: others.map (Event.renumber number) ++
        .enqueue number launch :: more.map (Event.renumber number))).flatMap read =
      read ⟨before, event, opened⟩ ++ ((before.trace (others ++ more)).flatMap read).map change := by
  have quiet : ∀ other ∈ [call], other.phase = .queueing := by
    intro other member
    rw [List.mem_singleton.mp member]
    exact excursion.quiet
  rw [List.cons_append, trace_cons excursion.opens, trace_append excursion.run,
    trace_cons excursion.fails, trace_append excursion.restRun, List.flatMap_cons,
    List.flatMap_append, List.flatMap_cons, silent, List.nil_append, List.flatMap_append,
    List.map_append, flatMap_of_paired (excursion.beside.trace others) (moves quiet),
    flatMap_of_paired (excursion.left.trace more) (moves (List.forall_mem_nil _))]

theorem Excursion.mirrors
    (excursion : Excursion before opened held failed rest event number launch others call)
    (handles : (Transition.mk before event opened).handles = [handle])
    (first : (Transition.mk before event opened).sent = [] ∧
      (Transition.mk before event opened).analyses = [] ∧
      (Transition.mk before event opened).callbacks = [])
    (last : (Transition.mk held (.enqueue number launch) failed).sent = [] ∧
      (Transition.mk held (.enqueue number launch) failed).analyses = [] ∧
      (Transition.mk held (.enqueue number launch) failed).callbacks = [])
    (more : List (Event Snapshot Callback Output)) :
    before.Mirrors number handle
      (event :: others.map (Event.renumber number) ++
        .enqueue number launch :: more.map (Event.renumber number)) (others ++ more) where
  handles := by
    have read := excursion.flatMap_trace Transition.handles
      (fun _ paired => paired.handles) rfl more
    rw [handles] at read
    exact read
  sent := by
    have read := excursion.flatMap_trace Transition.sent
      (fun _ paired => paired.sent) last.1 more
    rw [first.1] at read
    exact read
  analyses := by
    have read := excursion.flatMap_trace Transition.analyses
      (fun quiet paired => paired.analyses quiet) last.2.1 more
    rw [first.2.1] at read
    exact read
  callbacks := by
    have read := excursion.flatMap_trace
      (fun transition => transition.callbacks.map CallbackRun.seen)
      (fun quiet paired => paired.callbacks quiet) (by rw [last.2.2]; rfl) more
    rw [first.2.2] at read
    simpa only [callbacksOf, List.map_flatMap, List.map_nil, List.nil_append] using read

/-- Only a submission on the third path is ever about to enter the queue. On the other two it is past
the queue from the start and stays so. -/
theorem Sound.path_of_queueing {submission : Submission Snapshot Callback} {idleTriggered : Bool}
    {version : Version} {now : Instant} {request : Request Snapshot Callback}
    (sound : (before.openCall submission idleTriggered (.ok version) now).2.Sound)
    (open_ : before.lifecycle ≠ .stopped)
    (run : (before.openCall submission idleTriggered (.ok version) now).2.run between = some held)
    (found : held.call? before.completions.length = some ⟨request, .queueing⟩) :
    before.path submission = .queued := by
  by_contra other
  have called : ⟨before.built submission idleTriggered version now,
      (before.path submission).phase⟩ ∈
        (before.openCall submission idleTriggered (.ok version) now).2.calls := by
    rw [calls_openCall open_]
    exact List.mem_append_right _ (List.mem_singleton_self _)
  rcases sound.staged before.completions.length with ⟨stage, stands⟩
  have phases := mem_callPhases called
  change _ ∈ (view _ before.completions.length).calls at phases
  rw [stands] at phases
  cases Stage.eq_called phases
  have elsewhere : (before.path submission).phase ≠ .queueing := by
    cases path : before.path submission with
    | queued => exact absurd path other
    | recent | inline => exact nofun
  have start : Stage.PastQueueing (.called (before.path submission).phase) :=
    ⟨nofun, by simpa using elsewhere⟩
  rcases sound.stage_run run (fun advance past => past.of_advance advance) stands start
    with ⟨later, laterStands, _, notQueueing⟩
  have queueing := phase_mem_of_call? found
  rw [laterStands] at queueing
  exact notQueueing (Stage.eq_called queueing)

end Runs

section Excursions

variable {number : Nat} {submission : Submission Snapshot Callback} {idleTriggered : Bool}
  {version : Version} {now : Instant} {handle : Handle}
  {others more : List (Event Snapshot Callback Output)}
  {full next : Scheduler Snapshot Callback Output}

theorem Beside.eq_withTurnedAway
    (left : Beside number (Completion.pending.finish .abandoned) [] rest full) :
    full = rest.withTurnedAway number := by
  rcases left with ⟨room, own, first, second, split, rfl⟩
  rw [withTurnedAway, split, List.map_append, List.nil_append]

theorem Beside.outcome?_void
    (left : Beside number (Completion.pending.finish .abandoned) [] rest full) :
    full.outcome? number = some .abandoned := by
  rcases left with ⟨room, own, among⟩
  rw [Scheduler.outcome?, withVoid_completions, List.getElem?_insertIdx_self, if_pos room]
  exact Completion.outcome_finish _ _

theorem Beside.answersLike {cell : Completion Output} {extra : List (Call Snapshot Callback Output)}
    (beside : Beside number cell extra rest full) : full.AnswersLike rest number where
  submit submission idleTriggered reading now :=
    (beside.openCall submission idleTriggered reading now).1
  idle trigger reading now := (beside.onIdle trigger reading now).1
  enqueue target launch := by
    have answers := beside.enqueue target launch
    generalize rest.enqueue target launch = answer,
      full.enqueue (skipping number target) launch = other at answers ⊢
    cases answers with
    | none => rfl
    | some both => exact congrArg some both.1
  outcome? := beside.outcome?

/-- Once the submission is turned away, whatever the one scheduler does the other does too. -/
theorem Beside.run_withTurnedAway
    (left : Beside number (Completion.pending.finish .abandoned) [] rest full)
    (run : rest.run more = some next) :
    full.run (more.map (Event.renumber number)) = some (next.withTurnedAway number) := by
  have runs := left.run more
  rw [run] at runs
  generalize full.run (more.map (Event.renumber number)) = final at runs ⊢
  cases runs with
  | some leftToo => rw [leftToo.eq_withTurnedAway]

theorem Mirrors.unheard (mirrors : before.Mirrors number handle events others) :
    before.Unheard number events where
  sent request sent := by
    rw [mirrors.sent] at sent
    rcases List.mem_map.mp sent with ⟨origin, _, rfl⟩
    exact skipping_ne number origin.id
  analyses request analyzed := by
    rw [mirrors.analyses] at analyzed
    rcases List.mem_map.mp analyzed with ⟨origin, _, rfl⟩
    exact skipping_ne number origin.id
  callbacks callback begun := by
    have seen : callback.seen ∈ (before.callbacksOf events).map CallbackRun.seen :=
      List.mem_map_of_mem begun
    rw [mirrors.callbacks] at seen
    rcases List.mem_map.mp seen with ⟨origin, _, same⟩
    have own : callback.id = skipping number origin.2.request.id :=
      congrArg (fun run => run.2.request.id) same.symm
    rw [own]
    exact skipping_ne number origin.2.request.id

/-- Nothing begins with a submission that is to enter the queue. -/
theorem Submits.begins_nothing
    (submits : before.Submits event submission idleTriggered (.ok version) now)
    (open_ : before.lifecycle ≠ .stopped) (path : before.path submission = .queued)
    (opened : after = (before.openCall submission idleTriggered (.ok version) now).2) :
    (Transition.mk before event after).sent = [] ∧
      (Transition.mk before event after).analyses = [] ∧
      (Transition.mk before event after).callbacks = [] := by
  subst opened
  refine Scheduler.begins_nothing ?_ ?_ ?_ submits.pumped_eq
  · intro call called
    rw [calls_openCall open_, path] at called
    rcases List.mem_append.mp called with old | new
    · exact .inl old
    · cases List.mem_singleton.mp new
      exact .inr rfl
  · rw [snd_openCall open_]
  · rw [snd_openCall open_]

/-- Nothing begins where a submission is turned away. -/
theorem begins_nothing_of_turnedAway
    (dropped : failed = (held.finish number .abandoned).endCall number) :
    (Transition.mk held (.enqueue number launch) failed).sent = [] ∧
      (Transition.mk held (.enqueue number launch) failed).analyses = [] ∧
      (Transition.mk held (.enqueue number launch) failed).callbacks = [] := by
  subst dropped
  exact begins_nothing (fun _ called => .inl (List.mem_filter.mp called).1) rfl rfl rfl

/-- A submission that is let in and turned away makes an excursion. -/
theorem Sound.excursion (sound : before.Sound)
    (submits : before.Submits event submission idleTriggered (.ok version) now)
    (open_ : before.lifecycle ≠ .stopped) (run : before.run (event :: between) = some held)
    (fails : held.enqueue before.completions.length launch = some (.error failure, failed)) :
    before.path submission = .queued ∧ held.Unstartable launch failure ∧
      failed = (held.finish before.completions.length .abandoned).endCall before.completions.length ∧
      ∃ others rest, between = others.map (Event.renumber before.completions.length) ∧
        Excursion before (before.openCall submission idleTriggered (.ok version) now).2 held failed
          rest event before.completions.length launch others
          ⟨before.built submission idleTriggered version now, .queueing⟩ := by
  have opens := submits.step_eq
  rw [Scheduler.run, opens] at run
  change (before.openCall submission idleTriggered (.ok version) now).2.run between = some held at run
  have openedSound := sound.of_rule (rule_of_step opens)
  have step : held.step (.enqueue before.completions.length launch) = some failed := by
    rw [Scheduler.step, fails, Option.map_some]
  rcases exists_queueing (rule_of_step step) with ⟨request, found⟩
  have path := openedSound.path_of_queueing open_ run found
  have born : before.completions.length <
      (before.openCall submission idleTriggered (.ok version) now).2.completions.length := by
    rw [length_openCall open_]
    exact Nat.lt_succ_self _
  have unsent := openedSound.unsent_of_called run born found
  have beside : Beside before.completions.length .pending
      [⟨before.built submission idleTriggered version now, .queueing⟩] before
      (before.openCall submission idleTriggered (.ok version) now).2 :=
    sound.beside_of_queued open_ path
  rcases beside.exists_run (by simp) (.inr unsent) run with ⟨others, rest, rfl, restRun, heldBeside⟩
  rcases heldBeside.turnedAway fails with ⟨unstarted, dropped, left⟩
  exact ⟨path, start_eq_error_iff.mp unstarted, dropped, others, rest, rfl,
    { opens, quiet := rfl, beside, run, restRun, fails := step, left }⟩

end Excursions

/-- What is left of a submission that is let in by the first of the events and turned away in the last
step: its request, which counts as submitted and nobody hears of. -/
structure LeavesNothing (before held failed : Scheduler Snapshot Callback Output)
    (event : Event Snapshot Callback Output) (between : List (Event Snapshot Callback Output))
    (launch : Launch) (failure : StartFailure) (handle : Handle) : Prop where
  unstartable : held.Unstartable launch failure
  dropped : failed = { held with
    completions := held.completions.modify handle.id (Completion.finish .abandoned)
    calls := held.calls.filter fun call => call.request.id != handle.id }
  alone : between = [] → failed = { before with
    stats := before.stats.addSubmitted
    completions := before.completions ++ [Completion.pending.finish .abandoned] }
  without : ∃ others rest, between = others.map (Event.renumber handle.id) ∧
    before.run others = some rest ∧ failed = rest.withTurnedAway handle.id ∧
    (∀ more next, rest.run more = some next →
      failed.run (more.map (Event.renumber handle.id)) = some (next.withTurnedAway handle.id)) ∧
    ∀ later final, failed.run later = some final →
      ∃ more next, later = more.map (Event.renumber handle.id) ∧ rest.run more = some next ∧
        final = next.withTurnedAway handle.id ∧ final.AnswersLike next handle.id ∧
        final.outcome? handle.id = some .abandoned ∧
        before.Mirrors handle.id handle
          (event :: between ++ .enqueue handle.id launch :: later) (others ++ more) ∧
        before.Unheard handle.id (event :: between ++ .enqueue handle.id launch :: later)

/-- Refused submissions, over every run. After a shutdown nobody is let in and nothing changes. A
submission that was let in before and is turned away because the worker does not run and cannot be
started leaves one request more that was submitted, and nothing else: whatever others did meanwhile and
do later, they do as if it had not been made. -/
theorem refusals_change_nothing {config : Config} {sufficient : Reason → Bool}
    {past : List (Event Snapshot Callback Output)}
    (run : (new config sufficient).run past = some before) :
    (.shutdown ∈ past → before.Refuses) ∧
    ∀ event submission idleTriggered version now between held launch failure failed,
      before.Submits event submission idleTriggered (.ok version) now →
      before.lifecycle ≠ .stopped →
      before.run (event :: between) = some held →
      held.enqueue before.completions.length launch = some (.error failure, failed) →
      before.LeavesNothing held failed event between launch failure
        ⟨before.completions.length, submission.reason, version, false⟩ := by
  have sound := (sound_new config sufficient).run run
  refine ⟨?_, ?_⟩
  · intro shutdown
    apply refuses_of_stopped
    rw [(lived_of_run run).stopped, ← List.mem_map, map_event_trace run]
    exact shutdown
  · intro event submission idleTriggered version now between held launch failure failed submits open_
      goes fails
    rcases sound.excursion submits open_ goes fails
      with ⟨path, unstartable, dropped, others, rest, rfl, excursion⟩
    have handles : (Transition.mk before event
        (before.openCall submission idleTriggered (.ok version) now).2).handles =
          [⟨before.completions.length, submission.reason, version, false⟩] := by
      rw [handles_of_submits submits open_, path]
      rfl
    have mirrors := excursion.mirrors handles (submits.begins_nothing open_ path rfl)
      (begins_nothing_of_turnedAway dropped)
    refine ⟨unstartable, dropped, ?_, others, rest, rfl, excursion.restRun,
      excursion.left.eq_withTurnedAway, fun _ _ => excursion.left.run_withTurnedAway, ?_⟩
    · intro nobody
      cases List.map_eq_nil_iff.mp nobody
      cases excursion.restRun
      rw [← sound.withTurnedAway_last]
      exact excursion.left.eq_withTurnedAway
    · intro later final laterRun
      rcases excursion.left.exists_run (List.forall_mem_nil _) (.inl rfl) laterRun
        with ⟨more, next, rfl, moreRun, left⟩
      exact ⟨more, next, rfl, moreRun, left.eq_withTurnedAway, left.answersLike, left.outcome?_void,
        mirrors more, (mirrors more).unheard⟩

/-- With the worker running and one request in the queue a second submission is overtaken by a third
one and then by the shutdown. -/
def overtaken : Submission Unit Unit :=
  { source := ⟨"a"⟩, position := {}, reason := .completeWord, snapshot := (), callback := some () }

theorem refusals_change_nothing_overtaken :
    ∃ before held failed after : Scheduler Unit Unit Unit,
      (new .default fun _ => false).run [.submit overtaken (.ok {}) 0, .enqueue 0 .started] =
          some before ∧
        before.run [.submit overtaken (.ok {}) 0, .submit overtaken (.ok {}) 0, .enqueue 2 .started,
          .shutdown] = some held ∧
        held.enqueue 1 .started = some (.error (.error .shutDown), failed) ∧
        failed.stats.submitted = 3 ∧
        before.LeavesNothing held failed (.submit overtaken (.ok {}) 0)
          [.submit overtaken (.ok {}) 0, .enqueue 2 .started, .shutdown] .started (.error .shutDown)
          ⟨1, .completeWord, {}, false⟩ ∧
        (new .default fun _ => false).run [.submit overtaken (.ok {}) 0, .shutdown] = some after ∧
        after.Refuses := by
  have past : (new .default fun _ => false : Scheduler Unit Unit Unit).run
      [.submit overtaken (.ok {}) 0, .enqueue 0 .started] = some _ := rfl
  have closed : (new .default fun _ => false : Scheduler Unit Unit Unit).run
      [.submit overtaken (.ok {}) 0, .shutdown] = some _ := rfl
  exact ⟨_, _, _, _, past, rfl, rfl, rfl,
    (refusals_change_nothing past).2 _ _ _ _ _ _ _ _ _ _ (.submit _ _ _) nofun rfl rfl, closed,
    (refusals_change_nothing closed).1 (by simp)⟩

end Scheduler

end EditorAnalysis
