import EditorAnalysis.Proofs.Scheduler.Renumbering

/-!
# Beside a void request

`Beside` relates a scheduler to one that has a void request more, whose submission may be under way
and about to enter the queue. A step of the one is a step of the other, by the same event with the
numbers moved, and they are beside each other again. So the two do the same for as long as they run.
-/

namespace EditorAnalysis

variable {Snapshot Callback Output : Type}

/-- Where a callback runs and what it sees. -/
def CallbackRun.seen (run : CallbackRun Snapshot Callback Output) :
    Venue × Answered Snapshot Callback Output :=
  (run.venue, run.answered)

/-- The event is a step of a submission. -/
def Event.isSubmitting : Event Snapshot Callback Output → Bool
  | .submit _ _ _ | .idle _ _ _ | .enqueue _ _ | .answerCall _ _ | .recordCall _ _ _
  | .returnCall _ => true
  | _ => false

/-- The submissions under way with their numbers moved, and those of the void request among them. -/
def Among (number : Nat) (extra calls origin : List (Call Snapshot Callback Output)) : Prop :=
  ∃ left right, origin = left ++ right ∧
    calls = left.map (Call.renumber number) ++ (extra ++ right.map (Call.renumber number))

namespace Among

variable {number target : Nat} {extra calls origin : List (Call Snapshot Callback Output)}

theorem find? (among : Among number extra calls origin)
    (own : ∀ call ∈ extra, call.request.id = number) :
    calls.find? (fun call => call.request.id == skipping number target) =
      (origin.find? fun call => call.request.id == target).map (Call.renumber number) := by
  rcases among with ⟨left, right, rfl, rfl⟩
  have none : extra.find? (fun call => call.request.id == skipping number target) = none := by
    apply List.find?_eq_none.mpr
    intro call member
    rw [own call member, beq_iff_eq]
    exact (skipping_ne number target).symm
  have moved : ((fun call : Call Snapshot Callback Output =>
      call.request.id == skipping number target) ∘ Call.renumber number) =
        fun call => call.request.id == target := by
    funext call
    simp [Call.renumber]
  simp only [List.find?_append, none, Option.none_or, List.find?_map, moved, Option.map_or]

theorem append (among : Among number extra calls origin)
    (added : List (Call Snapshot Callback Output)) :
    Among number extra (calls ++ added.map (Call.renumber number)) (origin ++ added) := by
  rcases among with ⟨left, right, rfl, rfl⟩
  exact ⟨left, right ++ added, by simp, by simp⟩

theorem filter (among : Among number extra calls origin)
    (own : ∀ call ∈ extra, call.request.id = number) :
    Among number extra (calls.filter fun call => call.request.id != skipping number target)
      (origin.filter fun call => call.request.id != target) := by
  rcases among with ⟨left, right, rfl, rfl⟩
  refine ⟨left.filter fun call => call.request.id != target,
    right.filter fun call => call.request.id != target, List.filter_append .., ?_⟩
  have kept : extra.filter (fun call => call.request.id != skipping number target) = extra := by
    apply List.filter_eq_self.mpr
    intro call member
    rw [own call member, bne_iff_ne]
    exact (skipping_ne number target).symm
  have moved : ((fun call : Call Snapshot Callback Output =>
      call.request.id != skipping number target) ∘ Call.renumber number) =
        fun call => call.request.id != target := by
    funext call
    simp [Call.renumber, bne]
  simp only [List.filter_append, kept, List.filter_map, moved]

theorem setPhase (among : Among number extra calls origin)
    (own : ∀ call ∈ extra, call.request.id = number) (phase : CallPhase Output) :
    Among number extra
      (calls.map fun call =>
        if call.request.id = skipping number target then { call with phase } else call)
      (origin.map fun call => if call.request.id = target then { call with phase } else call) := by
  rcases among with ⟨left, right, rfl, rfl⟩
  refine ⟨left.map fun call => if call.request.id = target then { call with phase } else call,
    right.map fun call => if call.request.id = target then { call with phase } else call,
    List.map_append, ?_⟩
  have kept : (extra.map fun call =>
      if call.request.id = skipping number target then { call with phase } else call) = extra := by
    refine (List.map_congr_left ?_).trans (List.map_id extra)
    intro call member
    rw [own call member, if_neg (skipping_ne number target).symm]
    rfl
  have moved (calls : List (Call Snapshot Callback Output)) :
      ((calls.map (Call.renumber number)).map fun call =>
        if call.request.id = skipping number target then { call with phase } else call) =
      (calls.map fun call => if call.request.id = target then { call with phase } else call).map
        (Call.renumber number) := by
    rw [List.map_map, List.map_map]
    congr 1
    funext call
    by_cases same : call.request.id = target <;> simp [Call.renumber, same]
  rw [List.map_append, List.map_append, kept, moved, moved]

theorem filterMap {Entry : Type} {pick : Call Snapshot Callback Output → Option Entry}
    {change : Entry → Entry} (among : Among number extra calls origin)
    (moves : ∀ call, pick (call.renumber number) = (pick call).map change)
    (silent : ∀ call ∈ extra, pick call = none) :
    calls.filterMap pick = (origin.filterMap pick).map change := by
  rcases among with ⟨left, right, rfl, rfl⟩
  have none : extra.filterMap pick = [] := List.filterMap_eq_nil_iff.mpr silent
  have moved : pick ∘ Call.renumber number = fun call => (pick call).map change :=
    funext moves
  simp only [List.filterMap_append, List.filterMap_map, none, moved, List.nil_append,
    List.map_append, List.map_filterMap]

end Among

namespace Scheduler

/-- A scheduler that has a void request more than another one, with the given submissions of the void
request among those under way. -/
inductive Beside (number : Nat) (cell : Completion Output)
    (extra : List (Call Snapshot Callback Output)) (rest : Scheduler Snapshot Callback Output) :
    Scheduler Snapshot Callback Output → Prop where
  | intro {calls : List (Call Snapshot Callback Output)}
      (room : number ≤ rest.completions.length)
      (own : ∀ call ∈ extra, call.request.id = number)
      (among : Among number extra calls rest.calls) :
      Beside number cell extra rest (rest.withVoid number cell calls)

variable {number : Nat} {cell : Completion Output}
  {extra calls : List (Call Snapshot Callback Output)}
  {rest full next : Scheduler Snapshot Callback Output} {event : Event Snapshot Callback Output}

namespace Beside

theorem call? (beside : Beside number cell extra rest full) (target : Nat) :
    full.call? (skipping number target) = (rest.call? target).map (Call.renumber number) := by
  rcases beside with ⟨room, own, among⟩
  exact among.find? own

theorem finish (beside : Beside number cell extra rest full) (target : Nat)
    (outcome : Outcome Output) :
    Beside number cell extra (rest.finish target outcome)
      (full.finish (skipping number target) outcome) := by
  rcases beside with ⟨room, own, among⟩
  rw [finish_withVoid]
  refine ⟨?_, own, among⟩
  rwa [Scheduler.finish, List.length_modify]

theorem conclude (beside : Beside number cell extra rest full) (target : Nat)
    (outcome : Outcome Output) (count : Stats → Stats)
    (counts : ∀ stats : Stats, count stats.addSubmitted = (count stats).addSubmitted) :
    Beside number cell extra (rest.conclude target outcome count)
      (full.conclude (skipping number target) outcome count) := by
  rcases beside with ⟨room, own, among⟩
  rw [conclude_withVoid outcome count counts]
  refine ⟨?_, own, ?_⟩
  · rwa [conclude_eq, Completion.length_endAll]
  · rwa [conclude_eq]

theorem endCall (beside : Beside number cell extra rest full) (target : Nat) :
    Beside number cell extra (rest.endCall target) (full.endCall (skipping number target)) := by
  rcases beside with ⟨room, own, among⟩
  exact ⟨room, own, among.filter own⟩

theorem setPhase (beside : Beside number cell extra rest full) (target : Nat)
    (phase : CallPhase Output) :
    Beside number cell extra (rest.setPhase target phase)
      (full.setPhase (skipping number target) phase) := by
  rcases beside with ⟨room, own, among⟩
  exact ⟨room, own, among.setPhase own phase⟩

theorem openCall (beside : Beside number cell extra rest full)
    (submission : Submission Snapshot Callback) (idleTriggered : Bool) (reading : Attempt Version)
    (now : Instant) :
    (full.openCall submission idleTriggered reading now).1 =
        (rest.openCall submission idleTriggered reading now).1.renumber number ∧
      Beside number cell extra (rest.openCall submission idleTriggered reading now).2
        (full.openCall submission idleTriggered reading now).2 := by
  rcases beside with @⟨calls, room, own, among⟩
  rcases openCall_withVoid cell calls submission idleTriggered reading now room
    with ⟨added, more, same⟩
  rw [same]
  refine ⟨rfl, Nat.le_trans room ?_, own, ?_⟩
  · cases opened : rest.openCall submission idleTriggered reading now with
    | mk opening next =>
      rcases opens_of_openCall submission idleTriggered reading now opened
        with ⟨_, kept⟩ | ⟨_, _, _, opens⟩
      · exact Nat.le_of_eq kept.symm
      · exact opens.cells ▸ Nat.le_succ _
  · rw [more]
    exact among.append added

theorem displace (beside : Beside number cell extra rest full) (job : Job Snapshot Callback) :
    Beside number cell extra (rest.displace job) (full.displace (job.renumber number)) := by
  rcases beside with ⟨room, own, among⟩
  rw [displace_withVoid]
  cases job with
  | terminate => exact ⟨room, own, among⟩
  | analyze request =>
    refine ⟨?_, own, among⟩
    rwa [Scheduler.displace, Scheduler.finish, List.length_modify]

theorem displaceAll (beside : Beside number cell extra rest full)
    (jobs : List (Job Snapshot Callback)) :
    Beside number cell extra (jobs.foldl Scheduler.displace rest)
      ((jobs.map (Job.renumber number)).foldl Scheduler.displace full) := by
  induction jobs generalizing rest full with
  | nil => exact beside
  | cons job jobs ih => exact ih (beside.displace job)

theorem send (beside : Beside number cell extra rest full) (job : Job Snapshot Callback) :
    Beside number cell extra
      ((rest.mailbox.push job).1.displaced.foldl Scheduler.displace
        { rest with mailbox := (rest.mailbox.push job).2 })
      ((full.mailbox.push (job.renumber number)).1.displaced.foldl Scheduler.displace
        { full with mailbox := (full.mailbox.push (job.renumber number)).2 }) := by
  rcases beside with @⟨calls, room, own, among⟩
  have keeps (job : Job Snapshot Callback) := job.lane_renumber number
  have stored : Beside number cell extra { rest with mailbox := (rest.mailbox.push job).2 }
      { rest.withVoid number cell calls with
        mailbox := (rest.mailbox.push job).2.map (Job.renumber number) } :=
    ⟨room, own, among⟩
  rcases LaneSlots.push_map _ rest.mailbox keeps job with ⟨displaced, slots⟩
  rw [withVoid_mailbox, displaced, slots]
  exact stored.displaceAll _

theorem start_ok (beside : Beside number cell extra rest full) {launch : Launch}
    {started : Scheduler Snapshot Callback Output} (launched : rest.start launch = .ok started) :
    ∃ other, full.start launch = .ok other ∧ Beside number cell extra started other := by
  rcases beside with ⟨room, own, among⟩
  rw [start_withVoid, launched]
  rcases start_eq_ok launched with ⟨_, rfl⟩
  exact ⟨_, rfl, room, own, among⟩

theorem start_error (beside : Beside number cell extra rest full) {launch : Launch}
    {failure : StartFailure} (failed : rest.start launch = .error failure) :
    full.start launch = .error failure := by
  rcases beside with ⟨room, own, among⟩
  rw [start_withVoid, failed]
  rfl

/-- What one scheduler answers and becomes, beside the other. -/
def Answers {Answer : Type} (number : Nat) (cell : Completion Output)
    (extra : List (Call Snapshot Callback Output))
    (answer other : Answer × Scheduler Snapshot Callback Output) : Prop :=
  other.1 = answer.1 ∧ Beside number cell extra answer.2 other.2

theorem enqueue (beside : Beside number cell extra rest full) (target : Nat) (launch : Launch) :
    Option.Rel (Answers number cell extra) (rest.enqueue target launch)
      (full.enqueue (skipping number target) launch) := by
  unfold Scheduler.enqueue
  rw [beside.call? target]
  rcases rest.call? target with _ | ⟨request, _ | _ | _ | _⟩
  · exact .none
  · simp only [Option.map_some, Call.renumber]
    cases launched : rest.start launch with
    | error failure =>
      rw [beside.start_error launched]
      exact .some ⟨rfl, (beside.finish target .abandoned).endCall target⟩
    | ok started =>
      rcases beside.start_ok launched with ⟨other, launchedToo, besideToo⟩
      rw [launchedToo]
      exact .some ⟨rfl, (besideToo.send (.analyze { request with token := .worker })).endCall target⟩
  · exact .none
  · exact .none
  · exact .none

theorem answerCall (beside : Beside number cell extra rest full) (target : Nat)
    (execution : Execution Output) :
    Option.Rel (Beside number cell extra) (rest.answerCall target execution)
      (full.answerCall (skipping number target) execution) := by
  unfold Scheduler.answerCall
  rw [beside.call? target]
  rcases rest.call? target with _ | ⟨request, _ | _ | _ | _⟩
  · exact .none
  · exact .none
  · simp only [Option.map_some, Call.renumber]
    cases execution.verdict with
    | ready analysis => exact .some (beside.setPhase target _)
    | failed =>
      exact .some ((beside.conclude target .abandoned Stats.addAbandoned fun _ => rfl).endCall target)
    | cancelled =>
      exact .some ((beside.conclude target .aborted Stats.addAborted fun _ => rfl).endCall target)
  · exact .none
  · exact .none

theorem returnCall (beside : Beside number cell extra rest full) (target : Nat) :
    Option.Rel (Beside number cell extra) (rest.returnCall target)
      (full.returnCall (skipping number target)) := by
  unfold Scheduler.returnCall
  rw [beside.call? target]
  rcases rest.call? target with _ | ⟨request, _ | _ | _ | _⟩
  · exact .none
  · exact .none
  · exact .none
  · exact .none
  · exact .some (beside.endCall target)

theorem recordResult (beside : Beside number cell extra rest full)
    (request : Request Snapshot Callback) (analysis : Analysis Output) (reading : Attempt Version)
    (now : Instant) :
    (∃ payload, rest.recordResult request analysis reading now = .error payload ∧
      full.recordResult (request.renumber number) analysis reading now = .error payload) ∨
    ∃ recorded other, rest.recordResult request analysis reading now = .ok recorded ∧
      full.recordResult (request.renumber number) analysis reading now = .ok other ∧
      Beside number cell extra recorded other := by
  rcases beside with ⟨room, own, among⟩
  rw [recordResult_withVoid]
  cases records : rest.recordResult request analysis reading now with
  | error payload => exact .inl ⟨payload, rfl, rfl⟩
  | ok recorded =>
    refine .inr ⟨recorded, _, rfl, rfl, ?_⟩
    have kept := recordResult_eq_ok records
    refine ⟨?_, own, ?_⟩
    · rw [kept]
      exact room
    · rw [kept]
      exact among

theorem outcome? (beside : Beside number cell extra rest full) (target : Nat) :
    full.outcome? (skipping number target) = rest.outcome? target := by
  rcases beside with ⟨room, own, among⟩
  exact outcome?_withVoid

theorem recordCall (beside : Beside number cell extra rest full) (target : Nat)
    (reading : Attempt Version) (now : Instant) :
    Option.Rel (Answers number cell extra) (rest.recordCall target reading now)
      (full.recordCall (skipping number target) reading now) := by
  unfold Scheduler.recordCall
  rw [beside.call? target]
  rcases rest.call? target with _ | ⟨request, _ | _ | analysis | _⟩
  · exact .none
  · exact .none
  · exact .none
  · simp only [Option.map_some, Call.renumber]
    rcases beside.recordResult request analysis reading now
      with ⟨payload, fault, faultToo⟩ | ⟨recorded, other, records, recordsToo, besideToo⟩
    · rw [fault, faultToo]
      exact .some ⟨rfl, (beside.finish target .abandoned).endCall target⟩
    · rw [records, recordsToo]
      simp only [besideToo.outcome?]
      split
      · exact .some ⟨rfl, besideToo.endCall target⟩
      · have delivered :=
          besideToo.conclude target (.completed analysis) Stats.addDelivered fun _ => rfl
        exact .some ⟨rfl, delivered.setPhase target _⟩
  · exact .none

end Beside

theorem calls_of_rule (rule : rest.Rule event next) (outside : event.isSubmitting = false) :
    next.calls = rest.calls := by
  cases rule with
  | openedRecent submits | openedInline submits | openedQueued submits =>
    cases submits <;> cases outside
  | turnedAway | enqueued | answeredCall | failedCall | cancelledCall | faultedCall | lostCall
  | deliveredCall | returnedCall => cases outside
  | _ => rfl

theorem step_withVoid (outside : event.isSubmitting = false) :
    (rest.withVoid number cell calls).step (event.renumber number) =
      (rest.step event).map fun next => next.withVoid number cell calls := by
  cases event with
  | submit | idle | enqueue | answerCall | recordCall | returnCall => cases outside
  | setActive source => rfl
  | start launch =>
    simp only [Event.renumber, step, start_withVoid]
    cases rest.start launch <;> rfl
  | workerPoll => exact workerPoll_withVoid
  | workerReceive => exact workerReceive_withVoid
  | workerBegin => exact workerBegin_withVoid
  | workerAnswer execution => exact workerAnswer_withVoid execution
  | workerRecord reading now => exact workerRecord_withVoid reading now
  | workerDeliver => exact workerDeliver_withVoid
  | workerPost accepted => exact workerPost_withVoid accepted
  | workerClear => exact workerClear_withVoid
  | shutdown =>
    simp only [Event.renumber, step, shutdown_withVoid]
    rfl
  | joinWorker =>
    simp only [Event.renumber, step, joinWorker_withVoid]
    cases rest.joinWorker <;> rfl
  | giveUpWorker =>
    simp only [Event.renumber, step, giveUpWorker_withVoid]
    cases rest.giveUpWorker <;> rfl
  | pump =>
    simp only [Event.renumber, step, withVoid_ui, UiQueue.take?_map]
    cases rest.ui.take? <;> rfl
  | dropPump => rfl

namespace Beside

theorem onIdle (beside : Beside number cell extra rest full)
    (trigger : IdleTrigger Snapshot Callback) (reading : Attempt Version) (now : Instant) :
    (full.onIdle trigger reading now).1 =
        (rest.onIdle trigger reading now).1.map id (Option.map (Opening.renumber number)) ∧
      Beside number cell extra (rest.onIdle trigger reading now).2
        (full.onIdle trigger reading now).2 := by
  have decides : full.idleDecision trigger.needsRefresh trigger.quiet =
      rest.idleDecision trigger.needsRefresh trigger.quiet := by
    rcases beside with ⟨room, own, among⟩
    simp only [idleDecision, isBusy, withVoid_mailbox, LaneSlots.isEmpty_map]
    rfl
  rcases beside.openCall trigger.submission true reading now with ⟨opening, opened⟩
  unfold Scheduler.onIdle
  rw [decides]
  cases rest.idleDecision trigger.needsRefresh trigger.quiet with
  | submit => exact ⟨by simp only [opening]; rfl, opened⟩
  | _ => exact ⟨rfl, beside⟩

/-- A step of one scheduler is a step of the other. -/
theorem step (beside : Beside number cell extra rest full)
    (event : Event Snapshot Callback Output) :
    Option.Rel (Beside number cell extra) (rest.step event) (full.step (event.renumber number)) := by
  have second {Answer : Type} {answer other : Option (Answer × Scheduler Snapshot Callback Output)}
      (answers : Option.Rel (Answers number cell extra) answer other) :
      Option.Rel (Beside number cell extra) (answer.map Prod.snd) (other.map Prod.snd) := by
    cases answers with
    | none => exact .none
    | some both => exact .some both.2
  cases outside : event.isSubmitting with
  | true =>
    cases event with
    | submit submission reading now => exact .some (beside.openCall submission false reading now).2
    | idle trigger reading now => exact .some (beside.onIdle trigger reading now).2
    | enqueue id launch => exact second (beside.enqueue id launch)
    | answerCall id execution => exact beside.answerCall id execution
    | recordCall id reading now => exact second (beside.recordCall id reading now)
    | returnCall id => exact beside.returnCall id
    | _ => cases outside
  | false =>
    rcases beside with ⟨room, own, among⟩
    rw [step_withVoid outside]
    cases stepped : rest.step event with
    | none => exact .none
    | some next =>
      have rule := rule_of_step stepped
      refine .some ⟨?_, own, ?_⟩
      · rcases length_of_rule rule with kept | ⟨more, _⟩ <;> omega
      · rw [calls_of_rule rule outside]
        exact among

theorem run (beside : Beside number cell extra rest full)
    (events : List (Event Snapshot Callback Output)) :
    Option.Rel (Beside number cell extra) (rest.run events)
      (full.run (events.map (Event.renumber number))) := by
  induction events generalizing rest full with
  | nil => exact .some beside
  | cons event later ih =>
    have steps := beside.step event
    simp only [List.map_cons, Scheduler.run]
    generalize rest.step event = next, full.step (event.renumber number) = other at steps ⊢
    cases steps with
    | none => exact .none
    | some besideToo => exact ih besideToo

end Beside

/-- A transition of one scheduler and the same transition of the other. -/
structure Paired (number : Nat) (cell : Completion Output)
    (extra : List (Call Snapshot Callback Output))
    (transition other : Transition Snapshot Callback Output) : Prop where
  before : Beside number cell extra transition.before other.before
  event : other.event = transition.event.renumber number
  after : Beside number cell extra transition.after other.after

theorem Beside.trace (beside : Beside number cell extra rest full)
    (events : List (Event Snapshot Callback Output)) :
    List.Forall₂ (Paired number cell extra) (rest.trace events)
      (full.trace (events.map (Event.renumber number))) := by
  induction events generalizing rest full with
  | nil => exact .nil
  | cons event later ih =>
    have steps := beside.step event
    simp only [List.map_cons, Scheduler.trace]
    generalize rest.step event = next, full.step (event.renumber number) = other at steps ⊢
    cases steps with
    | none => exact .nil
    | some besideToo => exact .cons ⟨beside, rfl, besideToo⟩ (ih besideToo)

section Views

variable {transition other : Transition Snapshot Callback Output}

theorem Beside.waiting (beside : Beside number cell extra rest full) :
    full.waiting = rest.waiting.map (Request.renumber number) := by
  rcases beside with ⟨room, own, among⟩
  rw [Scheduler.waiting, withVoid_mailbox, LaneSlots.toList_map, requests_map]
  rfl

theorem Beside.analyzing (beside : Beside number cell extra rest full)
    (quiet : ∀ call ∈ extra, call.phase = .queueing) :
    full.analyzing = rest.analyzing.map (Request.renumber number) := by
  rcases beside with ⟨room, own, among⟩
  simp only [Scheduler.analyzing, withVoid_calls, withVoid_worker, List.map_append]
  congr 1
  · apply among.filterMap
    · rintro ⟨request, _ | _ | _ | _⟩ <;> rfl
    · intro call member
      simp only [quiet call member]
  · cases rest.worker <;> rfl

theorem Beside.callingBack (beside : Beside number cell extra rest full)
    (quiet : ∀ call ∈ extra, call.phase = .queueing) :
    full.callingBack = rest.callingBack.map (Answered.renumber number) := by
  rcases beside with ⟨room, own, among⟩
  apply among.filterMap
  · rintro ⟨request, _ | _ | _ | _⟩ <;> rfl
  · intro call member
    simp only [quiet call member]

theorem newIn_map {Entry : Type} {view : Scheduler Snapshot Callback Output → List Entry}
    {id : Entry → RequestId} {change : Entry → Entry}
    (moves : ∀ entry, id (change entry) = skipping number (id entry))
    (before : view other.before = (view transition.before).map change)
    (after : view other.after = (view transition.after).map change) :
    other.newIn view id = (transition.newIn view id).map change := by
  rw [Transition.newIn, Transition.newIn, before, after, List.filter_map]
  congr 2
  funext entry
  simp [moves]

theorem Paired.sent (paired : Paired number cell extra transition other) :
    other.sent = transition.sent.map (Request.renumber number) :=
  newIn_map (fun _ => rfl) paired.before.waiting paired.after.waiting

theorem Paired.analyses (paired : Paired number cell extra transition other)
    (quiet : ∀ call ∈ extra, call.phase = .queueing) :
    other.analyses = transition.analyses.map (Request.renumber number) :=
  newIn_map (fun _ => rfl) (paired.before.analyzing quiet) (paired.after.analyzing quiet)

theorem Paired.pumped (paired : Paired number cell extra transition other) :
    other.pumped = transition.pumped.map (Answered.renumber number) := by
  rcases transition with ⟨rest, event, next⟩
  rcases other with ⟨full, _, _⟩
  rcases paired with ⟨⟨room, own, among⟩, rfl, _⟩
  cases event with
  | pump => exact List.map_take.symm
  | _ => rfl

theorem seen_callbacks (transition : Transition Snapshot Callback Output) :
    transition.callbacks.map CallbackRun.seen =
      ((transition.newIn Scheduler.callingBack fun answered => answered.request.id).map
          (Prod.mk Venue.submission) ++ transition.pumped.map (Prod.mk Venue.pump)).filter
        fun run => run.2.request.callback.isSome := by
  simp only [Transition.callbacks, List.filter_append, List.map_append, List.filter_map,
    List.map_map]
  rfl

theorem Paired.callbacks (paired : Paired number cell extra transition other)
    (quiet : ∀ call ∈ extra, call.phase = .queueing) :
    other.callbacks.map CallbackRun.seen =
      (transition.callbacks.map CallbackRun.seen).map (Prod.map id (Answered.renumber number)) := by
  have inline : (other.newIn Scheduler.callingBack fun answered => answered.request.id) =
      (transition.newIn Scheduler.callingBack fun answered => answered.request.id).map
        (Answered.renumber number) :=
    newIn_map (fun _ => rfl) (paired.before.callingBack quiet) (paired.after.callingBack quiet)
  simp only [seen_callbacks, inline, paired.pumped, List.filter_append, List.map_append,
    List.filter_map, List.map_map]
  rfl

theorem Paired.handles (paired : Paired number cell extra transition other) :
    other.handles = transition.handles.map (Handle.renumber number) := by
  have moved (opening : Opening) :
      (opening.renumber number).handle? = opening.handle?.map (Handle.renumber number) := by
    cases opening <;> rfl
  rcases transition with ⟨rest, event, next⟩
  rcases other with ⟨full, _, _⟩
  rcases paired with ⟨beside, rfl, _⟩
  cases event with
  | submit submission reading now =>
    simp only [Transition.handles, Event.renumber, (beside.openCall submission false reading now).1,
      moved, Option.toList_map]
  | idle trigger reading now =>
    simp only [Transition.handles, Event.renumber, (beside.onIdle trigger reading now).1,
      Prod.map_snd]
    rcases (rest.onIdle trigger reading now).1.2 with _ | opening
    · rfl
    · simp only [Option.map_some, Option.bind_some, moved, Option.toList_map]
  | _ => rfl

theorem flatMap_of_paired {Entry : Type} {read : Transition Snapshot Callback Output → List Entry}
    {change : Entry → Entry} {transitions others : List (Transition Snapshot Callback Output)}
    (paired : List.Forall₂ (Paired number cell extra) transitions others)
    (moves : ∀ {transition other}, Paired number cell extra transition other →
      read other = (read transition).map change) :
    others.flatMap read = (transitions.flatMap read).map change := by
  induction paired with
  | nil => rfl
  | cons both _ ih => rw [List.flatMap_cons, List.flatMap_cons, List.map_append, moves both, ih]

end Views

end Scheduler

end EditorAnalysis
