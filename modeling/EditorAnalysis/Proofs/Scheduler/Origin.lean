import EditorAnalysis.Proofs.Scheduler.Callback
import EditorAnalysis.Proofs.Scheduler.Pipeline

/-!
# Where requests come from

A submission under way has the request that was made of it when it was let in, and a request enters
the queue only out of a submission under way. So whatever has a request goes back to a handle, which
tells the reason of the request and which way it went.
-/

namespace EditorAnalysis

variable {Snapshot Callback Output : Type}

/-- The handle of a request tells its number and its reason. -/
structure Handle.Tells (handle : Handle) (request : Request Snapshot Callback) : Prop where
  id : handle.id = request.id
  reason : handle.reason = request.reason

namespace Scheduler

variable {scheduler before after final : Scheduler Snapshot Callback Output}
  {event : Event Snapshot Callback Output} {events : List (Event Snapshot Callback Output)}
  {request : Request Snapshot Callback} {call : Call Snapshot Callback Output}

theorem handles_of_submits {submission : Submission Snapshot Callback} {idleTriggered : Bool}
    {version : Version} {now : Instant}
    (submits : before.Submits event submission idleTriggered (.ok version) now)
    (open_ : before.lifecycle ≠ .stopped) :
    (Transition.mk before event after).handles =
      [⟨before.completions.length, submission.reason, version,
        (before.path submission).phase.isInline⟩] := by
  cases submits with
  | submit => simp [Transition.handles, fst_openCall open_, Opening.handle?]
  | idle _ _ decided =>
    simp [Transition.handles, onIdle, decided, fst_openCall open_, Opening.handle?]

/-- A submission under way was under way before, or it has just been let in. -/
theorem Sound.mem_calls_of_rule (sound : before.Sound) (rule : before.Rule event after)
    (called : call ∈ after.calls) :
    (∃ old ∈ before.calls, old.request = call.request ∧
      old.phase.isInline = call.phase.isInline) ∨
    ∃ submission idleTriggered version now,
      before.Submits event submission idleTriggered (.ok version) now ∧
        before.lifecycle ≠ .stopped ∧
        call = ⟨before.built submission idleTriggered version now,
          (before.path submission).phase⟩ := by
  have moved {id : RequestId} {origin : Request Snapshot Callback}
      {phase later : CallPhase Output} (found : before.call? id = some ⟨origin, phase⟩)
      (member : call ∈ before.calls.map fun other =>
        if other.request.id = id then { other with phase := later } else other)
      (inline : phase.isInline = later.isInline) :
      ∃ old ∈ before.calls, old.request = call.request ∧
        old.phase.isInline = call.phase.isInline := by
    rcases List.mem_map.mp member with ⟨old, present, rfl⟩
    refine ⟨old, present, ?_⟩
    split
    · next same =>
      have own := sound.call?_of_mem present
      rw [same, found] at own
      cases own
      exact ⟨rfl, inline⟩
    · exact ⟨rfl, rfl⟩
  cases rule with
  | openedRecent submits open_ path | openedInline submits open_ path
  | openedQueued submits open_ path =>
    rcases List.mem_append.mp called with old | new
    · exact .inl ⟨call, old, rfl, rfl⟩
    · right
      refine ⟨_, _, _, _, submits, open_, ?_⟩
      rw [List.mem_singleton.mp new, path]
      rfl
  | turnedAway | enqueued | failedCall | cancelledCall | faultedCall | lostCall | returnedCall =>
    exact .inl ⟨call, (List.mem_filter.mp called).1, rfl, rfl⟩
  | answeredCall found => exact .inl (moved found called rfl)
  | deliveredCall found => exact .inl (moved found called rfl)
  | _ => exact .inl ⟨call, called, rfl, rfl⟩

/-- The token of a submission under way is still its own. -/
theorem own_of_run {config : Config} {sufficient : Reason → Bool}
    (run : (new config sufficient).run events = some final) (called : call ∈ final.calls) :
    call.request.token = .own := by
  suffices known : final.Sound ∧ ∀ call ∈ final.calls, call.request.token = .own from
    known.2 call called
  clear called
  apply run_preserves (motive := fun state : Scheduler Snapshot Callback Output =>
    state.Sound ∧ ∀ call ∈ state.calls, call.request.token = .own) ?_ ?_ run
  · rintro before event after ⟨sound, own⟩ rule
    refine ⟨sound.of_rule rule, ?_⟩
    intro call called
    rcases sound.mem_calls_of_rule rule called
      with ⟨old, present, same, _⟩ | ⟨_, _, _, _, _, _, rfl⟩
    · rw [← same]
      exact own old present
    · rfl
  · exact ⟨sound_new config sufficient, by simp [new]⟩

/-- A submission under way has a handle, which tells whether it is answered on its own thread. -/
theorem exists_handle_of_call {config : Config} {sufficient : Reason → Bool}
    (run : (new config sufficient).run events = some final) (called : call ∈ final.calls) :
    ∃ handle ∈ (new config sufficient).handlesOf events, handle.Tells call.request ∧
      handle.synchronous = call.phase.isInline := by
  suffices known : final.Sound ∧ ∀ call ∈ final.calls,
      ∃ handle ∈ (new config sufficient).handlesOf events, handle.Tells call.request ∧
        handle.synchronous = call.phase.isInline from known.2 call called
  clear called
  apply run_induction (motive := fun past (state : Scheduler Snapshot Callback Output) =>
    state.Sound ∧ ∀ call ∈ state.calls, ∃ handle ∈ past.flatMap Transition.handles,
      handle.Tells call.request ∧ handle.synchronous = call.phase.isInline) ?_ ?_ run
  · exact ⟨sound_new config sufficient, by simp [new]⟩
  · rintro past before event after ⟨sound, known⟩ step
    have rule := rule_of_step step
    refine ⟨sound.of_rule rule, ?_⟩
    intro call called
    rw [List.flatMap_append, List.flatMap_singleton]
    rcases sound.mem_calls_of_rule rule called
      with ⟨old, present, same, inline⟩ | ⟨submission, _, version, _, submits, open_, rfl⟩
    · rcases known old present with ⟨handle, handed, tells, path⟩
      rw [same] at tells
      exact ⟨handle, List.mem_append_left _ handed, tells, path.trans inline⟩
    · refine ⟨⟨before.completions.length, submission.reason, version,
        (before.path submission).phase.isInline⟩, List.mem_append_right _ ?_, ⟨rfl, rfl⟩, rfl⟩
      rw [handles_of_submits submits open_]
      exact List.mem_singleton_self _

/-- Only what enters the queue adds to the requests that wait. -/
theorem waiting_subset_of_rule (rule : before.Rule event after)
    (notEnqueue : ∀ id launch, event ≠ .enqueue id launch) : after.waiting ⊆ before.waiting := by
  intro request waits
  cases rule with
  | enqueued => exact absurd rfl (notEnqueue _ _)
  | receivedNone receiving pops =>
    rw [waiting, LaneSlots.toList_of_pop_none pops] at waits
    exact waits
  | receivedTerminate receiving pops =>
    rw [waiting, LaneSlots.toList_of_pop_some pops]
    exact waits
  | receivedRequest receiving pops =>
    rw [waiting, LaneSlots.toList_of_pop_some pops]
    exact List.mem_cons_of_mem _ waits
  | stopping => cases waits
  | _ => exact waits

/-- A request that enters the queue comes out of a submission under way. -/
theorem Sound.exists_call_of_sent (sound : before.Sound) (rule : before.Rule event after)
    (new : request ∈ (Transition.mk before event after).sent) :
    ∃ id launch origin, event = .enqueue id launch ∧
      before.call? id = some ⟨origin, .queueing⟩ ∧ request = origin.bound := by
  by_cases enqueues : ∃ id launch, event = .enqueue id launch
  · rcases enqueues with ⟨id, launch, rfl⟩
    cases rule with
    | refused submits | faulted submits | openedRecent submits | openedInline submits
    | openedQueued submits => cases submits
    | turnedAway =>
      exfalso
      have waits := (Transition.mem_newIn _).mp new
      exact waits.2 (List.mem_map_of_mem waits.1)
    | @enqueued _ _ origin _ _ found open_ pushes =>
      rw [(sound.enters_of_push found open_ pushes rfl rfl rfl).sent] at new
      exact ⟨id, launch, origin, rfl, found, List.mem_singleton.mp new⟩
  · have subset := waiting_subset_of_rule rule fun id launch same => enqueues ⟨id, launch, same⟩
    rw [sent_of_waiting_subset subset] at new
    cases new

/-- A transition of a run splits its events. -/
theorem exists_split_of_mem {transition : Transition Snapshot Callback Output}
    (run : scheduler.run events = some final) (member : transition ∈ scheduler.trace events) :
    ∃ past rest, events = past ++ transition.event :: rest ∧
      scheduler.run past = some transition.before ∧
      transition.before.step transition.event = some transition.after ∧
      transition.after.run rest = some final := by
  rcases List.mem_iff_getElem?.mp member with ⟨index, found⟩
  rcases exists_split_of_trace run found with ⟨past, rest, split, _, pastRun, step, restRun, _⟩
  exact ⟨past, rest, split, pastRun, step, restRun⟩

theorem handlesOf_append {middle : Scheduler Snapshot Callback Output}
    {rest : List (Event Snapshot Callback Output)} (run : scheduler.run events = some middle) :
    scheduler.handlesOf (events ++ rest) = scheduler.handlesOf events ++ middle.handlesOf rest := by
  rw [handlesOf, trace_append run, List.flatMap_append]
  rfl

/-- A request that has entered the queue has a handle, which tells that it did. -/
theorem exists_handle_of_sent {config : Config} {sufficient : Reason → Bool}
    (run : (new config sufficient).run events = some final)
    (member : request ∈ (new config sufficient).sentOf events) :
    request.token = .worker ∧ ∃ handle ∈ (new config sufficient).handlesOf events,
      handle.Tells request ∧ handle.synchronous = false := by
  rcases List.mem_flatMap.mp member with ⟨⟨before, event, after⟩, inTrace, new⟩
  rcases exists_split_of_mem run inTrace with ⟨past, rest, rfl, pastRun, step, _⟩
  have sound := (calledBack_of_run pastRun).sound
  rcases sound.exists_call_of_sent (rule_of_step step) new with ⟨id, launch, origin, _, found, rfl⟩
  rcases exists_handle_of_call pastRun (List.mem_of_find?_eq_some found)
    with ⟨handle, handed, tells, path⟩
  refine ⟨rfl, handle, ?_, ⟨tells.id, tells.reason⟩, path⟩
  rw [handlesOf_append pastRun]
  exact List.mem_append_left _ handed

/-- No two handles of a run have one number. -/
theorem eq_of_handle_id {config : Config} {sufficient : Reason → Bool} {handle other : Handle}
    (run : (new config sufficient).run events = some final)
    (handed : handle ∈ (new config sufficient).handlesOf events)
    (otherHanded : other ∈ (new config sufficient).handlesOf events)
    (same : handle.id = other.id) : handle = other := by
  have distinct : (((new config sufficient).handlesOf events).map Handle.id).Nodup := by
    rw [map_id_handlesOf run]
    exact List.nodup_range
  exact List.inj_on_of_nodup_map distinct handed otherHanded same

end Scheduler

end EditorAnalysis
