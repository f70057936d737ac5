import EditorAnalysis.Proofs.Scheduler.Containment
import EditorAnalysis.Proofs.Scheduler.Execution
import EditorAnalysis.Proofs.Scheduler.HandOff

/-!
# The paths of submissions

A submission that is let in takes the first path that is open to it: the recent result, the analyzer
on its own thread, or the queue. This file says which one that is, in any state whatever, and what an
answer by the recent result touches (`Scheduler.recalled`): three counters, one new cell and the call
that runs the callback. The worker and everything it works with stay as they are.

That the callback runs once needs more than one state, for the number of the request has to be new.
So it is proved of the states that runs lead to.
-/

namespace EditorAnalysis

variable {Snapshot Callback Output : Type}

namespace Scheduler

/-- A submission is let in with a request, on a path that its handle tells of. -/
structure LetsIn (before : Scheduler Snapshot Callback Output)
    (event : Event Snapshot Callback Output) (submission : Submission Snapshot Callback)
    (after : Scheduler Snapshot Callback Output) (handle : Handle)
    (request : Request Snapshot Callback) (phase : CallPhase Output) : Prop where
  step : before.step event = some after
  handles : (Transition.mk before event after).handles = [handle]
  opens : before.Opens after handle ⟨request, phase⟩
  recent : ∀ analysis, phase = .callingBack analysis ↔ before.Recalls submission analysis
  inline : phase = .executing ↔ (∀ analysis, ¬ before.Recalls submission analysis) ∧
    (submission.synchronous = true ∨ before.config.asyncEnabled = false)
  queued : phase = .queueing ↔ (∀ analysis, ¬ before.Recalls submission analysis) ∧
    submission.synchronous = false ∧ before.config.asyncEnabled = true
  told : handle.synchronous = false ↔ phase = .queueing

/-- The scheduler with a request that was answered by the recent result, up to its callback. -/
def recalled (scheduler : Scheduler Snapshot Callback Output) (request : Request Snapshot Callback)
    (analysis : Analysis Output) : Scheduler Snapshot Callback Output :=
  { scheduler with
    stats := { scheduler.stats with
      submitted := scheduler.stats.submitted + 1
      fastPathHits := scheduler.stats.fastPathHits + 1
      delivered := scheduler.stats.delivered + 1 }
    completions := scheduler.completions ++ [Completion.pending.finish (.completed analysis)]
    calls := scheduler.calls ++ [⟨request, .callingBack analysis⟩] }

variable {scheduler before after final : Scheduler Snapshot Callback Output}
  {event : Event Snapshot Callback Output} {events : List (Event Snapshot Callback Output)}
  {submission : Submission Snapshot Callback} {idleTriggered : Bool} {version : Version}
  {now : Instant} {analysis : Analysis Output}

section Opening

theorem worker_openCall (submission : Submission Snapshot Callback) (idleTriggered : Bool)
    (reading : Attempt Version) (now : Instant) :
    (scheduler.openCall submission idleTriggered reading now).2.worker = scheduler.worker := by
  unfold openCall
  split
  · rfl
  · cases reading with
    | error payload => rfl
    | ok version => cases path : scheduler.path submission <;> simp [addCall, conclude_eq]

/-- A submission that the recent result answers touches nothing else. -/
theorem openCall_of_recalls (open_ : scheduler.lifecycle ≠ .stopped)
    (recalls : scheduler.Recalls submission analysis) :
    (scheduler.openCall submission idleTriggered (.ok version) now).2 =
      scheduler.recalled (scheduler.built submission idleTriggered version now) analysis := by
  have noOutcome : Completion.recorded (scheduler.completions ++ [Completion.pending])
      scheduler.completions.length = none := by
    rw [Completion.recorded_append, if_pos rfl]
    rfl
  simp [openCall, isShutDown, open_, path, remembered_eq_some_iff.mpr recalls, recalled, conclude,
    outcome?_eq_recorded, noOutcome, finish, addCall, built, Completion.modify_append_last,
    Stats.addSubmitted, Stats.addFastPathHit, Stats.addDelivered]

theorem Submits.step_eq {reading : Attempt Version}
    (submits : scheduler.Submits event submission idleTriggered reading now) :
    scheduler.step event =
      some (scheduler.openCall submission idleTriggered reading now).2 := by
  cases submits with
  | submit => rfl
  | idle _ _ decided => simp [step, onIdle, decided]

theorem Submits.handles_eq {reading : Attempt Version}
    (submits : before.Submits event submission idleTriggered reading now) :
    (Transition.mk before event after).handles =
      (before.openCall submission idleTriggered reading now).1.handle?.toList := by
  cases submits with
  | submit => rfl
  | idle _ _ decided => simp [Transition.handles, onIdle, decided]

theorem Submits.letsIn (open_ : before.lifecycle ≠ .stopped)
    (submits : before.Submits event submission idleTriggered (.ok version) now) :
    before.LetsIn event submission
      (before.openCall submission idleTriggered (.ok version) now).2
      ⟨before.completions.length, submission.reason, version,
        (before.path submission).phase.isInline⟩
      (before.built submission idleTriggered version now) (before.path submission).phase where
  step := submits.step_eq
  handles := by
    rw [submits.handles_eq, fst_openCall open_]
    rfl
  opens := opens_openCall open_
  recent _ := phase_eq_callingBack_iff
  inline := phase_eq_executing_iff
  queued := phase_eq_queueing_iff
  told := by
    cases (before.path submission).phase <;> simp [CallPhase.isInline]

theorem LetsIn.called {handle : Handle} {request : Request Snapshot Callback}
    {phase : CallPhase Output}
    (letsIn : before.LetsIn event submission after handle request phase) :
    ⟨request, phase⟩ ∈ after.calls := by
  rw [letsIn.opens.calls]
  exact List.mem_append_right _ (List.mem_singleton_self _)

theorem Submits.pumped_eq {reading : Attempt Version}
    (submits : before.Submits event submission idleTriggered reading now) :
    (Transition.mk before event after).pumped = [] := by
  cases submits <;> rfl

end Opening

section Recalling

variable {request : Request Snapshot Callback} {id : RequestId}

theorem outcome?_recalled :
    (scheduler.recalled request analysis).outcome? scheduler.completions.length =
      some (.completed analysis) := by
  rw [outcome?_eq_recorded, recalled, Completion.recorded_append, if_pos rfl]
  exact Completion.outcome_finish _ _

theorem outcome?_recalled_other (other : id ≠ scheduler.completions.length) :
    (scheduler.recalled request analysis).outcome? id = scheduler.outcome? id := by
  rw [outcome?_eq_recorded, recalled, Completion.recorded_append, if_neg other]
  rfl

theorem mem_calls_recalled :
    ⟨request, .callingBack analysis⟩ ∈ (scheduler.recalled request analysis).calls :=
  List.mem_append_right _ (List.mem_singleton_self _)

theorem Sound.newIn_recalled (sound : before.Sound)
    (fresh : request.id = before.completions.length) :
    (Transition.mk before event (before.recalled request analysis)).newIn callingBack
      (fun answered => answered.request.id) = [⟨request, analysis⟩] :=
  sound.newIn_of_openedRecent fresh rfl

/-- The callback of a request that was just made begins in the step that makes it. -/
theorem Sound.callbacks_of_recalled (sound : before.Sound)
    (fresh : request.id = before.completions.length)
    (outside : (Transition.mk before event (before.recalled request analysis)).pumped = []) :
    (Transition.mk before event (before.recalled request analysis)).callbacks =
      if request.callback.isSome then
        [⟨.submission, ⟨request, analysis⟩, before.recalled request analysis⟩]
      else [] := by
  simp only [Transition.callbacks, sound.newIn_recalled fresh, outside]
  cases called : request.callback <;> simp [called]

/-- A submission is at its callback until it returns. -/
theorem Sound.calling_of_rule (sound : before.Sound) (rule : before.Rule event after)
    (called : ⟨request, .callingBack analysis⟩ ∈ before.calls)
    (goesOn : event ≠ .returnCall request.id) :
    ⟨request, .callingBack analysis⟩ ∈ after.calls := by
  have own := sound.call?_of_mem called
  have elsewhere {id : RequestId} {other : Request Snapshot Callback} {phase : CallPhase Output}
      (found : before.call? id = some ⟨other, phase⟩) (differs : phase ≠ .callingBack analysis) :
      request.id ≠ id := by
    rintro rfl
    rw [own] at found
    cases found
    exact differs rfl
  cases rule with
  | openedRecent | openedInline | openedQueued => exact List.mem_append_left _ called
  | turnedAway found | enqueued found | failedCall found | cancelledCall found | faultedCall found
  | lostCall found =>
    have apart := elsewhere found (by simp)
    exact List.mem_filter.mpr ⟨called, by simp [apart]⟩
  | returnedCall found =>
    refine List.mem_filter.mpr ⟨called, ?_⟩
    simp only [bne_iff_ne]
    rintro rfl
    exact goesOn rfl
  | answeredCall found | deliveredCall found =>
    have apart := elsewhere found (by simp)
    exact List.mem_map.mpr ⟨_, called, by simp [apart]⟩
  | _ => exact called

theorem Sound.calling_of_run (sound : scheduler.Sound) (run : scheduler.run events = some final)
    (called : ⟨request, .callingBack analysis⟩ ∈ scheduler.calls)
    (goesOn : .returnCall request.id ∉ events) :
    ⟨request, .callingBack analysis⟩ ∈ final.calls := by
  induction events generalizing scheduler with
  | nil =>
    cases run
    exact called
  | cons event rest ih =>
    rw [List.mem_cons, not_or] at goesOn
    simp only [Scheduler.run, Option.bind_eq_some_iff] at run
    rcases run with ⟨next, step, run⟩
    have rule := rule_of_step step
    apply ih (sound.of_rule rule) run
    · exact sound.calling_of_rule rule called (Ne.symm goesOn.1)
    · exact goesOn.2

/-- Whatever happens before and after, a request answered by the recent result is called back once,
by its submission. -/
theorem filter_callbacksOf_of_recalled {config : Config} {sufficient : Reason → Bool}
    {later : List (Event Snapshot Callback Output)}
    (run : (new config sufficient).run events = some before)
    (step : before.step event = some (before.recalled request analysis))
    (fresh : request.id = before.completions.length)
    (outside : (Transition.mk before event (before.recalled request analysis)).pumped = [])
    (goesOn : (before.recalled request analysis).run later = some final) :
    ((new config sufficient).callbacksOf (events ++ event :: later)).filter
        (fun callback => callback.id = request.id) =
      if request.callback.isSome then
        [⟨.submission, ⟨request, analysis⟩, before.recalled request analysis⟩]
      else [] := by
  have known := calledBack_of_run run
  have sound := known.sound.of_rule (rule_of_step step)
  have past : ∀ callback ∈ (new config sufficient).callbacksOf events,
      callback.id ≠ request.id := by
    intro callback old same
    rcases known.spent callback old with ⟨stage, stands, _, settled⟩
    have recorded := congrArg View.outcome stands
    rw [Stage.outcome_view, settled] at recorded
    have born := lt_length_of_outcome? recorded
    rw [same, fresh] at born
    exact Nat.lt_irrefl _ born
  have future : ∀ callback ∈ (before.recalled request analysis).callbacksOf later,
      callback.id ≠ request.id := by
    rcases sound.staged request.id with ⟨stage, stands⟩
    have called : ⟨request, .callingBack analysis⟩ ∈ (before.recalled request analysis).calls :=
      mem_calls_recalled
    have phases := mem_callPhases called
    change _ ∈ (view _ request.id).calls at phases
    rw [stands] at phases
    cases Stage.eq_called phases
    exact sound.not_calledBack_of_spent stands trivial goesOn
  have silent {callbacks : List (CallbackRun Snapshot Callback Output)}
      (others : ∀ callback ∈ callbacks, callback.id ≠ request.id) :
      callbacks.filter (fun callback => callback.id = request.id) = [] := by
    apply List.filter_eq_nil_iff.mpr
    intro callback member
    simpa using others callback member
  rw [callbacksOf_append run, callbacksOf_cons step, List.filter_append, List.filter_append,
    silent past, silent future, known.sound.callbacks_of_recalled fresh outside]
  split <;> simp [CallbackRun.id]

theorem analyses_of_recalled :
    (Transition.mk before event (before.recalled request analysis)).analyses = [] := by
  apply analyses_eq_nil
  · intro other called
    rcases List.mem_append.mp called with old | last
    · exact old
    · nomatch congrArg Call.phase (List.mem_singleton.mp last)
  · intro other executing
    exact executing

/-- Whatever happens before and after, no analyzer call begins for a request answered by the recent
result. -/
theorem not_analyzed_of_recalled {config : Config} {sufficient : Reason → Bool}
    {later : List (Event Snapshot Callback Output)}
    (run : (new config sufficient).run events = some before)
    (step : before.step event = some (before.recalled request analysis))
    (fresh : request.id = before.completions.length)
    (goesOn : (before.recalled request analysis).run later = some final) :
    ∀ other ∈ (new config sufficient).analysesOf (events ++ event :: later),
      other.id ≠ request.id := by
  have sound := (sound_new config sufficient).run run
  have whole : (new config sufficient).run (events ++ event :: later) = some final := by
    simp [run_append, run, Scheduler.run, step, goesOn]
  have member : ⟨before, event, before.recalled request analysis⟩ ∈
      (new config sufficient).trace (events ++ event :: later) := by
    rw [trace_append run]
    simp [trace, step]
  have hit : ⟨request, analysis⟩ ∈
      (Transition.mk before event (before.recalled request analysis)).hits := by
    simp [Transition.hits, sound.newIn_recalled fresh, fresh]
  exact never_analyzed_of_hit whole member hit

end Recalling

section Queueing

/-- A request that is about to enter the queue waits in it once the worker runs. -/
theorem Sound.enters_queue {request : Request Snapshot Callback} {launch : Launch}
    {started : Scheduler Snapshot Callback Output} (sound : scheduler.Sound)
    (called : ⟨request, .queueing⟩ ∈ scheduler.calls)
    (launched : scheduler.start launch = .ok started) :
    ∃ next, scheduler.step (.enqueue request.id launch) = some next ∧
      request.bound ∈ next.waiting := by
  have found := sound.call?_of_mem called
  rcases stepped : scheduler.step (.enqueue request.id launch) with _ | next
  · simp [Scheduler.step, enqueue, found, launched] at stepped
  · refine ⟨next, rfl, ?_⟩
    have rule := rule_of_step stepped
    cases rule with
    | refused submits | faulted submits | openedRecent submits | openedInline submits
    | openedQueued submits => cases submits
    | turnedAway _ failed =>
      rw [launched] at failed
      cases failed
    | enqueued again open_ pushes =>
      rw [found] at again
      cases again
      have enters := sound.orderly.waiting_push open_ pushes
      rw [waiting, enters]
      split <;> simp

end Queueing

/-- The path of a submission, and what the recent result touches when it answers one.

In every state that is not shut down, a submission is answered by the recent result, by the analyzer
on its own thread or by the worker, in this order of precedence, and its handle says whether it is
the worker. The recent result is the answer as it is, and up to the callback nothing else changes
than three counters. Along a run, the callback begins once, before its submission returns; no
analyzer call begins for the request; and a request on another path begins its analyzer call at once,
or enters the queue unless the worker cannot be started. -/
theorem submissions_take_paths (open_ : before.lifecycle ≠ .stopped)
    (submits : before.Submits event submission idleTriggered (.ok version) now) :
    ∃ after handle request phase,
      before.LetsIn event submission after handle request phase ∧
      request = before.built submission idleTriggered version now ∧
      (∀ analysis, before.Recalls submission analysis →
        after = before.recalled request analysis ∧
        after.outcome? handle.id = some (.completed analysis) ∧
        (∀ id, id ≠ handle.id → after.outcome? id = before.outcome? id) ∧
        (Transition.mk before event after).analyses = []) ∧
      ∀ config sufficient events, (new config sufficient).run events = some before →
        (phase = .executing → (Transition.mk before event after).analyses = [request]) ∧
        (phase = .queueing → ∀ launch started, after.start launch = .ok started →
          ∃ next, after.step (.enqueue handle.id launch) = some next ∧
            request.bound ∈ next.waiting) ∧
        ∀ analysis, before.Recalls submission analysis →
          ∀ later final, after.run later = some final →
            final.outcome? handle.id = some (.completed analysis) ∧
            (∀ other ∈ (new config sufficient).analysesOf (events ++ event :: later),
              other.id ≠ handle.id) ∧
            ((new config sufficient).callbacksOf (events ++ event :: later)).filter
                (fun callback => callback.id = handle.id) =
              (if submission.callback.isSome then [⟨.submission, ⟨request, analysis⟩, after⟩]
              else []) ∧
            (.returnCall handle.id ∉ later →
              ⟨request, .callingBack analysis⟩ ∈ final.calls) := by
  have letsIn := submits.letsIn open_
  refine ⟨_, _, _, _, letsIn, rfl, ?_, ?_⟩
  · intro analysis recalls
    rw [openCall_of_recalls open_ recalls]
    refine ⟨rfl, outcome?_recalled, ?_, analyses_of_recalled⟩
    intro id other
    exact outcome?_recalled_other other
  · intro config sufficient events run
    have sound := (sound_new config sufficient).run run
    have afterSound := sound.of_rule (rule_of_step letsIn.step)
    refine ⟨?_, ?_, ?_⟩
    · intro executing
      have calls := letsIn.opens.calls
      rw [executing] at calls
      exact sound.analyses_of_openedInline rfl calls (worker_openCall _ _ _ _)
    · intro queueing launch started launched
      have called := letsIn.called
      rw [queueing] at called
      exact afterSound.enters_queue called launched
    · intro analysis recalls later final goesOn
      have step := letsIn.step
      rw [openCall_of_recalls open_ recalls] at step goesOn afterSound ⊢
      refine ⟨?_, ?_, ?_, ?_⟩
      · exact afterSound.outcome?_run goesOn outcome?_recalled
      · exact not_analyzed_of_recalled run step rfl goesOn
      · exact filter_callbacksOf_of_recalled run step rfl submits.pumped_eq goesOn
      · intro unreturned
        exact afterSound.calling_of_run goesOn mem_calls_recalled unreturned

/-- A check is remembered, and a completion keeps the worker busy. -/
def rememberedCheck : List (Event Unit Unit Unit) :=
  [.setActive (some ⟨"a"⟩),
    .submit { source := ⟨"a"⟩, position := {}, reason := .fullTypeCheck, snapshot := (),
              synchronous := true } (.ok ⟨1⟩) 0,
    .answerCall 0 (.ok (.ok ⟨some (), ⟨1⟩, false⟩)), .recordCall 0 (.ok ⟨1⟩) 0, .returnCall 0,
    .submit { source := ⟨"a"⟩, position := {}, reason := .completeWord, snapshot := () } (.ok ⟨2⟩)
      0,
    .enqueue 1 .started, .workerPoll, .workerReceive, .workerBegin]

/-- The mouse rests on a word of the document that was checked. -/
def hover : Submission Unit Unit :=
  { source := ⟨"a"⟩, position := {}, reason := .quickInfo, snapshot := (), callback := some () }

theorem submissions_take_paths_rememberedCheck : ∃ before after : Scheduler Unit Unit Unit,
    (new .default fun reason => reason == .quickInfo).run rememberedCheck = some before ∧
      before.busy = true ∧ before.step (.submit hover (.ok ⟨3⟩) 0) = some after ∧
      after = before.recalled (before.built hover false ⟨3⟩ 0) ⟨some (), ⟨1⟩, false⟩ ∧
      ∀ later final, after.run later = some final →
        final.outcome? 2 = some (.completed ⟨some (), ⟨1⟩, false⟩) ∧
          (((new .default fun reason => reason == .quickInfo).callbacksOf
            (rememberedCheck ++ .submit hover (.ok ⟨3⟩) 0 :: later)).filter
              fun callback => callback.id = 2).map CallbackRun.venue = [.submission] := by
  have found : ∃ before : Scheduler Unit Unit Unit,
      (new .default fun reason => reason == .quickInfo).run rememberedCheck = some before ∧
        before.busy = true ∧ before.lifecycle ≠ .stopped ∧ before.completions.length = 2 ∧
        before.Recalls hover ⟨some (), ⟨1⟩, false⟩ :=
    ⟨_, rfl, rfl, nofun, rfl, rfl, rfl, rfl⟩
  rcases found with ⟨before, run, busy, open_, number, recalls⟩
  rcases submissions_take_paths open_ (.submit hover (.ok ⟨3⟩) 0)
    with ⟨after, handle, request, phase, letsIn, rfl, recent, runs⟩
  refine ⟨before, after, run, busy, letsIn.step, (recent _ recalls).1, ?_⟩
  intro later final goesOn
  have numbered : handle.id = 2 := letsIn.opens.number.trans number
  rcases (runs _ _ _ run).2.2 _ recalls later final goesOn with ⟨completed, _, called, _⟩
  rw [numbered] at completed called
  refine ⟨completed, ?_⟩
  rw [called]
  rfl

end Scheduler

end EditorAnalysis
