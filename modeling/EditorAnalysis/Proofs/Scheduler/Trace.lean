import EditorAnalysis.Proofs.Scheduler.Rule

/-!
# Traces of runs

A state does not remember what was analyzed, posted or called back on the way to it. The trace of a
run does: it lists each event with the states around it. What began in a transition is read off
these two states, whatever the event was: an analyzer call, a callback on a submitting thread or a
waiting request is new if it is there after the event and was not there before. Only a callback run
by the UI thread, which leaves nothing behind, is read off the event.
-/

namespace EditorAnalysis

variable {Snapshot Callback Output : Type}

/-- One event of a run with the states around it. -/
structure Transition (Snapshot Callback Output : Type) where
  before : Scheduler Snapshot Callback Output
  event : Event Snapshot Callback Output
  after : Scheduler Snapshot Callback Output

namespace Scheduler

/-- The transitions of a run, for as long as its events are possible. -/
def trace (scheduler : Scheduler Snapshot Callback Output) :
    List (Event Snapshot Callback Output) → List (Transition Snapshot Callback Output)
  | [] => []
  | event :: rest =>
      match scheduler.step event with
      | none => []
      | some next => ⟨scheduler, event, next⟩ :: next.trace rest

/-- The requests that wait for the worker, in their order. -/
def waiting (scheduler : Scheduler Snapshot Callback Output) : List (Request Snapshot Callback) :=
  scheduler.mailbox.toList.filterMap Job.request?

/-- The requests inside an analyzer call, on any thread. -/
def analyzing (scheduler : Scheduler Snapshot Callback Output) : List (Request Snapshot Callback) :=
  (scheduler.calls.filterMap fun call =>
    match call.phase with
    | .executing => some call.request
    | _ => none) ++
  match scheduler.worker with
  | .executing request => [request]
  | _ => []

/-- The callbacks under way on submitting threads, with what they see. -/
def callingBack (scheduler : Scheduler Snapshot Callback Output) :
    List (Answered Snapshot Callback Output) :=
  scheduler.calls.filterMap fun call =>
    match call.phase with
    | .callingBack analysis => some ⟨call.request, analysis⟩
    | _ => none

end Scheduler

/-- Where a callback runs. -/
inductive Venue where
  /-- On the submitting thread, inside the submission. -/
  | submission
  /-- On the UI thread, as a job taken out of its queue. -/
  | pump
  deriving DecidableEq, Repr

/-- The beginning of a callback. -/
structure CallbackRun (Snapshot Callback Output : Type) where
  /-- Where the callback runs. -/
  venue : Venue
  /-- What the callback sees. -/
  answered : Answered Snapshot Callback Output
  /-- The scheduler as the callback finds it. -/
  found : Scheduler Snapshot Callback Output

/-- The request of a callback. -/
def CallbackRun.id (run : CallbackRun Snapshot Callback Output) : RequestId :=
  run.answered.request.id

/-- The handle of a submission that was let in. -/
def Opening.handle? : Opening → Option Handle
  | .opened handle => some handle
  | _ => none

namespace Transition

variable (transition : Transition Snapshot Callback Output)

/-- What is in a view of the state after a transition and was not in that of the state before. -/
def newIn {Entry : Type} (view : Scheduler Snapshot Callback Output → List Entry)
    (id : Entry → RequestId) : List Entry :=
  (view transition.after).filter fun entry => id entry ∉ (view transition.before).map id

/-- The requests whose analyzer call began. -/
def analyses : List (Request Snapshot Callback) :=
  transition.newIn Scheduler.analyzing fun request => request.id

/-- The requests that began to wait for the worker. -/
def sent : List (Request Snapshot Callback) :=
  transition.newIn Scheduler.waiting fun request => request.id

/-- The job that the UI thread took out of its queue. -/
def pumped : List (Answered Snapshot Callback Output) :=
  match transition.event with
  | .pump => transition.before.ui.jobs.take 1
  | _ => []

/-- The request whose callback the dispatcher accepted. -/
def posted : List (Answered Snapshot Callback Output) :=
  match transition.event, transition.before.worker with
  | .workerPost true, .posting request analysis => [⟨request, analysis⟩]
  | _, _ => []

/-- The callbacks that began. A request without a callback has none to run. -/
def callbacks : List (CallbackRun Snapshot Callback Output) :=
  let inline := transition.newIn Scheduler.callingBack fun answered => answered.request.id
  let run (venue : Venue) (answered : Answered Snapshot Callback Output) :
      CallbackRun Snapshot Callback Output := ⟨venue, answered, transition.after⟩
  (inline.map (run .submission) ++ transition.pumped.map (run .pump)).filter
    fun run => run.answered.request.callback.isSome

/-- The request that was constructed and answered at once, by the recent result. -/
def hits : List (Answered Snapshot Callback Output) :=
  (transition.newIn Scheduler.callingBack fun answered => answered.request.id).filter
    fun answered => transition.before.completions.length ≤ answered.request.id

/-- The handle of the request that was constructed. -/
def handles : List Handle :=
  match transition.event with
  | .submit submission reading now =>
      (transition.before.openCall submission false reading now).1.handle?.toList
  | .idle trigger reading now =>
      ((transition.before.onIdle trigger reading now).1.2.bind Opening.handle?).toList
  | _ => []

theorem mem_newIn {Entry : Type} {view : Scheduler Snapshot Callback Output → List Entry}
    {id : Entry → RequestId} {entry : Entry} :
    entry ∈ transition.newIn view id ↔
      entry ∈ view transition.after ∧ id entry ∉ (view transition.before).map id := by
  simp [newIn]

section NewIn

variable {before after : Scheduler Snapshot Callback Output}
  {event : Event Snapshot Callback Output} {Entry : Type}
  {view : Scheduler Snapshot Callback Output → List Entry} {id : Entry → RequestId}

theorem newIn_of_subset (subset : view after ⊆ view before) :
    (Transition.mk before event after).newIn view id = [] := by
  apply List.filter_eq_nil_iff.mpr
  intro entry inside
  simpa using ⟨entry, subset inside, rfl⟩

theorem newIn_of_nil (empty : view before = []) :
    (Transition.mk before event after).newIn view id = view after := by
  simp [newIn, empty]

theorem newIn_of_insert {left right : List Entry} {entry : Entry}
    (more : view after = left ++ entry :: right) (old : left ++ right ⊆ view before)
    (fresh : id entry ∉ (view before).map id) :
    (Transition.mk before event after).newIn view id = [entry] := by
  have gone (kept : List Entry) (inside : kept ⊆ left ++ right) :
      kept.filter (fun other => id other ∉ (view before).map id) = [] := by
    apply List.filter_eq_nil_iff.mpr
    intro other member
    simpa using ⟨other, old (inside member), rfl⟩
  have leftGone := gone left (List.subset_append_left left right)
  have rightGone := gone right (List.subset_append_right left right)
  rw [newIn, more, List.filter_append, leftGone, List.filter_cons_of_pos (by simpa using fresh),
    rightGone]
  rfl

theorem newIn_of_append {kept : List Entry} {entry : Entry} (more : view after = kept ++ [entry])
    (old : kept ⊆ view before) (fresh : id entry ∉ (view before).map id) :
    (Transition.mk before event after).newIn view id = [entry] :=
  newIn_of_insert more (by simpa using old) fresh

end NewIn

end Transition

namespace Scheduler

/-- The analyzer calls that begin in a run. -/
def analysesOf (scheduler : Scheduler Snapshot Callback Output)
    (events : List (Event Snapshot Callback Output)) : List (Request Snapshot Callback) :=
  (scheduler.trace events).flatMap Transition.analyses

/-- The callbacks that begin in a run. -/
def callbacksOf (scheduler : Scheduler Snapshot Callback Output)
    (events : List (Event Snapshot Callback Output)) :
    List (CallbackRun Snapshot Callback Output) :=
  (scheduler.trace events).flatMap Transition.callbacks

/-- The handles that a run hands out. -/
def handlesOf (scheduler : Scheduler Snapshot Callback Output)
    (events : List (Event Snapshot Callback Output)) : List Handle :=
  (scheduler.trace events).flatMap Transition.handles

variable {scheduler middle final : Scheduler Snapshot Callback Output}
  {events later : List (Event Snapshot Callback Output)}

theorem run_append (scheduler : Scheduler Snapshot Callback Output)
    (events later : List (Event Snapshot Callback Output)) :
    scheduler.run (events ++ later) = (scheduler.run events).bind fun next => next.run later := by
  induction events generalizing scheduler with
  | nil => rfl
  | cons event rest ih =>
    simp only [List.cons_append, run]
    cases scheduler.step event with
    | none => rfl
    | some next => exact ih next

theorem run_concat {event : Event Snapshot Callback Output}
    {next : Scheduler Snapshot Callback Output} (run : scheduler.run events = some middle)
    (step : middle.step event = some next) : scheduler.run (events ++ [event]) = some next := by
  rw [run_append, run, Option.bind_some, Scheduler.run, step]
  rfl

theorem trace_append (run : scheduler.run events = some middle) :
    scheduler.trace (events ++ later) = scheduler.trace events ++ middle.trace later := by
  induction events generalizing scheduler with
  | nil =>
    cases run
    rfl
  | cons event rest ih =>
    simp only [Scheduler.run, List.cons_append, trace] at run ⊢
    cases step : scheduler.step event with
    | none => simp [step] at run
    | some next =>
      rw [step] at run
      simp only [List.cons_append, ih run]

theorem map_event_trace (run : scheduler.run events = some final) :
    (scheduler.trace events).map Transition.event = events := by
  induction events generalizing scheduler with
  | nil => rfl
  | cons event rest ih =>
    simp only [Scheduler.run, trace] at run ⊢
    cases step : scheduler.step event with
    | none => simp [step] at run
    | some next =>
      rw [step] at run
      simp only [List.map_cons, ih run]

theorem length_trace (run : scheduler.run events = some final) :
    (scheduler.trace events).length = events.length := by
  rw [← List.length_map Transition.event, map_event_trace run]

/-- A transition splits the run it is in. -/
theorem exists_split_of_trace {index : Nat} {transition : Transition Snapshot Callback Output}
    (run : scheduler.run events = some final)
    (found : (scheduler.trace events)[index]? = some transition) :
    ∃ past rest, events = past ++ transition.event :: rest ∧ past.length = index ∧
      scheduler.run past = some transition.before ∧
      transition.before.step transition.event = some transition.after ∧
      transition.after.run rest = some final ∧
      scheduler.trace events = scheduler.trace past ++ transition :: transition.after.trace rest := by
  induction events generalizing scheduler index with
  | nil => simp [trace] at found
  | cons event rest ih =>
    simp only [Scheduler.run, trace] at run found ⊢
    cases step : scheduler.step event with
    | none => simp [step] at run
    | some next =>
      rw [step] at run
      simp only [step] at found
      cases index with
      | zero =>
        cases found
        exact ⟨[], rest, rfl, rfl, rfl, step, run, rfl⟩
      | succ index =>
        rcases ih run found with ⟨past, later, split, length, before, stepped, after, traces⟩
        refine ⟨event :: past, later, ?_, ?_, ?_, stepped, after, ?_⟩
        · rw [split, List.cons_append]
        · rw [List.length_cons, length]
        · rw [Scheduler.run, step]
          exact before
        · simp only [traces, trace, step, List.cons_append]

/-- Up to any transition of a run, and from there on, there is a run of its own. -/
theorem exists_run_of_split {past later : List (Transition Snapshot Callback Output)}
    {transition : Transition Snapshot Callback Output} (run : scheduler.run events = some final)
    (split : scheduler.trace events = past ++ transition :: later) :
    ∃ earlier rest, scheduler.run earlier = some transition.before ∧
      scheduler.trace earlier = past ∧
      transition.before.step transition.event = some transition.after ∧
      transition.after.run rest = some final ∧ transition.after.trace rest = later := by
  have found : (scheduler.trace events)[past.length]? = some transition := by simp [split]
  rcases exists_split_of_trace run found
    with ⟨earlier, rest, _, length, before, step, after, traces⟩
  rw [split] at traces
  have lengths : past.length = (scheduler.trace earlier).length := by
    rw [length_trace before, length]
  have same := List.append_inj_left traces lengths
  subst same
  have tails := List.append_cancel_left traces
  exact ⟨earlier, rest, before, rfl, step, after, (List.cons.inj tails).2.symm⟩

theorem exists_run_of_mem {transition : Transition Snapshot Callback Output}
    (run : scheduler.run events = some final) (member : transition ∈ scheduler.trace events) :
    ∃ earlier, scheduler.run earlier = some transition.before ∧
      transition.before.step transition.event = some transition.after := by
  rcases List.append_of_mem member with ⟨past, later, split⟩
  rcases exists_run_of_split run split with ⟨earlier, _, before, _, step, _⟩
  exact ⟨earlier, before, step⟩

/-- From one transition of a run events lead on to every later one. -/
theorem exists_run_between {earlier later : Nat}
    {first second : Transition Snapshot Callback Output}
    (run : scheduler.run events = some final)
    (foundFirst : (scheduler.trace events)[earlier]? = some first)
    (foundSecond : (scheduler.trace events)[later]? = some second) (before : earlier < later) :
    ∃ between, first.after.run between = some second.before ∧
      ∀ index transition, (first.after.trace between)[index]? = some transition →
        earlier + 1 + index < later ∧
          (scheduler.trace events)[earlier + 1 + index]? = some transition := by
  rcases exists_split_of_trace run foundSecond with ⟨past, _, _, rfl, pastRun, _, _, traces⟩
  have length : (scheduler.trace past).length = past.length := length_trace pastRun
  rw [traces] at foundFirst ⊢
  rw [List.getElem?_append_left (by rwa [length])] at foundFirst
  rcases exists_split_of_trace pastRun foundFirst
    with ⟨past', between, _, rfl, pastRun', _, betweenRun, traces'⟩
  have length' : (scheduler.trace past').length = past'.length := length_trace pastRun'
  refine ⟨between, betweenRun, ?_⟩
  intro index transition found
  have inside : (scheduler.trace past)[past'.length + 1 + index]? = some transition := by
    rw [traces', List.getElem?_append_right (by omega), length',
      show past'.length + 1 + index - past'.length = index + 1 by omega, List.getElem?_cons_succ]
    exact found
  have bound := (List.getElem?_eq_some_iff.mp inside).1
  rw [length] at bound
  refine ⟨bound, ?_⟩
  rw [List.getElem?_append_left (by rwa [length])]
  exact inside

/-- What holds at first and not at last fails to hold after some event. -/
theorem exists_crossing {motive : Scheduler Snapshot Callback Output → Prop}
    (run : scheduler.run events = some final) (start : motive scheduler) (finish : ¬ motive final) :
    ∃ index : Nat, ∃ transition : Transition Snapshot Callback Output,
      (scheduler.trace events)[index]? = some transition ∧
        motive transition.before ∧ ¬ motive transition.after := by
  induction events generalizing scheduler with
  | nil =>
    cases run
    exact absurd start finish
  | cons event rest ih =>
    simp only [Scheduler.run, trace] at run ih ⊢
    cases step : scheduler.step event with
    | none => simp [step] at run
    | some next =>
      rw [step] at run
      by_cases still : motive next
      · rcases ih run still with ⟨index, transition, found, crossing⟩
        exact ⟨index + 1, transition, found, crossing⟩
      · exact ⟨0, ⟨scheduler, event, next⟩, rfl, start, still⟩

/-- Induction along a run, with the transitions so far. -/
theorem run_induction
    {motive : List (Transition Snapshot Callback Output) → Scheduler Snapshot Callback Output → Prop}
    (start : motive [] scheduler)
    (advance : ∀ past before event after, motive past before → before.step event = some after →
      motive (past ++ [⟨before, event, after⟩]) after)
    (run : scheduler.run events = some final) : motive (scheduler.trace events) final := by
  suffices general : ∀ past, motive past scheduler → motive (past ++ scheduler.trace events) final by
    simpa using general [] start
  clear start
  induction events generalizing scheduler with
  | nil =>
    intro past holds
    cases run
    simpa [trace] using holds
  | cons event rest ih =>
    intro past holds
    simp only [Scheduler.run, trace] at run ⊢
    cases step : scheduler.step event with
    | none => simp [step] at run
    | some next =>
      rw [step] at run
      have rest := ih run (past ++ [⟨scheduler, event, next⟩])
        (advance past scheduler event next holds step)
      rwa [List.append_assoc] at rest

/-- What every rule keeps, every run keeps. -/
theorem run_preserves {motive : Scheduler Snapshot Callback Output → Prop}
    (keeps : ∀ before event after, motive before → before.Rule event after → motive after)
    (start : motive scheduler) (run : scheduler.run events = some final) : motive final := by
  have along := run_induction (motive := fun _ state => motive state) start
    (fun _ before event after holds step => keeps before event after holds (rule_of_step step)) run
  exact along

end Scheduler

end EditorAnalysis
