import EditorAnalysis.Proofs.Scheduler.Lifecycle

/-!
# The stages of a request

A request is at any time in the hands of exactly one owner: the submission that made it, the queue,
the worker, or the queue of the UI thread. With the outcome on record this makes its stage.
`Scheduler.view` gathers all that a scheduler has of one request, in whatever place, and
`Stage.view` says what there is of a request at a stage. That the two agree for every number
(`Scheduler.Staged`) excludes in one go that a request is held twice, lost, or ended too early.

`Stage.Advance` is the graph of stages. A step of a scheduler keeps a request at its stage or moves it
along one edge, and so statements about the whole life of a request are read off the graph.
-/

namespace EditorAnalysis

variable {Snapshot Callback Output : Type}

/-- How far the worker is with a request that it has published as its present one. -/
inductive WorkPhase (Output : Type) where
  | executing
  | recording (analysis : Analysis Output)
  | delivering (analysis : Analysis Output)
  | posting (analysis : Analysis Output)

/-- The stages of a request. A mark says that the request is the one the worker has published; a
forced shutdown takes the mark away, and so a worker may be left with a request it no longer marks.
-/
inductive Stage (Output : Type) where
  | unborn
  | called (phase : CallPhase Output)
  | waiting
  | held
  | worked (phase : WorkPhase Output) (marked : Bool)
  | posted (analysis : Analysis Output) (marked : Bool)
  | ended (outcome : Outcome Output) (marked : Bool)

/-- All that a scheduler has of one request. -/
@[ext]
structure View (Output : Type) where
  born : Bool := true
  outcome : Option (Outcome Output) := none
  calls : List (CallPhase Output) := []
  waiting : Nat := 0
  held : Bool := false
  worker : Option (WorkPhase Output) := none
  marked : Bool := false
  posted : List (Analysis Output) := []

/-- The outcome of a request whose submission is under way. -/
def CallPhase.outcome? : CallPhase Output → Option (Outcome Output)
  | .callingBack analysis => some (.completed analysis)
  | _ => none

/-- The outcome of a request the worker is concerned with. -/
def WorkPhase.outcome? : WorkPhase Output → Bool → Option (Outcome Output)
  | .posting analysis, _ => some (.completed analysis)
  | _, marked => if marked then none else some .aborted

/-- The outcomes a request may be given when the worker is done with it. -/
def WorkPhase.MayEnd : WorkPhase Output → Outcome Output → Prop
  | .executing, outcome => outcome = .abandoned ∨ outcome = .aborted
  | .recording _, outcome => outcome = .abandoned
  | .delivering _, outcome => outcome = .superseded
  | .posting analysis, outcome => outcome = .completed analysis

namespace Stage

/-- The outcome of a request at a stage. -/
def outcome? : Stage Output → Option (Outcome Output)
  | .unborn | .waiting | .held => none
  | .called phase => phase.outcome?
  | .worked phase marked => phase.outcome? marked
  | .posted analysis _ => some (.completed analysis)
  | .ended outcome _ => some outcome

/-- What there is of a request at a stage. -/
def view : Stage Output → View Output
  | .unborn => { born := false }
  | .called phase => { outcome := phase.outcome?, calls := [phase] }
  | .waiting => { waiting := 1 }
  | .held => { held := true }
  | .worked phase marked => { outcome := phase.outcome? marked, worker := some phase, marked }
  | .posted analysis marked =>
      { outcome := some (.completed analysis), posted := [analysis], marked }
  | .ended outcome marked => { outcome := some outcome, marked }

@[simp]
theorem outcome_view (stage : Stage Output) : stage.view.outcome = stage.outcome? := by
  cases stage <;> rfl

/-- What there is of a request tells its stage. -/
theorem view_injective {stage other : Stage Output} (same : stage.view = other.view) :
    stage = other := by
  cases stage <;> cases other <;> simp_all [view]

theorem eq_unborn {stage : Stage Output} (unborn : stage.view.born = false) : stage = .unborn := by
  cases stage <;> simp_all [view]

theorem eq_called {stage : Stage Output} {phase : CallPhase Output}
    (called : phase ∈ stage.view.calls) : stage = .called phase := by
  cases stage <;> simp_all [view]

theorem eq_waiting {stage : Stage Output} (waits : 0 < stage.view.waiting) : stage = .waiting := by
  cases stage <;> simp_all [view]

theorem eq_held {stage : Stage Output} (held : stage.view.held = true) : stage = .held := by
  cases stage <;> simp_all [view]

theorem eq_worked {stage : Stage Output} {phase : WorkPhase Output}
    (works : stage.view.worker = some phase) : ∃ marked, stage = .worked phase marked := by
  cases stage <;> simp_all [view]

theorem eq_posted {stage : Stage Output} {analysis : Analysis Output}
    (posted : analysis ∈ stage.view.posted) : ∃ marked, stage = .posted analysis marked := by
  cases stage <;> simp_all [view]

/-- The edges along which requests move from stage to stage. -/
inductive Advance : Stage Output → Stage Output → Prop where
  | openRecent (analysis : Analysis Output) : Advance .unborn (.called (.callingBack analysis))
  | openInline : Advance .unborn (.called .executing)
  | openQueued : Advance .unborn (.called .queueing)
  | turnAway : Advance (.called .queueing) (.ended .abandoned false)
  | send : Advance (.called .queueing) .waiting
  | answerCall (analysis : Analysis Output) :
      Advance (.called .executing) (.called (.recording analysis))
  | failCall : Advance (.called .executing) (.ended .abandoned false)
  | cancelCall : Advance (.called .executing) (.ended .aborted false)
  | faultCall (analysis : Analysis Output) :
      Advance (.called (.recording analysis)) (.ended .abandoned false)
  | deliverCall (analysis : Analysis Output) :
      Advance (.called (.recording analysis)) (.called (.callingBack analysis))
  | returnCall (analysis : Analysis Output) :
      Advance (.called (.callingBack analysis)) (.ended (.completed analysis) false)
  | displace : Advance .waiting (.ended .displaced false)
  | drain : Advance .waiting (.ended .aborted false)
  | take : Advance .waiting .held
  | skip : Advance .held (.ended .aborted false)
  | begin : Advance .held (.worked .executing true)
  | answer (analysis : Analysis Output) (marked : Bool) :
      Advance (.worked .executing marked) (.worked (.recording analysis) marked)
  | record (analysis : Analysis Output) (marked : Bool) :
      Advance (.worked (.recording analysis) marked) (.worked (.delivering analysis) marked)
  | complete (analysis : Analysis Output) :
      Advance (.worked (.delivering analysis) true) (.worked (.posting analysis) true)
  | conclude {phase : WorkPhase Output} {outcome : Outcome Output} (marked : Bool)
      (ends : phase.MayEnd outcome) :
      Advance (.worked phase marked) (.ended ((phase.outcome? marked).getD outcome) marked)
  | post (analysis : Analysis Output) (marked : Bool) :
      Advance (.worked (.posting analysis) marked) (.posted analysis marked)
  | pump (analysis : Analysis Output) (marked : Bool) :
      Advance (.posted analysis marked) (.ended (.completed analysis) marked)
  | giveUp (phase : WorkPhase Output) : Advance (.worked phase true) (.worked phase false)
  | unmarkPosted (analysis : Analysis Output) :
      Advance (.posted analysis true) (.posted analysis false)
  | unmarkEnded (outcome : Outcome Output) : Advance (.ended outcome true) (.ended outcome false)

/-- A marked request that the worker is no longer concerned with is on its way or has ended. -/
theorem eq_left {stage : Stage Output} (marked : stage.view.marked = true)
    (unworked : stage.view.worker = none) :
    (∃ analysis, stage = .posted analysis true) ∨ ∃ outcome, stage = .ended outcome true := by
  cases stage <;> simp_all [view]

theorem born_of_marked {stage : Stage Output} (marked : stage.view.marked = true) :
    stage.view.born = true := by
  cases stage <;> simp_all [view]

/-- Taking the mark of a request away ends it, but for what the worker still does with it. -/
theorem exists_unmarked {stage : Stage Output} (marked : stage.view.marked = true) :
    ∃ later, stage.Advance later ∧ later.view = { stage.view with
      outcome := some (stage.view.outcome.getD .aborted)
      marked := false } := by
  cases stage with
  | worked phase mark =>
    cases marked
    refine ⟨.worked phase false, .giveUp phase, ?_⟩
    cases phase <;> rfl
  | posted analysis mark =>
    cases marked
    exact ⟨.posted analysis false, .unmarkPosted analysis, rfl⟩
  | ended outcome mark =>
    cases marked
    exact ⟨.ended outcome false, .unmarkEnded outcome, rfl⟩
  | _ => cases marked

/-- An outcome stays as it is along the way. -/
theorem Advance.outcome?_eq {stage later : Stage Output} {outcome : Outcome Output}
    (advance : Advance stage later) (settled : stage.outcome? = some outcome) :
    later.outcome? = some outcome := by
  cases advance with
  | answer analysis marked => exact settled
  | record analysis marked => exact settled
  | conclude marked ends =>
    simp only [outcome?] at settled
    simp [outcome?, settled]
  | giveUp phase => cases phase <;> simp_all [outcome?, WorkPhase.outcome?]
  | _ => simp_all [outcome?, CallPhase.outcome?, WorkPhase.outcome?]

end Stage

/-- The phases of the calls with a request of a given number. -/
def callPhases (id : RequestId) (calls : List (Call Snapshot Callback Output)) :
    List (CallPhase Output) :=
  (calls.filter fun call => call.request.id == id).map Call.phase

/-- The analyses posted with a request of a given number. -/
def postedFor (id : RequestId) (jobs : List (Answered Snapshot Callback Output)) :
    List (Analysis Output) :=
  (jobs.filter fun answered => answered.request.id == id).map Answered.analysis

section Parts

variable {calls : List (Call Snapshot Callback Output)} {id target : RequestId}

@[simp]
theorem callPhases_append (id : RequestId) (calls : List (Call Snapshot Callback Output))
    (request : Request Snapshot Callback) (phase : CallPhase Output) :
    callPhases id (calls ++ [⟨request, phase⟩]) =
      callPhases id calls ++ if request.id = id then [phase] else [] := by
  by_cases same : request.id = id <;> simp [callPhases, same]

theorem callPhases_filter_same (calls : List (Call Snapshot Callback Output)) (id : RequestId) :
    callPhases id (calls.filter fun call => call.request.id != id) = [] := by
  simp [callPhases]

theorem callPhases_filter_other (calls : List (Call Snapshot Callback Output))
    (other : target ≠ id) :
    callPhases id (calls.filter fun call => call.request.id != target) = callPhases id calls := by
  unfold callPhases
  rw [List.filter_filter]
  congr 1
  apply List.filter_congr
  intro call _
  by_cases here : call.request.id = id
  · simp [here, Ne.symm other]
  · simp [here]

theorem callPhases_setPhase_same (calls : List (Call Snapshot Callback Output)) (id : RequestId)
    (phase : CallPhase Output) :
    callPhases id
      (calls.map fun call => if call.request.id = id then { call with phase } else call) =
      (callPhases id calls).map fun _ => phase := by
  induction calls with
  | nil => rfl
  | cons call calls ih =>
    simp only [callPhases] at ih
    by_cases here : call.request.id = id <;> simp [callPhases, here, ih]

theorem callPhases_setPhase_other (calls : List (Call Snapshot Callback Output))
    (phase : CallPhase Output) (other : target ≠ id) :
    callPhases id
      (calls.map fun call => if call.request.id = target then { call with phase } else call) =
        callPhases id calls := by
  induction calls with
  | nil => rfl
  | cons call calls ih =>
    simp only [callPhases] at ih
    by_cases here : call.request.id = target
    · simp [callPhases, here, other, ih]
    · by_cases wanted : call.request.id = id <;> simp_all [callPhases]

@[simp]
theorem postedFor_append (id : RequestId) (jobs : List (Answered Snapshot Callback Output))
    (answered : Answered Snapshot Callback Output) :
    postedFor id (jobs ++ [answered]) =
      postedFor id jobs ++ if answered.request.id = id then [answered.analysis] else [] := by
  by_cases same : answered.request.id = id <;> simp [postedFor, same]

theorem postedFor_cons (id : RequestId) (answered : Answered Snapshot Callback Output)
    (jobs : List (Answered Snapshot Callback Output)) :
    postedFor id (answered :: jobs) =
      if answered.request.id = id then answered.analysis :: postedFor id jobs
      else postedFor id jobs := by
  by_cases same : answered.request.id = id <;> simp [postedFor, same]

end Parts

namespace Worker

/-- The request the worker has published, and how far it is with it. -/
def work? : Worker Snapshot Callback Output → Option (RequestId × WorkPhase Output)
  | .executing request => some (request.id, .executing)
  | .recording request analysis => some (request.id, .recording analysis)
  | .delivering request analysis => some (request.id, .delivering analysis)
  | .posting request analysis => some (request.id, .posting analysis)
  | _ => none

/-- The request the worker has taken out of the queue and not yet begun. -/
def held? : Worker Snapshot Callback Output → Option RequestId
  | .holding request => some request.id
  | _ => none

/-- How far the worker is with the request of a given number. -/
def workOn (id : RequestId) (worker : Worker Snapshot Callback Output) :
    Option (WorkPhase Output) :=
  worker.work?.bind fun work => if work.1 = id then some work.2 else none

theorem held?_of_work? {worker : Worker Snapshot Callback Output}
    {work : RequestId × WorkPhase Output} (works : worker.work? = some work) :
    worker.held? = none := by
  cases worker <;> first | rfl | simp [Worker.work?] at works

theorem held?_of_rest {worker : Worker Snapshot Callback Output}
    (rests : worker.request? = none) : worker.held? = none := by
  cases worker <;> first | rfl | simp [request?] at rests

theorem work?_of_rest {worker : Worker Snapshot Callback Output}
    (rests : worker.request? = none) : worker.work? = none := by
  cases worker <;> first | rfl | simp [request?] at rests

theorem workOn_of_work? {worker : Worker Snapshot Callback Output} {target : RequestId}
    {phase : WorkPhase Output} (works : worker.work? = some (target, phase)) (id : RequestId) :
    worker.workOn id = if target = id then some phase else none := by
  simp [workOn, works]

theorem work?_of_workOn {worker : Worker Snapshot Callback Output} {id : RequestId}
    {phase : WorkPhase Output} (works : worker.workOn id = some phase) :
    worker.work? = some (id, phase) := by
  rcases Option.bind_eq_some_iff.mp works with ⟨⟨target, present⟩, concerned, here⟩
  rw [concerned]
  split at here
  · next same =>
    cases same
    cases here
    rfl
  · cases here

theorem workOn_of_work?_none {worker : Worker Snapshot Callback Output}
    (rests : worker.work? = none) (id : RequestId) : worker.workOn id = none := by
  simp [workOn, rests]

end Worker

namespace Scheduler

/-- All that a scheduler has of the request of a given number. -/
def view (scheduler : Scheduler Snapshot Callback Output) (id : RequestId) : View Output where
  born := decide (id < scheduler.completions.length)
  outcome := Completion.recorded scheduler.completions id
  calls := callPhases id scheduler.calls
  waiting := (Job.requestIds scheduler.mailbox.toList).count id
  held := decide (scheduler.worker.held? = some id)
  worker := scheduler.worker.workOn id
  marked := decide (scheduler.inFlight = some id)
  posted := postedFor id scheduler.ui.jobs

/-- Every number has a stage, and what there is of it is what there is at that stage. -/
def Staged (scheduler : Scheduler Snapshot Callback Output) : Prop :=
  ∀ id, ∃ stage : Stage Output, scheduler.view id = stage.view

theorem staged_new (config : Config) (sufficient : Reason → Bool) :
    (new config sufficient : Scheduler Snapshot Callback Output).Staged :=
  fun _ => ⟨.unborn, rfl⟩

end Scheduler

end EditorAnalysis
