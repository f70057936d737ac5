import EditorAnalysis.Proofs.Scheduler.Advance
import EditorAnalysis.Proofs.Scheduler.Handles

/-!
# Analyzer calls

An analyzer call begins when a request enters one of two stages, on its submitting thread or on the
worker, and no request comes back to a stage before these. So what is known of the stage of a
request tells whether it was ever analyzed. The worker begins none once its token has fired.
-/

namespace EditorAnalysis

variable {Snapshot Callback Output : Type}

/-- The worker displaces nothing. -/
theorem WorkPhase.MayEnd.ne_displaced {phase : WorkPhase Output} {outcome : Outcome Output}
    (ends : phase.MayEnd outcome) (marked : Bool) :
    (phase.outcome? marked).getD outcome ≠ .displaced := by
  cases phase with
  | executing => rcases ends with rfl | rfl <;> cases marked <;> exact nofun
  | recording | delivering => cases ends; cases marked <;> exact nofun
  | posting => exact nofun

namespace Stage

/-- The request is inside the analyzer. -/
def Analyzing : Stage Output → Prop
  | .called .executing => True
  | .worked .executing _ => True
  | _ => False

/-- An analyzer call for the request may have begun. One that waits or was displaced was never
analyzed. -/
def Begun : Stage Output → Prop
  | .called phase => phase.isInline = true
  | .worked _ _ | .posted _ _ => True
  | .ended outcome _ => outcome ≠ .displaced
  | _ => False

variable {stage later : Stage Output}

theorem Advance.begun (advance : Advance stage later) (begun : stage.Begun) : later.Begun := by
  cases advance with
  | conclude marked ends => exact ends.ne_displaced marked
  | unmarkEnded outcome => exact begun
  | answerCall | deliverCall => rfl
  | turnAway | send => cases begun
  | failCall | cancelCall | faultCall | returnCall | pump => exact nofun
  | _ => first | exact trivial | exact begun.elim

theorem Analyzing.begun (analyzing : stage.Analyzing) : stage.Begun := by
  cases stage with
  | called phase => cases phase <;> first | rfl | exact analyzing.elim
  | worked phase marked => exact trivial
  | _ => exact analyzing.elim

theorem not_begun_of_displaced (displaced : stage.outcome? = some .displaced) : ¬ stage.Begun := by
  cases stage with
  | called phase => cases phase <;> cases displaced
  | worked phase marked => cases phase <;> cases marked <;> cases displaced
  | ended outcome marked =>
    intro begun
    exact begun (Option.some.inj displaced)
  | _ => cases displaced

/-- There are two ways into the analyzer. -/
theorem Advance.of_analyzing (advance : Advance stage later) (analyzing : later.Analyzing)
    (fresh : ¬ stage.Analyzing) :
    stage = .unborn ∧ later = .called .executing ∨
      stage = .held ∧ later = .worked .executing true := by
  cases advance with
  | openInline => exact .inl ⟨rfl, rfl⟩
  | begin => exact .inr ⟨rfl, rfl⟩
  | giveUp phase =>
    cases phase with
    | executing => exact absurd trivial fresh
    | _ => exact analyzing.elim
  | _ => exact analyzing.elim

end Stage

namespace Scheduler

variable {scheduler before after : Scheduler Snapshot Callback Output}
  {event : Event Snapshot Callback Output}

theorem eq_executing_of_workOn {id : RequestId} {worker : Worker Snapshot Callback Output}
    (works : worker.workOn id = some .executing) :
    ∃ request, worker = .executing request ∧ request.id = id := by
  have executing := Worker.work?_of_workOn works
  cases worker with
  | executing request =>
    cases executing
    exact ⟨request, rfl, rfl⟩
  | _ => cases executing

theorem eq_holding_of_held? {id : RequestId} {worker : Worker Snapshot Callback Output}
    (held : worker.held? = some id) : ∃ request, worker = .holding request ∧ request.id = id := by
  cases worker with
  | holding request => exact ⟨request, rfl, Option.some.inj held⟩
  | _ => cases held

theorem mem_analyzing {request : Request Snapshot Callback} :
    request ∈ scheduler.analyzing ↔
      ⟨request, .executing⟩ ∈ scheduler.calls ∨ scheduler.worker = .executing request := by
  rw [analyzing, List.mem_append]
  apply or_congr
  · constructor
    · intro inside
      rcases List.mem_filterMap.mp inside with ⟨⟨_, phase⟩, called, shape⟩
      cases phase with
      | executing =>
        cases shape
        exact called
      | _ => cases shape
    · intro called
      exact List.mem_filterMap.mpr ⟨_, called, rfl⟩
  · cases scheduler.worker <;> simp [eq_comm]

theorem analyzing_subset
    (calls : ∀ request, ⟨request, .executing⟩ ∈ after.calls → ⟨request, .executing⟩ ∈ before.calls)
    (notExecuting : ∀ request, after.worker ≠ .executing request) :
    after.analyzing ⊆ before.analyzing := by
  intro request analyzing
  rcases mem_analyzing.mp analyzing with called | executing
  · exact mem_analyzing.mpr (.inl (calls request called))
  · exact absurd executing (notExecuting request)

/-- The requests inside an analyzer call are those whose stage says so. -/
theorem mem_map_analyzing {id : RequestId} {stage : Stage Output}
    (stands : scheduler.view id = stage.view) :
    id ∈ scheduler.analyzing.map (fun request => request.id) ↔ stage.Analyzing := by
  constructor
  · intro inside
    rcases List.mem_map.mp inside with ⟨request, analyzing, rfl⟩
    rcases mem_analyzing.mp analyzing with called | executing
    · have phases := mem_callPhases called
      change _ ∈ (scheduler.view request.id).calls at phases
      rw [stands] at phases
      cases Stage.eq_called phases
      exact trivial
    · rcases stage_of_work? stands (by rw [executing]; rfl) with ⟨marked, rfl⟩
      exact trivial
  · intro analyzing
    cases stage with
    | called phase =>
      cases phase with
      | executing =>
        have calls := congrArg View.calls stands
        have phases : .executing ∈ (scheduler.view id).calls := by
          rw [calls]
          exact List.mem_singleton_self _
        rcases List.mem_map.mp phases with ⟨⟨request, _⟩, member, rfl⟩
        rcases List.mem_filter.mp member with ⟨called, own⟩
        exact List.mem_map.mpr ⟨request, mem_analyzing.mpr (.inl called), by simpa using own⟩
      | _ => exact analyzing.elim
    | worked phase marked =>
      cases phase with
      | executing =>
        have works := congrArg View.worker stands
        rcases eq_executing_of_workOn works with ⟨request, executing, own⟩
        exact List.mem_map.mpr ⟨request, mem_analyzing.mpr (.inr executing), own⟩
      | _ => exact analyzing.elim
    | _ => exact analyzing.elim

/-- A request that comes inside an analyzer call enters one of the two stages. -/
theorem begins_of_newly_analyzing {id : RequestId} {stage later : Stage Output}
    (stands : before.view id = stage.view) (laterStands : after.view id = later.view)
    (moves : later = stage ∨ stage.Advance later)
    (inside : id ∈ after.analyzing.map fun request => request.id)
    (outside : id ∉ before.analyzing.map fun request => request.id) :
    stage.Advance later ∧
      (stage = .unborn ∧ later = .called .executing ∨
        stage = .held ∧ later = .worked .executing true) := by
  have analyzing := (mem_map_analyzing laterStands).mp inside
  have fresh : ¬ stage.Analyzing := fun analyzing =>
    outside ((mem_map_analyzing stands).mpr analyzing)
  rcases moves with rfl | advance
  · exact absurd analyzing fresh
  · exact ⟨advance, advance.of_analyzing analyzing fresh⟩

/-- An analyzer call begins where its request enters one of the two stages. -/
theorem Sound.begins_analysis {request : Request Snapshot Callback} (sound : before.Sound)
    (step : before.step event = some after)
    (begun : request ∈ (Transition.mk before event after).analyses) :
    ∃ stage later : Stage Output, before.view request.id = stage.view ∧
      after.view request.id = later.view ∧ stage.Advance later ∧
      (stage = .unborn ∧ later = .called .executing ∨
        stage = .held ∧ later = .worked .executing true) := by
  rw [Transition.analyses, Transition.mem_newIn] at begun
  rcases begun with ⟨inside, outside⟩
  rcases sound.moves step with ⟨stage, later, stands, laterStands, moves⟩
  rcases begins_of_newly_analyzing stands laterStands moves (List.mem_map_of_mem inside) outside
    with ⟨advance, ways⟩
  exact ⟨stage, later, stands, laterStands, advance, ways⟩

/-- Of requests that exist already, only the one that the worker begins is newly analyzed. -/
theorem Sound.filter_analyses {ids : List RequestId} (sound : before.Sound)
    (step : before.step event = some after) (born : ∀ id ∈ ids, id < before.completions.length)
    (quiet : before.worker.held? = none ∨ ∀ request, after.worker ≠ .executing request) :
    ((Transition.mk before event after).analyses.filter fun request => request.id ∈ ids) = [] := by
  apply List.filter_eq_nil_iff.mpr
  intro request begun listed
  rcases sound.begins_analysis step begun
    with ⟨stage, later, stands, laterStands, _, ⟨rfl, _⟩ | ⟨rfl, rfl⟩⟩
  · have unborn := congrArg View.born stands
    have known := born request.id (of_decide_eq_true listed)
    simp [view, Stage.view, known] at unborn
  · rcases quiet with free | notExecuting
    · have holds := congrArg View.held stands
      simp [view, Stage.view, free] at holds
    · have works := congrArg View.worker laterStands
      rcases eq_executing_of_workOn works with ⟨other, executing, _⟩
      exact notExecuting other executing

theorem Sound.analyses_of_began {request : Request Snapshot Callback} (sound : before.Sound)
    (holding : before.worker = .holding request) (executing : after.worker = .executing request)
    (calls : after.calls = before.calls) :
    (Transition.mk before event after).analyses = [request] := by
  have longer : after.analyzing = before.analyzing ++ [request] := by
    simp [analyzing, holding, executing, calls]
  apply Transition.newIn_of_append longer (List.Subset.refl _)
  intro inside
  rcases sound.staged request.id with ⟨stage, stands⟩
  have held : stage.view.held = true := by
    rw [← stands]
    simp [view, holding, Worker.held?]
  cases Stage.eq_held held
  exact (mem_map_analyzing stands).mp inside

theorem Sound.filter_analyses_of_began {ids : List RequestId} {request : Request Snapshot Callback}
    (sound : before.Sound) (holding : before.worker = .holding request)
    (executing : after.worker = .executing request) (calls : after.calls = before.calls)
    (listed : request.id ∈ ids) :
    ((Transition.mk before event after).analyses.filter fun request => request.id ∈ ids) =
      [request] := by
  rw [sound.analyses_of_began holding executing calls]
  simpa using listed

theorem Sound.begun_of_rule {id : RequestId} {stage : Stage Output} (sound : before.Sound)
    (rule : before.Rule event after) (stands : before.view id = stage.view) (begun : stage.Begun) :
    ∃ later : Stage Output, after.view id = later.view ∧ later.Begun :=
  sound.stage_of_rule rule Stage.Advance.begun stands begun

theorem Sound.begun_step {past : List (Transition Snapshot Callback Output)} (sound : before.Sound)
    (step : before.step event = some after)
    (begun : ∀ request ∈ past.flatMap Transition.analyses,
      ∃ stage : Stage Output, before.view request.id = stage.view ∧ stage.Begun) :
    ∀ request ∈ (past ++ [Transition.mk before event after]).flatMap Transition.analyses,
      ∃ stage : Stage Output, after.view request.id = stage.view ∧ stage.Begun := by
  intro request member
  rw [List.flatMap_append, List.flatMap_singleton] at member
  rcases List.mem_append.mp member with old | new
  · rcases begun request old with ⟨stage, stands, begun⟩
    exact sound.begun_of_rule (rule_of_step step) stands begun
  · rcases sound.begins_analysis step new with ⟨_, later, _, laterStands, _, ⟨_, rfl⟩ | ⟨_, rfl⟩⟩
    · exact ⟨_, laterStands, rfl⟩
    · exact ⟨_, laterStands, trivial⟩

/-- What was analyzed in a run has got past the point where that may happen. -/
theorem Sound.begun_of_analysesOf {events : List (Event Snapshot Callback Output)}
    {final : Scheduler Snapshot Callback Output} (sound : scheduler.Sound)
    (run : scheduler.run events = some final) :
    ∀ request ∈ scheduler.analysesOf events,
      ∃ stage : Stage Output, final.view request.id = stage.view ∧ stage.Begun := by
  have known := run_induction
    (motive := fun past state => state.Sound ∧ ∀ request ∈ past.flatMap Transition.analyses,
      ∃ stage : Stage Output, state.view request.id = stage.view ∧ stage.Begun)
    ⟨sound, fun request member => by cases member⟩ ?_ run
  · exact known.2
  · rintro past before event after ⟨sound, begun⟩ step
    exact ⟨sound.of_rule (rule_of_step step), sound.begun_step step begun⟩

theorem length_of_stopped (stopped : before.lifecycle = .stopped)
    (rule : before.Rule event after) : after.completions.length = before.completions.length := by
  rcases length_of_rule rule with same | ⟨_, open_, _⟩
  · exact same
  · exact absurd stopped open_

/-- A worker that holds a request begins it only if its token has not fired. -/
theorem uncancelled_of_begin {request other : Request Snapshot Callback}
    (rule : before.Rule event after) (begun : before.lifecycle ≠ .idle)
    (holding : before.worker = .holding request) (executing : after.worker = .executing other) :
    before.cancelled = false := by
  cases workers : event.isWorker with
  | false =>
    rw [worker_of_rule rule workers begun, holding] at executing
    cases executing
  | true =>
    cases rule with
    | began _ uncancelled => exact uncancelled
    | _ => simp_all [Event.isWorker]

end Scheduler

end EditorAnalysis
