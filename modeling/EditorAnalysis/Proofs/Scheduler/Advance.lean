import EditorAnalysis.Proofs.Scheduler.Published
import EditorAnalysis.Proofs.Scheduler.Trace

/-!
# Every step moves a request along the graph of stages

`Scheduler.Staged.advance` follows each rule of a scheduler: whatever happens, a request stays at
its stage or moves on along one edge of `Stage.Advance`. It is put together from one lemma for each
kind of move, which says what becomes of the request the move is about and that all others stay
where they are.

`Scheduler.Sound` collects what holds of every scheduler that was ever reached, and the lemmas
behind it are the form in which the rest of the theory uses it.
-/

namespace EditorAnalysis

variable {Snapshot Callback Output : Type}

namespace Scheduler

open Completion (endAll)

variable {scheduler next : Scheduler Snapshot Callback Output}
  {event : Event Snapshot Callback Output}

theorem request_id_of_call? {id : RequestId} {call : Call Snapshot Callback Output}
    (found : scheduler.call? id = some call) : call.request.id = id := by
  simpa using List.find?_some found

theorem phase_mem_of_call? {id : RequestId} {call : Call Snapshot Callback Output}
    (found : scheduler.call? id = some call) : call.phase ∈ (scheduler.view id).calls := by
  have member := List.mem_of_find?_eq_some found
  have same := request_id_of_call? found
  exact List.mem_map.mpr ⟨call, List.mem_filter.mpr ⟨member, by simp [same]⟩, rfl⟩

theorem mem_callPhases {call : Call Snapshot Callback Output} (called : call ∈ scheduler.calls) :
    call.phase ∈ (scheduler.view call.request.id).calls :=
  List.mem_map_of_mem (List.mem_filter.mpr ⟨called, by simp⟩)

theorem requestIds_mailbox (scheduler : Scheduler Snapshot Callback Output) :
    Job.requestIds scheduler.mailbox.toList =
      scheduler.waiting.map fun request => request.id := rfl

section Moves

variable {id target : RequestId} {stage : Stage Output}

/-- A state that has of a request what another has of it stands at the same stage. -/
theorem stays_of_view_eq (stands : scheduler.view id = stage.view)
    (same : next.view id = scheduler.view id) :
    ∃ later, next.view id = later.view ∧ (later = stage ∨ stage.Advance later) :=
  ⟨stage, same.trans stands, .inl rfl⟩

theorem stage_of_work? {phase : WorkPhase Output} (stands : scheduler.view id = stage.view)
    (works : scheduler.worker.work? = some (id, phase)) :
    ∃ marked, stage = .worked phase marked := by
  apply Stage.eq_worked
  rw [← stands]
  simp [view, Worker.workOn_of_work? works]

theorem advance_of_open {request : Request Snapshot Callback} {phase : CallPhase Output}
    {cell : Completion Output} (stands : scheduler.view id = stage.view)
    (fresh : request.id = scheduler.completions.length) (begun : cell.outcome = phase.outcome?)
    (opens : Stage.Advance .unborn (.called phase)) :
    ∃ later, view { scheduler with
        completions := scheduler.completions ++ [cell]
        calls := scheduler.calls ++ [⟨request, phase⟩] } id = later.view ∧
      (later = stage ∨ stage.Advance later) := by
  by_cases here : request.id = id
  · have unborn : stage.view.born = false := by
      rw [← stands]
      simp [view, ← here, fresh]
    cases Stage.eq_unborn unborn
    refine ⟨.called phase, ?_, .inr opens⟩
    simp only [view, Stage.view, View.mk.injEq] at stands ⊢
    rcases stands with ⟨_, _, calls, waiting, held, worker, marked, posted⟩
    simp [here, ← fresh, Completion.recorded_append, begun, calls, waiting, held, worker, marked,
      posted]
  · apply stays_of_view_eq stands
    have notLast : id ≠ scheduler.completions.length := by
      rw [← fresh]
      exact Ne.symm here
    have sameBirth : id < scheduler.completions.length + 1 ↔ id < scheduler.completions.length :=
      ⟨fun born => Nat.lt_of_le_of_ne (Nat.le_of_lt_succ born) notLast, Nat.lt_succ_of_lt⟩
    simp [view, here, notLast, Completion.recorded_append, sameBirth]

theorem advance_of_callEnd {request : Request Snapshot Callback} {phase : CallPhase Output}
    (outcome : Outcome Output) (stands : scheduler.view id = stage.view)
    (found : scheduler.call? target = some ⟨request, phase⟩)
    (ends : Stage.Advance (.called phase) (.ended (phase.outcome?.getD outcome) false)) :
    ∃ later, view { scheduler with
        completions := endAll outcome [target] scheduler.completions
        calls := scheduler.calls.filter fun call => call.request.id != target } id = later.view ∧
      (later = stage ∨ stage.Advance later) := by
  by_cases here : target = id
  · subst here
    have called := phase_mem_of_call? found
    rw [stands] at called
    cases Stage.eq_called called
    refine ⟨.ended (phase.outcome?.getD outcome) false, ?_, .inr ends⟩
    simp only [view, Stage.view, View.mk.injEq, decide_eq_true_eq] at stands ⊢
    rcases stands with ⟨born, recorded, calls, waiting, held, worker, marked, posted⟩
    simp [born, Completion.recorded_endAll_same, recorded, callPhases_filter_same, waiting, held,
      worker, marked, posted]
  · apply stays_of_view_eq stands
    simp [view, callPhases_filter_other _ here, Completion.recorded_endAll_other, Ne.symm here]

theorem advance_of_setPhase {request : Request Snapshot Callback} {phase later : CallPhase Output}
    (completions : List (Completion Output)) (stands : scheduler.view id = stage.view)
    (found : scheduler.call? target = some ⟨request, phase⟩)
    (length : completions.length = scheduler.completions.length)
    (others : id ≠ target →
      Completion.recorded completions id = Completion.recorded scheduler.completions id)
    (own : Completion.recorded completions target = later.outcome?)
    (moves : Stage.Advance (.called phase) (.called later)) :
    ∃ next : Stage Output, view { scheduler with
        completions
        calls := scheduler.calls.map fun call =>
          if call.request.id = target then { call with phase := later } else call } id = next.view ∧
      (next = stage ∨ stage.Advance next) := by
  by_cases here : target = id
  · subst here
    have called := phase_mem_of_call? found
    rw [stands] at called
    cases Stage.eq_called called
    refine ⟨.called later, ?_, .inr moves⟩
    simp only [view, Stage.view, View.mk.injEq, decide_eq_true_eq] at stands ⊢
    rcases stands with ⟨born, recorded, calls, waiting, held, worker, marked, posted⟩
    simp [born, length, own, callPhases_setPhase_same, calls, waiting, held, worker,
      marked, posted]
  · apply stays_of_view_eq stands
    simp [view, length, others (Ne.symm here), callPhases_setPhase_other _ _ here]

theorem advance_of_workEnd {phase : WorkPhase Output} (outcome : Outcome Output) (leaves : Bool)
    (stands : scheduler.view id = stage.view)
    (works : scheduler.worker.work? = some (target, phase)) (ends : phase.MayEnd outcome) :
    ∃ later, view { scheduler with
        completions := endAll outcome [target] scheduler.completions
        worker := .clearing leaves } id = later.view ∧ (later = stage ∨ stage.Advance later) := by
  have done : (Worker.clearing leaves : Worker Snapshot Callback Output).workOn id = none := rfl
  have left : (Worker.clearing leaves : Worker Snapshot Callback Output).held? = none := rfl
  by_cases here : target = id
  · subst here
    rcases stage_of_work? stands works with ⟨marked, rfl⟩
    refine ⟨.ended _ marked, ?_, .inr (.conclude marked ends)⟩
    simp only [view, Stage.view, View.mk.injEq, decide_eq_true_eq] at stands ⊢
    rcases stands with ⟨born, recorded, calls, waiting, held, worker, marked, posted⟩
    simp [born, Completion.recorded_endAll_same, recorded, calls, waiting, marked, posted, done,
      left]
  · apply stays_of_view_eq stands
    simp [view, Worker.workOn_of_work? works, here, Worker.held?_of_work? works, done, left,
      Completion.recorded_endAll_other, Ne.symm here]

theorem advance_of_workOn {phase later : WorkPhase Output}
    (worker : Worker Snapshot Callback Output) (stands : scheduler.view id = stage.view)
    (works : scheduler.worker.work? = some (target, phase))
    (goesOn : worker.work? = some (target, later))
    (pending : ∀ marked, later.outcome? marked = phase.outcome? marked)
    (moves : ∀ marked, Stage.Advance (.worked phase marked) (.worked later marked)) :
    ∃ next : Stage Output, view { scheduler with worker } id = next.view ∧
      (next = stage ∨ stage.Advance next) := by
  have notHeld := Worker.held?_of_work? works
  have stillNotHeld := Worker.held?_of_work? goesOn
  by_cases here : target = id
  · subst here
    rcases stage_of_work? stands works with ⟨marked, rfl⟩
    refine ⟨.worked later marked, ?_, .inr (moves marked)⟩
    simp only [view, Stage.view, View.mk.injEq, decide_eq_true_eq] at stands ⊢
    rcases stands with ⟨born, recorded, calls, waiting, held, worker, marked, posted⟩
    simp [born, recorded, calls, waiting, marked, posted, Worker.workOn_of_work? goesOn,
      stillNotHeld, pending]
  · apply stays_of_view_eq stands
    simp [view, Worker.workOn_of_work? works, Worker.workOn_of_work? goesOn, here, notHeld,
      stillNotHeld]

/-- A worker that rests before and after leaves every request where it is. -/
theorem view_of_rest (worker : Worker Snapshot Callback Output)
    (mailbox : LaneSlots (Job Snapshot Callback)) (rests : scheduler.worker.request? = none)
    (stillRests : worker.request? = none)
    (waiting : Job.requestIds mailbox.toList = Job.requestIds scheduler.mailbox.toList)
    (id : RequestId) : view { scheduler with worker, mailbox } id = scheduler.view id := by
  simp only [view, waiting, Worker.workOn, Worker.work?_of_rest rests, Worker.held?_of_rest rests,
    Worker.work?_of_rest stillRests, Worker.held?_of_rest stillRests]

theorem count_push {request : Request Snapshot Callback}
    {pushed : Pushed (Job Snapshot Callback)} {mailbox : LaneSlots (Job Snapshot Callback)}
    (proper : scheduler.mailbox.Proper)
    (pushes : scheduler.mailbox.push (.analyze request) = (pushed, mailbox)) (id : RequestId) :
    (Job.requestIds mailbox.toList).count id + (Job.requestIds pushed.displaced).count id =
      (Job.requestIds scheduler.mailbox.toList).count id + if request.id = id then 1 else 0 := by
  have perm := LaneSlots.push_perm (Job.analyze request) proper
  rw [pushes] at perm
  have ids := Job.requestIds_perm perm
  rw [Job.requestIds_append, Job.requestIds_analyze] at ids
  rw [← List.count_append, ids.count_eq, List.count_cons]
  simp

theorem advance_of_enqueue {request : Request Snapshot Callback}
    {pushed : Pushed (Job Snapshot Callback)} {mailbox : LaneSlots (Job Snapshot Callback)}
    {worker : Worker Snapshot Callback Output}
    (stands : scheduler.view id = stage.view) (proper : scheduler.mailbox.Proper)
    (found : scheduler.call? target = some ⟨request, .queueing⟩)
    (pushes : scheduler.mailbox.push (.analyze request.bound) = (pushed, mailbox))
    (held : worker.held? = scheduler.worker.held?) (works : worker.work? = scheduler.worker.work?) :
    ∃ later, view { scheduler with
        worker
        mailbox
        completions := endAll .displaced (Job.requestIds pushed.displaced) scheduler.completions
        calls := scheduler.calls.filter fun call => call.request.id != target } id = later.view ∧
      (later = stage ∨ stage.Advance later) := by
  have isTarget : request.id = target := request_id_of_call? found
  have counts := count_push proper pushes id
  have old : pushed.displaced.Sublist scheduler.mailbox.toList := by
    have sublist := LaneSlots.displaced_push_sublist (Job.analyze request.bound) proper
    rwa [pushes] at sublist
  have displacedLe := (Job.requestIds_sublist old).count_le id
  rw [Request.id_bound, isTarget] at counts
  have sameWork : worker.workOn id = scheduler.worker.workOn id := by
    rw [Worker.workOn, works, Worker.workOn]
  by_cases here : target = id
  · subst here
    have called := phase_mem_of_call? found
    rw [stands] at called
    cases Stage.eq_called called
    refine ⟨.waiting, ?_, .inr .send⟩
    simp only [view, Stage.view, View.mk.injEq, decide_eq_true_eq] at stands ⊢
    rcases stands with ⟨born, recorded, calls, waiting, notHeld, noWork, marked, posted⟩
    have undisplaced : target ∉ Job.requestIds pushed.displaced := by
      apply List.count_eq_zero.mp
      omega
    have sent : (Job.requestIds mailbox.toList).count target = 1 := by
      simp only [if_pos] at counts
      omega
    simp [born, Completion.recorded_endAll_other _ undisplaced, recorded, callPhases_filter_same,
      CallPhase.outcome?, sent, held, notHeld, sameWork, noWork, marked, posted]
  · rw [if_neg here] at counts
    by_cases gone : id ∈ Job.requestIds pushed.displaced
    · have displaced := List.count_pos_iff.mpr gone
      have waits : 0 < stage.view.waiting := by
        rw [← stands]
        simp only [view]
        omega
      cases Stage.eq_waiting waits
      refine ⟨.ended .displaced false, ?_, .inr .displace⟩
      simp only [view, Stage.view, View.mk.injEq, decide_eq_true_eq] at stands ⊢
      rcases stands with ⟨born, recorded, calls, waiting, notHeld, noWork, marked, posted⟩
      have left : (Job.requestIds mailbox.toList).count id = 0 := by omega
      simp [born, Completion.recorded_endAll, gone, recorded, callPhases_filter_other _ here,
        calls, left, held, notHeld, sameWork, noWork, marked, posted]
    · apply stays_of_view_eq stands
      have same : (Job.requestIds mailbox.toList).count id =
          (Job.requestIds scheduler.mailbox.toList).count id := by
        rw [List.count_eq_zero.mpr gone] at counts
        omega
      simp [view, Completion.recorded_endAll_other _ gone, callPhases_filter_other _ here, same,
        held, sameWork]

theorem advance_of_receive {request : Request Snapshot Callback}
    {mailbox : LaneSlots (Job Snapshot Callback)} (stands : scheduler.view id = stage.view)
    (receiving : scheduler.worker = .receiving)
    (pops : scheduler.mailbox.pop = (some (.analyze request), mailbox)) :
    ∃ later, view { scheduler with mailbox, worker := .holding request } id = later.view ∧
      (later = stage ∨ stage.Advance later) := by
  have ids := congrArg Job.requestIds (LaneSlots.toList_of_pop_some pops)
  rw [Job.requestIds_analyze] at ids
  have counts := congrArg (List.count id) ids
  rw [List.count_cons] at counts
  have idle : scheduler.worker.workOn id = none := by rw [receiving]; rfl
  have notHeld : scheduler.worker.held? = none := by rw [receiving]; rfl
  have stillIdle : (Worker.holding request : Worker Snapshot Callback Output).workOn id = none := rfl
  have nowHeld : (Worker.holding request : Worker Snapshot Callback Output).held? =
    some request.id := rfl
  by_cases here : request.id = id
  · have waits : 0 < stage.view.waiting := by
      rw [← stands]
      simp [view, counts, here]
    cases Stage.eq_waiting waits
    refine ⟨.held, ?_, .inr .take⟩
    simp only [view, Stage.view, View.mk.injEq, decide_eq_true_eq] at stands ⊢
    rcases stands with ⟨born, recorded, calls, waiting, _, _, marked, posted⟩
    have left : (Job.requestIds mailbox.toList).count id = 0 := by
      simp only [waiting, here, beq_self_eq_true, if_true] at counts
      omega
    simp [born, recorded, calls, left, here, nowHeld, stillIdle, marked, posted]
  · apply stays_of_view_eq stands
    simp [view, counts, here, idle, stillIdle, notHeld, nowHeld]

theorem advance_of_drain (stands : scheduler.view id = stage.view) {lifecycle : Lifecycle}
    {cancelled : Bool} {stats : Stats} {closing : Option Nat} :
    ∃ later, view { scheduler with
        lifecycle
        cancelled
        mailbox := ⟨some .terminate, none⟩
        completions :=
          endAll .aborted (Job.requestIds scheduler.mailbox.toList) scheduler.completions
        stats
        closing } id = later.view ∧ (later = stage ∨ stage.Advance later) := by
  have empty : Job.requestIds
      (⟨some .terminate, none⟩ : LaneSlots (Job Snapshot Callback)).toList = [] := rfl
  by_cases waits : id ∈ Job.requestIds scheduler.mailbox.toList
  · have waiting : 0 < stage.view.waiting := by
      rw [← stands]
      exact List.count_pos_iff.mpr waits
    cases Stage.eq_waiting waiting
    refine ⟨.ended .aborted false, ?_, .inr .drain⟩
    simp only [view, Stage.view, View.mk.injEq, decide_eq_true_eq] at stands ⊢
    rcases stands with ⟨born, recorded, calls, _, held, works, marked, posted⟩
    simp [born, Completion.recorded_endAll, waits, recorded, calls, empty, held, works, marked,
      posted]
  · apply stays_of_view_eq stands
    simp [view, Completion.recorded_endAll_other _ waits, empty, List.count_eq_zero.mpr waits]

theorem advance_of_skip {request : Request Snapshot Callback} {leaves : Bool}
    (stands : scheduler.view id = stage.view) (holding : scheduler.worker = .holding request) :
    ∃ later, view { scheduler with
        completions := endAll .aborted [request.id] scheduler.completions
        worker := .clearing leaves } id = later.view ∧ (later = stage ∨ stage.Advance later) := by
  have done : (Worker.clearing leaves : Worker Snapshot Callback Output).workOn id = none := rfl
  have left : (Worker.clearing leaves : Worker Snapshot Callback Output).held? = none := rfl
  have idle : scheduler.worker.workOn id = none := by rw [holding]; rfl
  have isHeld : scheduler.worker.held? = some request.id := by rw [holding]; rfl
  by_cases here : request.id = id
  · have held : stage.view.held = true := by
      rw [← stands]
      simp [view, isHeld, here]
    cases Stage.eq_held held
    refine ⟨.ended .aborted false, ?_, .inr .skip⟩
    simp only [view, Stage.view, View.mk.injEq, decide_eq_true_eq] at stands ⊢
    rcases stands with ⟨born, recorded, calls, waiting, _, _, marked, posted⟩
    simp [born, here, Completion.recorded_endAll_same, recorded, calls, waiting, done, left, marked,
      posted]
  · apply stays_of_view_eq stands
    have other : id ∉ [request.id] := by simp [Ne.symm here]
    simp [view, Completion.recorded_endAll_other _ other, done, left, idle, isHeld, here]

theorem advance_of_begin {request : Request Snapshot Callback}
    (stands : scheduler.view id = stage.view) (holding : scheduler.worker = .holding request)
    (unmarked : scheduler.inFlight = none) :
    ∃ later, view { scheduler with
        inFlight := some request.id
        worker := .executing request } id = later.view ∧
      (later = stage ∨ stage.Advance later) := by
  have idle : scheduler.worker.workOn id = none := by rw [holding]; rfl
  have isHeld : scheduler.worker.held? = some request.id := by rw [holding]; rfl
  have works : (Worker.executing request : Worker Snapshot Callback Output).work? =
    some (request.id, .executing) := rfl
  have left := Worker.held?_of_work? works
  by_cases here : request.id = id
  · have held : stage.view.held = true := by
      rw [← stands]
      simp [view, isHeld, here]
    cases Stage.eq_held held
    refine ⟨.worked .executing true, ?_, .inr .begin⟩
    simp only [view, Stage.view, View.mk.injEq, decide_eq_true_eq] at stands ⊢
    rcases stands with ⟨born, recorded, calls, waiting, _, _, _, posted⟩
    simp [born, here, recorded, calls, waiting, Worker.workOn_of_work? works, left, posted,
      WorkPhase.outcome?]
  · apply stays_of_view_eq stands
    simp [view, Worker.workOn_of_work? works, left, idle, isHeld, here, unmarked]

theorem advance_of_clear {leaves : Bool} (worker : Worker Snapshot Callback Output)
    (stands : scheduler.view id = stage.view) (clearing : scheduler.worker = .clearing leaves)
    (held : worker.held? = none) (rests : worker.work? = none) :
    ∃ later, view { scheduler with inFlight := none, worker } id = later.view ∧
      (later = stage ∨ stage.Advance later) := by
  have idle : scheduler.worker.workOn id = none := by rw [clearing]; rfl
  have notHeld : scheduler.worker.held? = none := by rw [clearing]; rfl
  have stillIdle := Worker.workOn_of_work?_none rests id
  by_cases here : scheduler.inFlight = some id
  · have marked : stage.view.marked = true := by
      rw [← stands]
      simp [view, here]
    have unworked : stage.view.worker = none := by
      rw [← stands]
      exact idle
    rcases Stage.eq_left marked unworked with ⟨analysis, rfl⟩ | ⟨outcome, rfl⟩
    · refine ⟨.posted analysis false, ?_, .inr (.unmarkPosted analysis)⟩
      simp only [view, Stage.view, View.mk.injEq, decide_eq_true_eq] at stands ⊢
      rcases stands with ⟨born, recorded, calls, waiting, _, _, _, posted⟩
      simp [born, recorded, calls, waiting, held, stillIdle, posted]
    · refine ⟨.ended outcome false, ?_, .inr (.unmarkEnded outcome)⟩
      simp only [view, Stage.view, View.mk.injEq, decide_eq_true_eq] at stands ⊢
      rcases stands with ⟨born, recorded, calls, waiting, _, _, _, posted⟩
      simp [born, recorded, calls, waiting, held, stillIdle, posted]
  · apply stays_of_view_eq stands
    simp [view, here, idle, notHeld, held, stillIdle]

theorem advance_of_giveUp (stands : scheduler.view id = stage.view)
    (published : scheduler.inFlight = some target) :
    ∃ later, view { scheduler with
        inFlight := none
        completions := endAll .aborted [target] scheduler.completions } id = later.view ∧
      (later = stage ∨ stage.Advance later) := by
  by_cases here : target = id
  · have marked : stage.view.marked = true := by
      rw [← stands]
      simp [view, published, here]
    rcases Stage.exists_unmarked marked with ⟨later, advance, unmarked⟩
    refine ⟨later, ?_, .inr advance⟩
    have born : id < scheduler.completions.length := by
      have known := Stage.born_of_marked marked
      rw [← stands] at known
      simpa [view] using known
    rw [unmarked, ← stands, here]
    simp [view, Completion.recorded_endAll_same, born]
  · apply stays_of_view_eq stands
    have other : id ∉ [target] := by simp [Ne.symm here]
    simp [view, Completion.recorded_endAll_other _ other, published, here]

theorem advance_of_complete {request : Request Snapshot Callback} {analysis : Analysis Output}
    (stands : scheduler.view id = stage.view)
    (delivering : scheduler.worker = .delivering request analysis)
    (pending : scheduler.outcome? request.id = none) :
    ∃ later, view { scheduler with
        completions := endAll (.completed analysis) [request.id] scheduler.completions
        worker := .posting request analysis } id = later.view ∧
      (later = stage ∨ stage.Advance later) := by
  have works : scheduler.worker.work? = some (request.id, .delivering analysis) := by
    rw [delivering]; rfl
  have goesOn : (Worker.posting request analysis).work? =
    some (request.id, .posting analysis) := rfl
  have notHeld := Worker.held?_of_work? works
  have stillNotHeld := Worker.held?_of_work? goesOn
  by_cases here : request.id = id
  · rw [here] at works goesOn pending
    rcases stage_of_work? stands works with ⟨marked, rfl⟩
    simp only [view, Stage.view, View.mk.injEq, decide_eq_true_eq] at stands
    rcases stands with ⟨born, recorded, calls, waiting, held, worker, mark, posted⟩
    rw [outcome?_eq_recorded, recorded] at pending
    cases marked with
    | false => cases pending
    | true =>
      refine ⟨.worked (.posting analysis) true, ?_, .inr (.complete analysis)⟩
      simp [view, Stage.view, born, here, Completion.recorded_endAll_same, recorded, calls, waiting,
        Worker.workOn_of_work? goesOn, stillNotHeld, mark, posted, WorkPhase.outcome?]
  · apply stays_of_view_eq stands
    have other : id ∉ [request.id] := by simp [Ne.symm here]
    simp [view, Completion.recorded_endAll_other _ other, Worker.workOn_of_work? works,
      Worker.workOn_of_work? goesOn, here, notHeld, stillNotHeld]

theorem advance_of_post {request : Request Snapshot Callback} {analysis : Analysis Output}
    (stands : scheduler.view id = stage.view) (staged : scheduler.Staged)
    (posting : scheduler.worker = .posting request analysis) (accepted : Bool) :
    ∃ later, view { scheduler with
        ui := if accepted then scheduler.ui.post ⟨request, analysis⟩ else scheduler.ui
        worker := .clearing false } id = later.view ∧ (later = stage ∨ stage.Advance later) := by
  have works : scheduler.worker.work? = some (request.id, .posting analysis) := by
    rw [posting]; rfl
  by_cases joins : accepted = true ∧ scheduler.ui.hasPump = true
  · rcases joins with ⟨rfl, pump⟩
    have done : (Worker.clearing false : Worker Snapshot Callback Output).workOn id = none := rfl
    have left : (Worker.clearing false : Worker Snapshot Callback Output).held? = none := rfl
    have notHeld := Worker.held?_of_work? works
    by_cases here : request.id = id
    · rw [here] at works
      rcases stage_of_work? stands works with ⟨marked, rfl⟩
      refine ⟨.posted analysis marked, ?_, .inr (.post analysis marked)⟩
      simp only [view, Stage.view, View.mk.injEq, decide_eq_true_eq] at stands ⊢
      rcases stands with ⟨born, recorded, calls, waiting, _, _, marked, posted⟩
      simp [born, recorded, calls, waiting, done, left, marked, posted, UiQueue.post, pump, here,
        WorkPhase.outcome?]
    · apply stays_of_view_eq stands
      simp [view, Worker.workOn_of_work? works, done, left, notHeld, UiQueue.post, pump, here]
  · have unposted : (if accepted then scheduler.ui.post ⟨request, analysis⟩ else scheduler.ui) =
        scheduler.ui := by
      cases accepted <;> simp_all [UiQueue.post]
    have settled : (Completion.recorded scheduler.completions request.id).isSome := by
      rcases staged request.id with ⟨own, ownStands⟩
      rcases stage_of_work? ownStands works with ⟨marked, rfl⟩
      have recorded := congrArg View.outcome ownStands
      change Completion.recorded scheduler.completions request.id = _ at recorded
      rw [recorded]
      rfl
    have same : endAll (.completed analysis) [request.id] scheduler.completions =
        scheduler.completions := Completion.modify_finish_of_recorded _ settled
    have ends := advance_of_workEnd (.completed analysis) false stands works rfl
    rw [same] at ends
    rw [unposted]
    exact ends

theorem advance_of_pump {answered : Answered Snapshot Callback Output}
    {rest : List (Answered Snapshot Callback Output)} (stands : scheduler.view id = stage.view)
    (jobs : scheduler.ui.jobs = answered :: rest) :
    ∃ later, view { scheduler with ui := { scheduler.ui with jobs := rest } } id = later.view ∧
      (later = stage ∨ stage.Advance later) := by
  have jobsOf := postedFor_cons id answered rest
  rw [← jobs] at jobsOf
  by_cases here : answered.request.id = id
  · have member : answered.analysis ∈ stage.view.posted := by
      rw [← stands]
      simp [view, jobsOf, here]
    rcases Stage.eq_posted member with ⟨marked, rfl⟩
    refine ⟨.ended (.completed answered.analysis) marked, ?_, .inr (.pump _ marked)⟩
    simp only [view, Stage.view, View.mk.injEq, decide_eq_true_eq] at stands ⊢
    rcases stands with ⟨born, recorded, calls, waiting, held, works, marked, posted⟩
    rw [jobsOf, if_pos here] at posted
    simp only [List.cons.injEq, true_and] at posted
    simp [born, recorded, calls, waiting, held, works, marked, posted]
  · apply stays_of_view_eq stands
    simp [view, jobsOf, here]

theorem advance_of_dropPump (stands : scheduler.view id = stage.view) :
    ∃ later, view { scheduler with ui := scheduler.ui.dropPump } id = later.view ∧
      (later = stage ∨ stage.Advance later) := by
  cases posted : postedFor id scheduler.ui.jobs with
  | nil =>
    apply stays_of_view_eq stands
    simp [view, UiQueue.dropPump, posted]
    rfl
  | cons analysis rest =>
    have member : analysis ∈ stage.view.posted := by
      rw [← stands]
      simp [view, posted]
    rcases Stage.eq_posted member with ⟨marked, rfl⟩
    refine ⟨.ended (.completed analysis) marked, ?_, .inr (.pump _ marked)⟩
    simp only [view, Stage.view, View.mk.injEq, decide_eq_true_eq] at stands ⊢
    rcases stands with ⟨born, recorded, calls, waiting, held, works, marked, _⟩
    exact ⟨by simp [born], recorded, calls, waiting, held, works, marked, rfl⟩

end Moves

theorem Staged.born_of_call? {id : RequestId} {call : Call Snapshot Callback Output}
    (staged : scheduler.Staged) (found : scheduler.call? id = some call) :
    id < scheduler.completions.length := by
  rcases staged id with ⟨stage, stands⟩
  have called := phase_mem_of_call? found
  rw [stands] at called
  cases Stage.eq_called called
  have born := congrArg View.born stands
  simpa [view, Stage.view] using born

theorem Staged.recorded_of_call? {id : RequestId} {call : Call Snapshot Callback Output}
    (staged : scheduler.Staged) (found : scheduler.call? id = some call) :
    Completion.recorded scheduler.completions id = call.phase.outcome? := by
  rcases staged id with ⟨stage, stands⟩
  have called := phase_mem_of_call? found
  rw [stands] at called
  cases Stage.eq_called called
  exact congrArg View.outcome stands

/-- Whatever happens, a request stays at its stage or moves on along one edge. -/
theorem Staged.advance (staged : scheduler.Staged) (orderly : scheduler.Orderly)
    (published : scheduler.Published) (rule : scheduler.Rule event next) {id : RequestId}
    {stage : Stage Output} (stands : scheduler.view id = stage.view) :
    ∃ later, next.view id = later.view ∧ (later = stage ∨ stage.Advance later) := by
  cases rule with
  | started idle =>
    rcases orderly.unstarted idle with ⟨never, _⟩
    have rests : scheduler.worker.request? = none := by rw [never]; rfl
    exact stays_of_view_eq stands (view_of_rest .looping scheduler.mailbox rests rfl rfl id)
  | openedRecent submits open_ path =>
    exact advance_of_open stands rfl (Completion.outcome_finish _ _) (.openRecent _)
  | openedInline submits open_ path => exact advance_of_open stands rfl rfl .openInline
  | openedQueued submits open_ path => exact advance_of_open stands rfl rfl .openQueued
  | turnedAway found failed => exact advance_of_callEnd _ stands found .turnAway
  | enqueued found open_ pushes =>
    by_cases idle : scheduler.lifecycle = .idle
    · rcases orderly.unstarted idle with ⟨never, _⟩
      simp only [if_pos idle]
      exact advance_of_enqueue stands orderly.proper found pushes (by rw [never]; rfl)
        (by rw [never]; rfl)
    · simp only [if_neg idle]
      exact advance_of_enqueue stands orderly.proper found pushes rfl rfl
  | answeredCall found ready =>
    have pending := staged.recorded_of_call? found
    exact advance_of_setPhase _ stands found rfl (fun _ => rfl) pending (.answerCall _)
  | failedCall found failed => exact advance_of_callEnd _ stands found .failCall
  | cancelledCall found cancelled => exact advance_of_callEnd _ stands found .cancelCall
  | faultedCall found fault => exact advance_of_callEnd _ stands found (.faultCall _)
  | lostCall found records lost =>
    rw [outcome?_eq_recorded, staged.recorded_of_call? found] at lost
    cases lost
  | @deliveredCall target _ _ request analysis _ found records pending =>
    have born := staged.born_of_call? found
    have own : Completion.recorded (endAll (.completed analysis) [target] scheduler.completions)
        target = (CallPhase.callingBack analysis).outcome? := by
      rw [Completion.recorded_endAll_same _ born, ← outcome?_eq_recorded, pending]
      rfl
    have others (other : id ≠ target) :
        Completion.recorded (endAll (.completed analysis) [target] scheduler.completions) id =
          Completion.recorded scheduler.completions id :=
      Completion.recorded_endAll_other _ (by simpa using other)
    have moves := advance_of_setPhase _ stands found (Completion.length_endAll _ _ _) others own
      (.deliverCall analysis)
    exact moves
  | @returnedCall target request analysis found =>
    have recorded := staged.recorded_of_call? found
    have same : endAll (.completed analysis) [target] scheduler.completions =
        scheduler.completions :=
      Completion.modify_finish_of_recorded _ (by rw [recorded]; rfl)
    have ends := advance_of_callEnd (.completed analysis) stands found (.returnCall analysis)
    rw [same] at ends
    exact ends
  | polled looping =>
    have rests : scheduler.worker.request? = none := by rw [looping]; rfl
    cases cancelled : scheduler.cancelled
    · have same := view_of_rest .receiving scheduler.mailbox rests rfl rfl id
      exact stays_of_view_eq stands same
    · have same := view_of_rest .exited scheduler.mailbox rests rfl rfl id
      exact stays_of_view_eq stands same
  | receivedNone receiving pops =>
    have rests : scheduler.worker.request? = none := by rw [receiving]; rfl
    rw [LaneSlots.toList_of_pop_none pops]
    exact stays_of_view_eq stands (view_of_rest .looping scheduler.mailbox rests rfl rfl id)
  | @receivedTerminate mailbox receiving pops =>
    have rests : scheduler.worker.request? = none := by rw [receiving]; rfl
    have ids := congrArg Job.requestIds (LaneSlots.toList_of_pop_some pops)
    exact stays_of_view_eq stands (view_of_rest .exited mailbox rests rfl ids.symm id)
  | receivedRequest receiving pops => exact advance_of_receive stands receiving pops
  | skipped holding cancelled => exact advance_of_skip stands holding
  | began holding uncancelled =>
    have unmarked := published.unmarked (by rw [holding]; rfl) (by simp [holding])
    exact advance_of_begin stands holding unmarked
  | @answered _ request analysis executing ready =>
    have works : scheduler.worker.work? = some (request.id, .executing) := by rw [executing]; rfl
    exact advance_of_workOn (.recording request analysis) stands works rfl (fun _ => rfl)
      (.answer analysis)
  | @failed _ request executing failed =>
    have works : scheduler.worker.work? = some (request.id, .executing) := by rw [executing]; rfl
    exact advance_of_workEnd _ _ stands works (.inl rfl)
  | @gaveUp _ request executing cancelled =>
    have works : scheduler.worker.work? = some (request.id, .executing) := by rw [executing]; rfl
    exact advance_of_workEnd _ _ stands works (.inr rfl)
  | @recordFaulted _ _ request analysis _ recording fault =>
    have works : scheduler.worker.work? = some (request.id, .recording analysis) := by
      rw [recording]; rfl
    exact advance_of_workEnd _ _ stands works rfl
  | @recorded _ _ request analysis _ recording records =>
    have works : scheduler.worker.work? = some (request.id, .recording analysis) := by
      rw [recording]; rfl
    exact advance_of_workOn (.delivering request analysis) stands works rfl (fun _ => rfl)
      (.record analysis)
  | @superseded request analysis delivering outdone =>
    have works : scheduler.worker.work? = some (request.id, .delivering analysis) := by
      rw [delivering]; rfl
    exact advance_of_workEnd _ _ stands works rfl
  | @lost request analysis delivering wanted lost =>
    have works : scheduler.worker.work? = some (request.id, .delivering analysis) := by
      rw [delivering]; rfl
    have same : endAll .superseded [request.id] scheduler.completions = scheduler.completions :=
      Completion.modify_finish_of_recorded _ lost
    have ends := advance_of_workEnd .superseded false stands works rfl
    rw [same] at ends
    exact ends
  | completed delivering wanted pending => exact advance_of_complete stands delivering pending
  | posted posting => exact advance_of_post stands staged posting true
  | dropped posting => exact advance_of_post stands staged posting false
  | @cleared leaves clearing =>
    cases leaves <;> exact advance_of_clear _ stands clearing rfl rfl
  | stopping running aborts => exact advance_of_drain stands
  | gaveUpRequest closing present marked => exact advance_of_giveUp stands marked
  | pumped jobs => exact advance_of_pump stands jobs
  | droppedPump => exact advance_of_dropPump stands
  | _ => exact stays_of_view_eq stands rfl

/-- What holds of every scheduler that a run leads to. -/
structure Sound (scheduler : Scheduler Snapshot Callback Output) : Prop where
  orderly : scheduler.Orderly
  published : scheduler.Published
  staged : scheduler.Staged
  consistent : ∀ cell ∈ scheduler.completions, cell.Consistent

theorem sound_new (config : Config) (sufficient : Reason → Bool) :
    (new config sufficient : Scheduler Snapshot Callback Output).Sound where
  orderly := orderly_new config sufficient
  published := published_new config sufficient
  staged := staged_new config sufficient
  consistent cell member := by cases member

theorem consistent_of_rule (consistent : ∀ cell ∈ scheduler.completions, cell.Consistent)
    (rule : scheduler.Rule event next) : ∀ cell ∈ next.completions, cell.Consistent := by
  have appended {cell : Completion Output} (last : cell.Consistent) :
      ∀ known ∈ scheduler.completions ++ [cell], known.Consistent := by
    intro known member
    rcases List.mem_append.mp member with old | new
    · exact consistent known old
    · rw [List.mem_singleton.mp new]
      exact last
  cases rule with
  | openedRecent =>
    exact appended (Completion.consistent_finish _ Completion.consistent_pending)
  | openedInline => exact appended Completion.consistent_pending
  | openedQueued => exact appended Completion.consistent_pending
  | turnedAway | enqueued | failedCall | cancelledCall | faultedCall | deliveredCall | skipped
  | failed | gaveUp | recordFaulted | superseded | completed | stopping | gaveUpRequest =>
    exact Completion.consistent_endAll consistent
  | _ => exact consistent

theorem Sound.of_rule (sound : scheduler.Sound) (rule : scheduler.Rule event next) :
    next.Sound where
  orderly := sound.orderly.of_rule rule
  published := sound.published.of_rule sound.orderly rule
  staged id := by
    rcases sound.staged id with ⟨stage, stands⟩
    rcases sound.staged.advance sound.orderly sound.published rule stands with ⟨later, stands, _⟩
    exact ⟨later, stands⟩
  consistent := consistent_of_rule sound.consistent rule

theorem Sound.run {events : List (Event Snapshot Callback Output)} (sound : scheduler.Sound)
    (run : scheduler.run events = some next) : next.Sound :=
  run_preserves (fun _ _ _ sound rule => sound.of_rule rule) sound run

theorem sound_of_reachable (reachable : scheduler.Reachable) : scheduler.Sound := by
  rcases reachable with ⟨config, sufficient, events, run⟩
  exact (sound_new config sufficient).run run

theorem Sound.moves {id : RequestId} (sound : scheduler.Sound)
    (step : scheduler.step event = some next) :
    ∃ stage later : Stage Output, scheduler.view id = stage.view ∧ next.view id = later.view ∧
      (later = stage ∨ stage.Advance later) := by
  rcases sound.staged id with ⟨stage, stands⟩
  rcases sound.staged.advance sound.orderly sound.published (rule_of_step step) stands
    with ⟨later, laterStands, moves⟩
  exact ⟨stage, later, stands, laterStands, moves⟩

/-- What every edge keeps, a step keeps. -/
theorem Sound.stage_of_rule {holds : Stage Output → Prop} {id : RequestId} {stage : Stage Output}
    (sound : scheduler.Sound) (rule : scheduler.Rule event next)
    (keeps : ∀ {stage later : Stage Output}, stage.Advance later → holds stage → holds later)
    (stands : scheduler.view id = stage.view) (start : holds stage) :
    ∃ later : Stage Output, next.view id = later.view ∧ holds later := by
  rcases sound.staged.advance sound.orderly sound.published rule stands
    with ⟨later, laterStands, rfl | advance⟩
  · exact ⟨later, laterStands, start⟩
  · exact ⟨later, laterStands, keeps advance start⟩

/-- What every edge keeps, a run keeps. -/
theorem Sound.stage_run {events : List (Event Snapshot Callback Output)}
    {holds : Stage Output → Prop} {id : RequestId} {stage : Stage Output}
    (sound : scheduler.Sound) (run : scheduler.run events = some next)
    (keeps : ∀ {stage later : Stage Output}, stage.Advance later → holds stage → holds later)
    (stands : scheduler.view id = stage.view) (start : holds stage) :
    ∃ later : Stage Output, next.view id = later.view ∧ holds later := by
  have both := run_preserves
    (motive := fun state => state.Sound ∧ ∃ stage : Stage Output, state.view id = stage.view ∧
      holds stage)
    (fun _ _ _ known rule => ⟨known.1.of_rule rule, by
      rcases known.2 with ⟨stage, stands, start⟩
      exact known.1.stage_of_rule rule keeps stands start⟩)
    ⟨sound, stage, stands, start⟩ run
  exact both.2

theorem Sound.view_of_waiting {request : Request Snapshot Callback} (sound : scheduler.Sound)
    (waits : request ∈ scheduler.waiting) :
    scheduler.view request.id = (Stage.waiting : Stage Output).view := by
  rcases sound.staged request.id with ⟨stage, stands⟩
  have counted : 0 < stage.view.waiting := by
    rw [← stands]
    exact List.count_pos_iff.mpr (List.mem_map_of_mem waits)
  rw [stands, Stage.eq_waiting counted]

theorem Sound.nodup_waiting (sound : scheduler.Sound) :
    (scheduler.waiting.map fun request => request.id).Nodup := by
  rw [List.nodup_iff_count]
  intro id
  have counted := congrArg View.waiting (sound.staged id).choose_spec
  change (scheduler.waiting.map fun request => request.id).count id = _ at counted
  rw [counted]
  cases (sound.staged id).choose <;> simp [Stage.view]

/-- A request that waits has no outcome. -/
theorem Sound.outcome?_of_waiting {request : Request Snapshot Callback} (sound : scheduler.Sound)
    (waits : request ∈ scheduler.waiting) : scheduler.outcome? request.id = none :=
  congrArg View.outcome (sound.view_of_waiting waits)

theorem Sound.born_of_waiting {request : Request Snapshot Callback} (sound : scheduler.Sound)
    (waits : request ∈ scheduler.waiting) : request.id < scheduler.completions.length :=
  of_decide_eq_true (congrArg View.born (sound.view_of_waiting waits))

theorem Sound.born_of_worker {request : Request Snapshot Callback} (sound : scheduler.Sound)
    (concerned : scheduler.worker.request? = some request) :
    request.id < scheduler.completions.length := by
  have there : (scheduler.view request.id).held = true ∨
      (scheduler.view request.id).worker.isSome := by
    cases works : scheduler.worker <;>
      simp_all [view, Worker.request?, Worker.held?, Worker.workOn, Worker.work?]
  rcases sound.staged request.id with ⟨stage, stands⟩
  have born : stage.view.born = true := by
    rw [stands] at there
    cases stage <;> simp_all [Stage.view]
  rw [← stands] at born
  exact of_decide_eq_true born

theorem Sound.born_of_inFlight {id : RequestId} (sound : scheduler.Sound)
    (published : scheduler.inFlight = some id) :
    id < scheduler.completions.length := by
  rcases sound.staged id with ⟨stage, stands⟩
  have marked : stage.view.marked = true := by
    rw [← stands]
    exact decide_eq_true published
  have born := Stage.born_of_marked marked
  rw [← stands] at born
  exact of_decide_eq_true born

/-- As long as a shutdown may come or waits, the request the worker is concerned with is marked. -/
theorem Sound.marked {id : RequestId} {phase : WorkPhase Output} (sound : scheduler.Sound)
    (works : scheduler.worker.work? = some (id, phase))
    (attended : scheduler.lifecycle = .stopped → scheduler.closing ≠ none) :
    scheduler.view id = (Stage.worked phase true).view := by
  rcases sound.staged id with ⟨stage, stands⟩
  rcases stage_of_work? stands works with ⟨marked, rfl⟩
  rcases sound.published.marked id phase works with published | ⟨stopped, unattended⟩
  · have mark := congrArg View.marked stands
    change decide (scheduler.inFlight = some id) = marked at mark
    rw [published, decide_eq_true rfl] at mark
    rw [stands, mark]
  · exact absurd unattended (attended stopped)

/-- A request that the worker has not completed has no outcome before a shutdown. -/
theorem Sound.pending_of_work {id : RequestId} {phase : WorkPhase Output}
    (sound : scheduler.Sound) (running : scheduler.lifecycle = .running)
    (works : scheduler.worker.work? = some (id, phase)) (unfinished : phase.outcome? true = none) :
    scheduler.outcome? id = none := by
  have recorded := congrArg View.outcome (sound.marked works (by simp [running]))
  rw [Stage.outcome_view] at recorded
  exact recorded.trans unfinished

/-- A recorded outcome stays. -/
theorem Sound.outcome?_of_rule {id : RequestId} {outcome : Outcome Output} (sound : scheduler.Sound)
    (rule : scheduler.Rule event next) (settled : scheduler.outcome? id = some outcome) :
    next.outcome? id = some outcome := by
  rcases sound.staged id with ⟨stage, stands⟩
  rcases sound.staged.advance sound.orderly sound.published rule stands
    with ⟨later, laterStands, moves⟩
  have before : stage.outcome? = some outcome := by
    rw [← Stage.outcome_view, ← stands]
    exact settled
  have after : later.outcome? = some outcome := by
    rcases moves with rfl | advance
    · exact before
    · exact advance.outcome?_eq before
  rw [← Stage.outcome_view, ← laterStands] at after
  exact after

theorem Sound.outcome?_run {events : List (Event Snapshot Callback Output)} {id : RequestId}
    {outcome : Outcome Output} (sound : scheduler.Sound) (run : scheduler.run events = some next)
    (settled : scheduler.outcome? id = some outcome) : next.outcome? id = some outcome := by
  have both := run_preserves
    (motive := fun state => state.Sound ∧ state.outcome? id = some outcome)
    (fun _ _ _ holds rule => ⟨holds.1.of_rule rule, holds.1.outcome?_of_rule rule holds.2⟩)
    ⟨sound, settled⟩ run
  exact both.2

end Scheduler

end EditorAnalysis
