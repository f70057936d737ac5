import EditorAnalysis.Proofs.Scheduler.Callback
import EditorAnalysis.Proofs.Scheduler.Pipeline

/-!
# Failures that cost one request only

The worker calls three collaborators for a request: the analyzer, the version source and the
dispatcher. Whichever of them fails, the worker clears its marks and goes on, and nobody but the
request at hand sees anything of it.

`Scheduler.Iteration` follows the worker from the moment it holds a request. It keeps apart what the
worker did and what the other threads did in between, since those are free to do anything but to
shut the scheduler down.
-/

namespace EditorAnalysis

variable {Snapshot Callback Output : Type}

/-- What the queue is after requests have entered it one after the other. -/
def refill (slots : LaneSlots (Job Snapshot Callback)) (sent : List (Request Snapshot Callback)) :
    LaneSlots (Job Snapshot Callback) :=
  sent.foldl (fun slots request => (slots.push (.analyze request)).2) slots

namespace Transition

variable (transition : Transition Snapshot Callback Output)

/-- The outcome that the worker's request is left with by a collaborator that fails: by an analyzer
that raises an exception, reports an error or gives up, by a version source that raises an exception
when it is asked, or by a dispatcher that raises one. -/
def mishap? : Option (Outcome Output) :=
  match transition.event, transition.before.worker with
  | .workerAnswer execution, .executing _ =>
      match execution.verdict with
      | .ready _ => none
      | .failed => some .abandoned
      | .cancelled => some .aborted
  | .workerRecord (.error _) _, .recording request analysis =>
      if request.reason.updatesRecentResult && !analysis.aborted then some .abandoned else none
  | .workerPost false, .posting _ analysis => some (.completed analysis)
  | _, _ => none

/-- What is remembered of earlier requests stays as it is. -/
structure Keeps : Prop where
  cache : transition.after.cache = transition.before.cache
  lastCompletion : transition.after.lastCompletionMs = transition.before.lastCompletionMs

/-- The outcomes of all requests but one stay as they are. -/
def Spares (id : RequestId) : Prop :=
  ∀ other ≠ id, transition.after.outcome? other = transition.before.outcome? other

end Transition

namespace Scheduler

variable {scheduler before after held middle final : Scheduler Snapshot Callback Output}
  {event : Event Snapshot Callback Output} {events : List (Event Snapshot Callback Output)}
  {past : List (Transition Snapshot Callback Output)} {request : Request Snapshot Callback}

section Steps

theorem mishap?_of_not_worker (notWorker : event.isWorker = false) :
    (Transition.mk before event after).mishap? = none := by
  cases event <;> first | rfl | cases notWorker

/-- The worker changes no outcome but that of the request it is concerned with. -/
theorem spares_of_worker (rule : before.Rule event after) (works : event.isWorker = true)
    (concerned : ∀ other, before.worker.request? = some other → other.id = request.id) :
    (Transition.mk before event after).Spares request.id := by
  intro id another
  have ended {own : Request Snapshot Callback} {outcome : Outcome Output}
      (at_ : before.worker.request? = some own)
      (completions : after.completions =
        Completion.endAll outcome [own.id] before.completions) :
      after.outcome? id = before.outcome? id := by
    rw [outcome?_endAll completions, if_neg]
    rintro ⟨same, _⟩
    rw [concerned own at_, List.mem_singleton] at same
    exact another same
  cases rule with
  | refused submits | faulted submits | openedRecent submits | openedInline submits
  | openedQueued submits => simp [submits.isWorker_eq_false] at works
  | skipped at_ | failed at_ | gaveUp at_ | recordFaulted at_ | superseded at_ | completed at_ =>
    exact ended (by rw [at_]; rfl) rfl
  | turnedAway | enqueued | failedCall | cancelledCall | faultedCall | deliveredCall | stopping
  | gaveUpRequest => cases works
  | _ => rfl

/-- The version source fails only where it is asked. -/
theorem asked_of_fault {analysis : Analysis Output} {reading : Attempt Version} {now : Instant}
    {payload : Payload}
    (fault : scheduler.recordResult request analysis reading now = .error payload) :
    (request.reason.updatesRecentResult && !analysis.aborted) = true := by
  apply Decidable.byContradiction
  intro unasked
  simp [recordResult, unasked] at fault

theorem mishap?_of_fault {analysis : Analysis Output} {reading : Attempt Version} {now : Instant}
    {payload : Payload} (recording : before.worker = .recording request analysis)
    (fault : before.recordResult request analysis reading now = .error payload) :
    (Transition.mk before (.workerRecord reading now) after).mishap? = some .abandoned := by
  have asked := asked_of_fault fault
  cases recordResult_eq_error fault
  simp [Transition.mishap?, recording, asked]

theorem mishap?_of_records {analysis : Analysis Output} {reading : Attempt Version}
    {now : Instant} {recorded : Scheduler Snapshot Callback Output}
    (recording : before.worker = .recording request analysis)
    (records : before.recordResult request analysis reading now = .ok recorded) :
    (Transition.mk before (.workerRecord reading now) after).mishap? = none := by
  cases reading with
  | ok version => rfl
  | error payload =>
    have unasked : (request.reason.updatesRecentResult && !analysis.aborted) = false := by
      apply Bool.eq_false_iff.mpr
      intro asked
      simp [recordResult, asked] at records
    simp [Transition.mishap?, recording, unasked]

end Steps

section Iterations

/-- How far the worker is with a request that it took out of the queue, and what its steps did. -/
inductive Processing (request : Request Snapshot Callback)
    (past : List (Transition Snapshot Callback Output))
    (scheduler : Scheduler Snapshot Callback Output) : Prop where
  | early (worker : scheduler.worker = .holding request ∨ scheduler.worker = .executing request ∨
        ∃ analysis, scheduler.worker = .recording request analysis)
      (well : ∀ transition ∈ past, transition.mishap? = none)
      (keeps : ∀ transition ∈ past, transition.event.isWorker = true → transition.Keeps)
  | late {analysis : Analysis Output} (worker : scheduler.worker = .delivering request analysis ∨
        scheduler.worker = .posting request analysis)
      (well : ∀ transition ∈ past, transition.mishap? = none)
  | through (clearing : scheduler.worker = .clearing false)
      (well : ∀ transition ∈ past, transition.mishap? = none)
  | spoilt {outcome : Outcome Output} (clearing : scheduler.worker = .clearing false)
      (costs : ∀ transition ∈ past, ∀ other, transition.mishap? = some other → other = outcome)
      (ended : scheduler.outcome? request.id = some outcome)
      (keeps : outcome.analysis? = none → ∀ transition ∈ past, transition.event.isWorker = true →
        transition.Keeps)

theorem Processing.concerned {other : Request Snapshot Callback}
    (known : Processing request past scheduler) (concerned : scheduler.worker.request? = some other) :
    other.id = request.id := by
  have same : scheduler.worker.request? = some request ∨ scheduler.worker.request? = none := by
    cases known with
    | early worker => rcases worker with at_ | at_ | ⟨_, at_⟩ <;> exact .inl (by rw [at_]; rfl)
    | late worker => rcases worker with at_ | at_ <;> exact .inl (by rw [at_]; rfl)
    | through clearing | spoilt clearing => exact .inr (by rw [clearing]; rfl)
  rcases same with same | rests
  · rw [same] at concerned
    cases concerned
    rfl
  · simp [rests] at concerned

theorem Sound.ended_of_work {phase : WorkPhase Output} {outcome : Outcome Output}
    (sound : before.Sound) (running : before.lifecycle = .running)
    (works : before.worker.work? = some (request.id, phase))
    (concerned : before.worker.request? = some request) (unfinished : phase.outcome? true = none)
    (completions : after.completions =
      Completion.endAll outcome [request.id] before.completions) :
    after.outcome? request.id = some outcome :=
  outcome?_of_ended completions (List.mem_singleton_self _) (sound.born_of_worker concerned)
    (sound.pending_of_work running works unfinished)

theorem forall_mem_concat {holds : Transition Snapshot Callback Output → Prop}
    {transition : Transition Snapshot Callback Output} (old : ∀ earlier ∈ past, holds earlier)
    (new : holds transition) : ∀ earlier ∈ past ++ [transition], holds earlier :=
  List.forall_mem_append.mpr ⟨old, List.forall_mem_singleton.mpr new⟩

/-- The first mishap leaves its outcome, and only one that nobody sees the analysis of must have
left the memory alone. -/
theorem processing_of_mishap {outcome : Outcome Output}
    {transition : Transition Snapshot Callback Output}
    (well : ∀ earlier ∈ past, earlier.mishap? = none) (costs : transition.mishap? = some outcome)
    (clearing : scheduler.worker = .clearing false)
    (ended : scheduler.outcome? request.id = some outcome)
    (keeps : outcome.analysis? = none → transition.Keeps ∧
      ∀ earlier ∈ past, earlier.event.isWorker = true → earlier.Keeps) :
    Processing request (past ++ [transition]) scheduler := by
  refine .spoilt clearing (forall_mem_concat ?_ ?_) ended ?_
  · intro earlier member other cost
    simp [well earlier member] at cost
  · intro other cost
    rw [costs] at cost
    exact (Option.some.inj cost).symm
  · intro unseen
    exact forall_mem_concat (keeps unseen).2 fun _ => (keeps unseen).1

theorem processing_of_holding (holding : before.worker = .holding request)
    (well : ∀ transition ∈ past, transition.mishap? = none)
    (keeps : ∀ transition ∈ past, transition.event.isWorker = true → transition.Keeps)
    (uncancelled : before.cancelled = false) (rule : before.Rule event after)
    (works : event.isWorker = true) : after.mailbox = before.mailbox ∧
      Processing request (past ++ [⟨before, event, after⟩]) after := by
  rcases rule.of_holding works holding with ⟨rfl, cancelled, rfl⟩ | ⟨rfl, _, rfl⟩
  · simp [uncancelled] at cancelled
  · exact ⟨rfl, .early (.inr (.inl rfl)) (forall_mem_concat well rfl)
      (forall_mem_concat keeps fun _ => ⟨rfl, rfl⟩)⟩

theorem processing_of_executing (executing : before.worker = .executing request)
    (well : ∀ transition ∈ past, transition.mishap? = none)
    (keeps : ∀ transition ∈ past, transition.event.isWorker = true → transition.Keeps)
    (sound : before.Sound) (running : before.lifecycle = .running)
    (rule : before.Rule event after) (works : event.isWorker = true) :
    after.mailbox = before.mailbox ∧
      Processing request (past ++ [⟨before, event, after⟩]) after := by
  have work : before.worker.work? = some (request.id, .executing) := by rw [executing]; rfl
  have concerned : before.worker.request? = some request := by rw [executing]; rfl
  have uncancelled := (sound.orderly.uncancelled (by simp [running])).1
  rcases rule.of_executing works executing
    with ⟨execution, rfl, ⟨analysis, ready, rfl⟩ | ⟨failed, rfl⟩ | ⟨gaveUp, rfl⟩⟩
  · refine ⟨rfl, .early (.inr (.inr ⟨_, rfl⟩)) (forall_mem_concat well ?_)
      (forall_mem_concat keeps fun _ => ⟨rfl, rfl⟩)⟩
    simp [Transition.mishap?, executing, ready]
  · refine ⟨rfl, processing_of_mishap well ?_ rfl (sound.ended_of_work running work concerned rfl rfl)
      fun _ => ⟨⟨rfl, rfl⟩, keeps⟩⟩
    simp [Transition.mishap?, executing, failed]
  · refine ⟨rfl, processing_of_mishap well ?_ (by simp [uncancelled])
      (sound.ended_of_work running work concerned rfl rfl) fun _ => ⟨⟨rfl, rfl⟩, keeps⟩⟩
    simp [Transition.mishap?, executing, gaveUp]

theorem processing_of_recording {analysis : Analysis Output}
    (recording : before.worker = .recording request analysis)
    (well : ∀ transition ∈ past, transition.mishap? = none)
    (keeps : ∀ transition ∈ past, transition.event.isWorker = true → transition.Keeps)
    (sound : before.Sound) (running : before.lifecycle = .running)
    (rule : before.Rule event after) (works : event.isWorker = true) :
    after.mailbox = before.mailbox ∧
      Processing request (past ++ [⟨before, event, after⟩]) after := by
  have work : before.worker.work? = some (request.id, .recording analysis) := by
    rw [recording]
    rfl
  have concerned : before.worker.request? = some request := by rw [recording]; rfl
  rcases rule.of_recording works recording
    with ⟨reading, now, rfl, ⟨payload, fault, rfl⟩ | ⟨recorded, records, rfl⟩⟩
  · exact ⟨rfl, processing_of_mishap well (mishap?_of_fault recording fault) rfl
      (sound.ended_of_work running work concerned rfl rfl) fun _ => ⟨⟨rfl, rfl⟩, keeps⟩⟩
  · exact ⟨rfl, .late (.inl rfl) (forall_mem_concat well (mishap?_of_records recording records))⟩

theorem processing_of_delivering {analysis : Analysis Output}
    (delivering : before.worker = .delivering request analysis)
    (well : ∀ transition ∈ past, transition.mishap? = none) (rule : before.Rule event after)
    (works : event.isWorker = true) : after.mailbox = before.mailbox ∧
      Processing request (past ++ [⟨before, event, after⟩]) after := by
  rcases rule.of_delivering works delivering with ⟨rfl, ⟨_, rfl⟩ | ⟨_, _, rfl⟩ | ⟨_, _, rfl⟩⟩
  · exact ⟨rfl, .through rfl (forall_mem_concat well rfl)⟩
  · exact ⟨rfl, .through rfl (forall_mem_concat well rfl)⟩
  · exact ⟨rfl, .late (.inr rfl) (forall_mem_concat well rfl)⟩

theorem processing_of_posting {analysis : Analysis Output}
    (posting : before.worker = .posting request analysis)
    (well : ∀ transition ∈ past, transition.mishap? = none) (sound : before.Sound)
    (rule : before.Rule event after) (works : event.isWorker = true) :
    after.mailbox = before.mailbox ∧
      Processing request (past ++ [⟨before, event, after⟩]) after := by
  rcases rule.of_posting works posting with ⟨rfl, rfl⟩ | ⟨rfl, rfl⟩
  · exact ⟨rfl, .through rfl (forall_mem_concat well rfl)⟩
  · have completed : before.outcome? request.id = some (.completed analysis) := by
      rcases sound.staged request.id with ⟨stage, stands⟩
      rcases stage_of_work? stands (by rw [posting]; rfl) with ⟨marked, rfl⟩
      exact congrArg View.outcome stands
    refine ⟨rfl, processing_of_mishap well ?_ rfl completed nofun⟩
    simp [Transition.mishap?, posting]

theorem Processing.work (known : Processing request past before) (sound : before.Sound)
    (running : before.lifecycle = .running) (rule : before.Rule event after)
    (works : event.isWorker = true) (notClear : event ≠ .workerClear) :
    after.mailbox = before.mailbox ∧
      Processing request (past ++ [⟨before, event, after⟩]) after := by
  have uncancelled := (sound.orderly.uncancelled (by simp [running])).1
  cases known with
  | early worker well keeps =>
    rcases worker with holding | executing | ⟨analysis, recording⟩
    · exact processing_of_holding holding well keeps uncancelled rule works
    · exact processing_of_executing executing well keeps sound running rule works
    · exact processing_of_recording recording well keeps sound running rule works
  | late worker well =>
    rcases worker with delivering | posting
    · exact processing_of_delivering delivering well rule works
    · exact processing_of_posting posting well sound rule works
  | through clearing | spoilt clearing =>
    exact absurd (rule.of_clearing works clearing).1 notClear

theorem Processing.of_other (known : Processing request past before) (sound : before.Sound)
    (rule : before.Rule event after) (others : event.isWorker = false)
    (same : after.worker = before.worker) :
    Processing request (past ++ [⟨before, event, after⟩]) after := by
  have well : (Transition.mk before event after).mishap? = none := mishap?_of_not_worker others
  have idle : ∀ (claim : Prop), (Transition.mk before event after).event.isWorker = true → claim :=
    fun _ works => absurd (others.symm.trans works) nofun
  cases known with
  | early worker earlier keeps =>
    rw [← same] at worker
    exact .early worker (forall_mem_concat earlier well) (forall_mem_concat keeps (idle _))
  | late worker earlier =>
    rw [← same] at worker
    exact .late worker (forall_mem_concat earlier well)
  | through clearing earlier =>
    exact .through (same.trans clearing) (forall_mem_concat earlier well)
  | spoilt clearing costs ended keeps =>
    refine .spoilt (same.trans clearing) (forall_mem_concat costs ?_)
      (sound.outcome?_of_rule rule ended) fun unseen => forall_mem_concat (keeps unseen) (idle _)
    intro other cost
    rw [well] at cost
    cases cost

/-- The worker at one request, while the other threads do anything but shut the scheduler down. -/
structure Iteration (held : Scheduler Snapshot Callback Output)
    (request : Request Snapshot Callback) (past : List (Transition Snapshot Callback Output))
    (scheduler : Scheduler Snapshot Callback Output) : Prop where
  sound : scheduler.Sound
  running : scheduler.lifecycle = .running
  mailbox : scheduler.mailbox = refill held.mailbox (past.flatMap Transition.sent)
  processing : Processing request past scheduler
  spares : ∀ transition ∈ past, transition.event.isWorker = true → transition.Spares request.id

theorem Sound.iteration_nil (sound : held.Sound) (running : held.lifecycle = .running)
    (holding : held.worker = .holding request) : Iteration held request [] held where
  sound := sound
  running := running
  mailbox := rfl
  processing := .early (.inl holding) (by simp) (by simp)
  spares := by simp

/-- What other threads do to the queue while the scheduler runs. -/
theorem Sound.refill_of_other (sound : before.Sound) (running : before.lifecycle = .running)
    (rule : before.Rule event after) (others : event.isWorker = false)
    (notShutdown : event ≠ .shutdown) :
    after.mailbox = refill before.mailbox (Transition.mk before event after).sent := by
  by_cases enqueues : ∃ id launch, event = .enqueue id launch
  · rcases enqueues with ⟨id, launch, rfl⟩
    cases rule with
    | refused submits | faulted submits | openedRecent submits | openedInline submits
    | openedQueued submits => cases submits
    | turnedAway found failed => simp [Scheduler.start, running] at failed
    | enqueued found open_ pushes =>
      rw [(sound.enters_of_push found open_ pushes rfl rfl rfl).sent, refill, List.foldl_cons,
        List.foldl_nil, pushes]
  · have same : after.mailbox = before.mailbox :=
      mailbox_of_rule rule others notShutdown fun id launch is => enqueues ⟨id, launch, is⟩
    have waiting : after.waiting ⊆ before.waiting := by
      rw [waiting_of_mailbox same]
      exact List.Subset.refl _
    rw [sent_of_waiting_subset waiting, same]
    rfl

theorem Iteration.step (known : Iteration held request past before)
    (step : before.step event = some after) (notShutdown : event ≠ .shutdown)
    (notClear : event ≠ .workerClear) :
    Iteration held request (past ++ [⟨before, event, after⟩]) after := by
  have rule := rule_of_step step
  have refilled (same : after.mailbox =
      refill before.mailbox (Transition.mk before event after).sent) : after.mailbox =
        refill held.mailbox ((past ++ [Transition.mk before event after]).flatMap
          Transition.sent) := by
    rw [same, known.mailbox, List.flatMap_append, List.flatMap_singleton, refill, refill, refill,
      List.foldl_append]
  cases works : event.isWorker with
  | false =>
    have same := worker_of_rule rule works (by simp [known.running])
    exact ⟨known.sound.of_rule rule, running_of_rule rule known.running notShutdown,
      refilled (known.sound.refill_of_other known.running rule works notShutdown),
      known.processing.of_other known.sound rule works same,
      forall_mem_concat known.spares fun does => absurd (works.symm.trans does) nofun⟩
  | true =>
    rcases known.processing.work known.sound known.running rule works notClear
      with ⟨mailbox, processing⟩
    have waiting : after.waiting ⊆ before.waiting := by
      rw [waiting_of_mailbox mailbox]
      exact List.Subset.refl _
    refine ⟨known.sound.of_rule rule, running_of_rule rule known.running notShutdown,
      refilled ?_, processing, forall_mem_concat known.spares fun _ =>
        spares_of_worker rule works fun other => known.processing.concerned⟩
    rw [sent_of_waiting_subset waiting, mailbox]
    rfl

theorem Sound.iteration {work : List (Event Snapshot Callback Output)} (sound : held.Sound)
    (running : held.lifecycle = .running) (holding : held.worker = .holding request)
    (run : held.run work = some middle)
    (undisturbed : ∀ event ∈ work, event ≠ .shutdown ∧ event ≠ .workerClear) :
    Iteration held request (held.trace work) middle := by
  have along := run_induction
    (motive := fun past state =>
      (∀ event ∈ past.map Transition.event, event ≠ .shutdown ∧ event ≠ .workerClear) →
        Iteration held request past state) ?_ ?_ run
  · rw [map_event_trace run] at along
    exact along undisturbed
  · intro _
    exact sound.iteration_nil running holding
  · intro past before event after known step undisturbed
    rw [List.map_append, List.forall_mem_append] at undisturbed
    rcases undisturbed with ⟨earlier, last⟩
    rcases last event (List.mem_singleton_self _) with ⟨notShutdown, notClear⟩
    exact (known earlier).step step notShutdown notClear

theorem Processing.of_mishap {outcome : Outcome Output}
    {transition : Transition Snapshot Callback Output}
    (known : Processing request past scheduler) (member : transition ∈ past)
    (costs : transition.mishap? = some outcome) :
    scheduler.worker = .clearing false ∧ scheduler.outcome? request.id = some outcome ∧
      (outcome.analysis? = none → ∀ transition ∈ past, transition.event.isWorker = true →
        transition.Keeps) := by
  cases known with
  | early _ well | late _ well | through _ well => simp [well transition member] at costs
  | spoilt clearing only ended keeps =>
    cases only transition member outcome costs
    exact ⟨clearing, ended, keeps⟩

/-- In every transition of an iteration the worker is concerned with the one request. -/
theorem Sound.concerned {work : List (Event Snapshot Callback Output)}
    {transition : Transition Snapshot Callback Output} (sound : held.Sound)
    (running : held.lifecycle = .running) (holding : held.worker = .holding request)
    (run : held.run work = some middle)
    (undisturbed : ∀ event ∈ work, event ≠ .shutdown ∧ event ≠ .workerClear)
    (member : transition ∈ held.trace work) {other : Request Snapshot Callback}
    (concerned : transition.before.worker.request? = some other) : other.id = request.id := by
  rcases List.mem_iff_getElem?.mp member with ⟨index, found⟩
  rcases exists_split_of_trace run found with ⟨past, rest, rfl, _, pastRun, _⟩
  rw [List.forall_mem_append] at undisturbed
  have known := sound.iteration running holding pastRun undisturbed.1
  exact known.processing.concerned concerned

end Iterations

section Silence

theorem callbacksOf_append {rest : List (Event Snapshot Callback Output)}
    (run : scheduler.run events = some middle) :
    scheduler.callbacksOf (events ++ rest) =
      scheduler.callbacksOf events ++ middle.callbacksOf rest := by
  rw [callbacksOf, trace_append run, List.flatMap_append]
  rfl

theorem callbacksOf_cons {rest : List (Event Snapshot Callback Output)}
    (step : scheduler.step event = some after) :
    scheduler.callbacksOf (event :: rest) =
      (Transition.mk scheduler event after).callbacks ++ after.callbacksOf rest := by
  simp only [callbacksOf, trace, step, List.flatMap_cons]

/-- Once the callback of a request has begun, or never will, none begins. -/
theorem Sound.not_calledBack_of_spent {id : RequestId} {stage : Stage Output}
    (sound : scheduler.Sound) (stands : scheduler.view id = stage.view) (spent : stage.Spent)
    (run : scheduler.run events = some final) :
    ∀ callback ∈ scheduler.callbacksOf events, callback.id ≠ id := by
  have along := run_induction
    (motive := fun past state => state.Sound ∧
      (∃ stage : Stage Output, state.view id = stage.view ∧ stage.Spent) ∧
      ∀ callback ∈ past.flatMap Transition.callbacks, callback.id ≠ id)
    ⟨sound, ⟨stage, stands, spent⟩, by simp⟩ ?_ run
  · exact along.2.2
  · rintro past before event after ⟨sound, ⟨stage, stands, spent⟩, silent⟩ step
    have rule := rule_of_step step
    refine ⟨sound.of_rule rule, sound.stage_of_rule rule Stage.Advance.spent stands spent, ?_⟩
    rw [List.flatMap_append, List.flatMap_singleton, List.forall_mem_append]
    refine ⟨silent, ?_⟩
    rintro callback new rfl
    rcases sound.spends step (begins_of_mem_callbacks new) with ⟨_, _, other, _, unspent, _⟩
    rw [stands] at other
    rw [← Stage.view_injective other] at unspent
    exact unspent spent

/-- What a mishap finds and leaves behind. -/
theorem of_mishap? {outcome : Outcome Output} (rule : before.Rule event after)
    (costs : (Transition.mk before event after).mishap? = some outcome) :
    event.isWorker = true ∧ after.worker.work? = none ∧ after.ui = before.ui ∧
      ∃ request phase, before.worker.request? = some request ∧
        before.worker.work? = some (request.id, phase) := by
  cases rule with
  | failed executing | gaveUp executing =>
    exact ⟨rfl, rfl, rfl, _, .executing, by rw [executing]; rfl, by rw [executing]; rfl⟩
  | recordFaulted recording =>
    exact ⟨rfl, rfl, rfl, _, .recording _, by rw [recording]; rfl, by rw [recording]; rfl⟩
  | dropped posting =>
    exact ⟨rfl, rfl, rfl, _, .posting _, by rw [posting]; rfl, by rw [posting]; rfl⟩
  | answered executing ready => simp [Transition.mishap?, executing, ready] at costs
  | recorded recording records =>
    rw [mishap?_of_records recording records] at costs
    cases costs
  | refused submits | faulted submits | openedRecent submits | openedInline submits
  | openedQueued submits =>
    rw [mishap?_of_not_worker submits.isWorker_eq_false] at costs
    cases costs
  | _ => simp [Transition.mishap?] at costs

/-- A mishap ends the request on the worker, and so its callback is lost. -/
theorem Sound.spent_of_mishap {outcome : Outcome Output} {phase : WorkPhase Output} {id : RequestId}
    (sound : before.Sound) (rule : before.Rule event after)
    (costs : (Transition.mk before event after).mishap? = some outcome)
    (works : before.worker.work? = some (id, phase)) :
    ∃ stage : Stage Output, after.view id = stage.view ∧ stage.Spent := by
  rcases of_mishap? rule costs with ⟨_, rests, ui, _⟩
  rcases sound.staged id with ⟨stage, stands⟩
  rcases stage_of_work? stands works with ⟨marked, rfl⟩
  rcases sound.staged.advance sound.orderly sound.published rule stands
    with ⟨later, laterStands, moves⟩
  have unworked : later.view.worker = none := by
    rw [← laterStands]
    exact Worker.workOn_of_work?_none rests id
  have unposted : later.view.posted = [] := by
    rw [← laterStands, view, ui]
    exact congrArg View.posted stands
  refine ⟨later, laterStands, ?_⟩
  rcases moves with rfl | advance
  · cases unworked
  · cases advance with
    | conclude => exact trivial
    | post => cases unposted
    | _ => cases unworked

/-- The callback of a request that a collaborator failed on never runs. -/
theorem not_calledBack_of_mishap {config : Config} {sufficient : Reason → Bool}
    {work later : List (Event Snapshot Callback Output)}
    {transition : Transition Snapshot Callback Output} {outcome : Outcome Output}
    (run : (new config sufficient).run events = some held)
    (works : held.run work = some middle) (member : transition ∈ held.trace work)
    (costs : transition.mishap? = some outcome)
    (concerned : ∀ other, transition.before.worker.request? = some other → other.id = request.id)
    (goesOn : middle.run later = some final) :
    ∀ callback ∈ (new config sufficient).callbacksOf (events ++ work ++ later),
      callback.id ≠ request.id := by
  rcases List.mem_iff_getElem?.mp member with ⟨index, found⟩
  rcases exists_split_of_trace works found with ⟨past, rest, rfl, _, pastRun, step, restRun, _⟩
  have untilThen : (new config sufficient).run (events ++ past) = some transition.before := by
    rw [run_append, run]
    exact pastRun
  have fromThen : transition.after.run (rest ++ later) = some final := by
    rw [run_append, restRun]
    exact goesOn
  have sound := (sound_new config sufficient).run untilThen
  have rule := rule_of_step step
  rcases of_mishap? rule costs with ⟨isWorker, _, _, other, phase, at_, work⟩
  have own := concerned other at_
  rw [own] at work
  rcases sound.spent_of_mishap rule costs work with ⟨stage, stands, spent⟩
  have shape : events ++ (past ++ transition.event :: rest) ++ later =
      (events ++ past) ++ transition.event :: (rest ++ later) := by simp
  rw [shape, callbacksOf_append untilThen, callbacksOf_cons step,
    callbacks_of_worker rule isWorker, List.nil_append, List.forall_mem_append]
  refine ⟨?_, (sound.of_rule rule).not_calledBack_of_spent stands spent fromThen⟩
  rintro callback heard same
  rcases (calledBack_of_run untilThen).spent callback heard with ⟨early, earlyStands, spent, _⟩
  rw [same] at earlyStands
  rcases stage_of_work? earlyStands work with ⟨marked, rfl⟩
  exact spent

end Silence

section NextRequest

variable {first : Request Snapshot Callback}

/-- The worker is on its way into the analyzer with a request. -/
inductive Approaches (first : Request Snapshot Callback)
    (scheduler : Scheduler Snapshot Callback Output) : Prop where
  | waits (worker : scheduler.worker = .looping ∨ scheduler.worker = .receiving)
      (waits : scheduler.waiting.head? = some first)
  | taken (worker : scheduler.worker = .holding first ∨ scheduler.worker = .executing first)

theorem Approaches.waits_of_receiving (approaches : Approaches first scheduler)
    (receiving : scheduler.worker = .receiving) : scheduler.waiting.head? = some first := by
  cases approaches with
  | waits _ waits => exact waits
  | taken worker => simp [receiving] at worker

theorem Approaches.receive (approaches : Approaches first before) (sound : before.Sound)
    (running : before.lifecycle = .running) (rule : before.Rule .workerReceive after) :
    Approaches first after := by
  cases rule with
  | receivedNone receiving pops =>
    have waits := approaches.waits_of_receiving receiving
    have empty := LaneSlots.toList_eq_nil_of_pop_none sound.orderly.proper pops
    rw [waiting, empty] at waits
    cases waits
  | receivedTerminate receiving pops =>
    have noOrder := (sound.orderly.uncancelled (by simp [running])).2.2
    rw [LaneSlots.toList_of_pop_some pops] at noOrder
    exact absurd List.mem_cons_self noOrder
  | receivedRequest receiving pops =>
    have waits := approaches.waits_of_receiving receiving
    rw [waiting, LaneSlots.toList_of_pop_some pops] at waits
    cases waits
    exact .taken (.inl rfl)
  | refused submits | faulted submits | openedRecent submits | openedInline submits
  | openedQueued submits => cases submits

/-- The worker looks neither left nor right until it has begun the request. -/
theorem Approaches.step (approaches : Approaches first before) (sound : before.Sound)
    (running : before.lifecycle = .running) (rule : before.Rule event after)
    (notShutdown : event ≠ .shutdown) (notEnqueue : ∀ id launch, event ≠ .enqueue id launch)
    (notAnswer : ∀ execution, event ≠ .workerAnswer execution) : Approaches first after := by
  have uncancelled := (sound.orderly.uncancelled (by simp [running])).1
  by_cases receives : event = .workerReceive
  · subst receives
    exact approaches.receive sound running rule
  cases works : event.isWorker with
  | false =>
    have worker := worker_of_rule rule works (by simp [running])
    have waiting := waiting_of_mailbox (mailbox_of_rule rule works notShutdown notEnqueue)
    cases approaches with
    | waits at_ waits => exact .waits (by rwa [worker]) (by rwa [waiting])
    | taken at_ => exact .taken (by rwa [worker])
  | true =>
    cases rule with
    | polled looping =>
      refine .waits (.inr (by simp [uncancelled])) ?_
      cases approaches with
      | waits _ waits => exact waits
      | taken at_ => simp [looping] at at_
    | receivedNone | receivedTerminate | receivedRequest => exact absurd rfl receives
    | began holding =>
      cases approaches with
      | waits at_ => simp [holding] at at_
      | taken at_ =>
        rw [holding] at at_
        rcases at_ with same | other
        · cases same
          exact .taken (.inr rfl)
        · cases other
    | skipped holding cancelled => simp [uncancelled] at cancelled
    | answered | failed | gaveUp => exact absurd rfl (notAnswer _)
    | refused submits | faulted submits | openedRecent submits | openedInline submits
    | openedQueued submits => simp [submits.isWorker_eq_false] at works
    | recordFaulted at_ | recorded at_ | superseded at_ | lost at_ | completed at_ | posted at_
    | dropped at_ | cleared at_ =>
      cases approaches with
      | waits worker | taken worker => simp [at_] at worker
    | _ => cases works

theorem Sound.executes_next {later : List (Event Snapshot Callback Output)}
    {other : Request Snapshot Callback} (sound : scheduler.Sound)
    (running : scheduler.lifecycle = .running) (looping : scheduler.worker = .looping)
    (waits : scheduler.waiting.head? = some first) (run : scheduler.run later = some after)
    (patient : ∀ event ∈ later, event ≠ .shutdown ∧ (∀ id launch, event ≠ .enqueue id launch) ∧
      ∀ execution, event ≠ .workerAnswer execution)
    (executing : after.worker = .executing other) : other = first := by
  have along := run_induction
    (motive := fun past state =>
      (∀ event ∈ past.map Transition.event, event ≠ .shutdown ∧
        (∀ id launch, event ≠ .enqueue id launch) ∧ ∀ execution, event ≠ .workerAnswer execution) →
        state.Sound ∧ state.lifecycle = .running ∧ state.Approaches first)
    (fun _ => ⟨sound, running, .waits (.inl looping) waits⟩) ?_ run
  · rw [map_event_trace run] at along
    rcases along patient with ⟨_, _, approaches⟩
    cases approaches with
    | waits worker => simp [executing] at worker
    | taken worker => simpa [executing] using worker
  · intro past before event after known step patient
    rw [List.map_append, List.forall_mem_append] at patient
    rcases patient with ⟨earlier, last⟩
    rcases last event (List.mem_singleton_self _) with ⟨notShutdown, notEnqueue, notAnswer⟩
    rcases known earlier with ⟨sound, running, approaches⟩
    have rule := rule_of_step step
    exact ⟨sound.of_rule rule, running_of_rule rule running notShutdown,
      approaches.step sound running rule notShutdown notEnqueue notAnswer⟩

theorem Sound.exists_executes_next (sound : scheduler.Sound)
    (running : scheduler.lifecycle = .running) (looping : scheduler.worker = .looping)
    (waits : scheduler.waiting.head? = some first) :
    ∃ next, scheduler.run [.workerPoll, .workerReceive, .workerBegin] = some next ∧
      next.worker = .executing first := by
  have uncancelled := (sound.orderly.uncancelled (by simp [running])).1
  have queue := sound.orderly.mailbox_eq (by simp [running])
  rcases pops : scheduler.mailbox.pop with ⟨_ | job, mailbox⟩
  · have empty := LaneSlots.toList_eq_nil_of_pop_none sound.orderly.proper pops
    rw [waiting, empty] at waits
    cases waits
  · rw [LaneSlots.toList_of_pop_some pops] at queue
    rcases List.head?_eq_some_iff.mp waits with ⟨rest, shape⟩
    rw [shape, List.map_cons, List.cons.injEq] at queue
    rw [queue.1] at pops
    simp [Scheduler.run, step, workerPoll, workerReceive, workerBegin, looping, uncancelled, pops]

end NextRequest

/-- Whatever fails while the worker is at a request costs that request only. The worker can always
clear its marks; then it waits for work as before, with the queue as the other threads have filled
it, and takes the next request. The request has the outcome that goes with the failure and its
callback never runs. No step of the worker touches the outcome of another request, and unless it was
the dispatcher that failed, no step touches what is remembered of results and durations. -/
theorem failure_contained {config : Config} {sufficient : Reason → Bool}
    {work : List (Event Snapshot Callback Output)} {outcome : Outcome Output}
    (run : (new config sufficient).run events = some held)
    (running : held.lifecycle = .running) (holding : held.worker = .holding request)
    (works : held.run work = some middle)
    (undisturbed : ∀ event ∈ work, event ≠ .shutdown ∧ event ≠ .workerClear)
    (fails : ∃ transition ∈ held.trace work, transition.mishap? = some outcome) :
    ∃ final, middle.step .workerClear = some final ∧
      final.worker = .looping ∧ final.lifecycle = .running ∧
      final.busy = false ∧ final.inFlight = none ∧
      final.mailbox = refill held.mailbox (held.sentOf work) ∧
      (∀ first, final.waiting.head? = some first →
        (∃ next, final.run [.workerPoll, .workerReceive, .workerBegin] = some next ∧
          next.worker = .executing first) ∧
        ∀ later next other, final.run later = some next →
          (∀ event ∈ later, event ≠ .shutdown ∧ (∀ id launch, event ≠ .enqueue id launch) ∧
            ∀ execution, event ≠ .workerAnswer execution) →
          next.worker = .executing other → other = first) ∧
      final.outcome? request.id = some outcome ∧
      (∀ later last, final.run later = some last →
        ∀ callback ∈ (new config sufficient).callbacksOf
          (events ++ work ++ .workerClear :: later), callback.id ≠ request.id) ∧
      ∀ transition ∈ held.trace (work ++ [.workerClear]), transition.event.isWorker = true →
        transition.Spares request.id ∧ (outcome.analysis? = none → transition.Keeps) := by
  have sound := (sound_new config sufficient).run run
  have known := sound.iteration running holding works undisturbed
  rcases fails with ⟨transition, member, costs⟩
  rcases known.processing.of_mishap member costs with ⟨clearing, ended, keeps⟩
  have cleared : middle.step .workerClear =
      some { middle with inFlight := none, busy := false, worker := .looping } := by
    simp [step, workerClear, clearing]
  have after := known.sound.of_rule (rule_of_step cleared)
  refine ⟨_, cleared, rfl, known.running, rfl, rfl, known.mailbox, ?_, ended, ?_, ?_⟩
  · intro first waits
    refine ⟨after.exists_executes_next known.running rfl waits, ?_⟩
    intro later next other goesOn patient executing
    exact after.executes_next known.running rfl waits goesOn patient executing
  · intro later last goesOn
    have goesOn : middle.run (.workerClear :: later) = some last := by
      rw [Scheduler.run, cleared]
      exact goesOn
    exact not_calledBack_of_mishap run works member costs
      (fun other => sound.concerned running holding works undisturbed member) goesOn
  · rw [trace_append works]
    simp only [trace, cleared]
    refine forall_mem_concat ?_ fun _ => ⟨fun _ _ => rfl, fun _ => ⟨rfl, rfl⟩⟩
    intro earlier inside does
    exact ⟨known.spares earlier inside does, fun unseen => keeps unseen earlier inside does⟩

/-- A check that the worker has taken out of the queue. -/
def heldCheck : List (Event Unit Unit Unit) :=
  [.submit { source := ⟨"a"⟩, position := {}, reason := .fullTypeCheck, snapshot := () } (.ok {}) 0,
    .enqueue 0 .started, .workerPoll, .workerReceive]

/-- An analyzer call that raises an exception after a goto has entered the queue. -/
def brokenAnalyzer : List (Event Unit Unit Unit) :=
  [.workerBegin,
    .submit { source := ⟨"a"⟩, position := {}, reason := .goto, snapshot := () } (.ok {}) 0,
    .enqueue 1 .started, .workerAnswer (.error (.literal "out of bounds"))]

/-- A dispatcher that raises an exception. -/
def brokenDispatcher : List (Event Unit Unit Unit) :=
  [.workerBegin, .workerAnswer (.ok (.ok { payload := some (), version := {} })),
    .workerRecord (.ok {}) 0, .workerDeliver, .workerPost false]

theorem failure_contained_brokenAnalyzer :
    ∃ held broken dropped : Scheduler Unit Unit Unit,
      (new .default fun _ => false).run heldCheck = some held ∧
      held.run brokenAnalyzer = some broken ∧ held.run brokenDispatcher = some dropped ∧
      (∃ final next, broken.step .workerClear = some final ∧ final.worker = .looping ∧
        final.outcome? 0 = some .abandoned ∧
        final.run [.workerPoll, .workerReceive, .workerBegin] = some next ∧
        next.worker.request?.map (fun request => request.id) = some 1) ∧
      ∃ final, dropped.step .workerClear = some final ∧ final.worker = .looping ∧
        final.outcome? 0 = some (.completed { payload := some (), version := {} }) := by
  have start : ∃ held : Scheduler Unit Unit Unit, ∃ request second,
      (new .default fun _ => false).run heldCheck = some held ∧ held.lifecycle = .running ∧
      held.worker = .holding request ∧ request.id = 0 ∧ second.id = 1 ∧
      ((refill held.mailbox (held.sentOf brokenAnalyzer)).toList.filterMap Job.request?).head? =
        some second ∧
      (∃ broken, held.run brokenAnalyzer = some broken) ∧
      (∃ transition ∈ held.trace brokenAnalyzer, transition.mishap? = some .abandoned) ∧
      (∃ dropped, held.run brokenDispatcher = some dropped) ∧
      ∃ transition ∈ held.trace brokenDispatcher,
        transition.mishap? = some (.completed { payload := some (), version := {} }) :=
    ⟨_, _, _, rfl, rfl, rfl, rfl, rfl, rfl, ⟨_, rfl⟩, ⟨_, .tail _ (.tail _ (.tail _ (.head _))), rfl⟩,
      ⟨_, rfl⟩, ⟨_, .tail _ (.tail _ (.tail _ (.tail _ (.head _)))), rfl⟩⟩
  rcases start with ⟨held, request, second, run, running, holding, own, another, waits,
    ⟨broken, analyzer⟩, fails, ⟨dropped, dispatcher⟩, drops⟩
  refine ⟨held, broken, dropped, run, analyzer, dispatcher, ?_, ?_⟩
  · rcases failure_contained run running holding analyzer (by simp [brokenAnalyzer]) fails
      with ⟨final, cleared, loops, _, _, _, mailbox, goesOn, ended, _⟩
    rw [← mailbox] at waits
    rcases (goesOn second waits).1 with ⟨next, begins, executing⟩
    refine ⟨final, next, cleared, loops, own ▸ ended, begins, ?_⟩
    rw [executing, ← another]
    rfl
  · rcases failure_contained run running holding dispatcher (by simp [brokenDispatcher]) drops
      with ⟨final, cleared, loops, _, _, _, _, _, ended, _⟩
    exact ⟨final, cleared, loops, own ▸ ended⟩

end Scheduler

end EditorAnalysis
