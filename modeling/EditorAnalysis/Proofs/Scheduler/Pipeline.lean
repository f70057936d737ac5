import EditorAnalysis.Proofs.Scheduler.Burst
import Mathlib.Data.List.Nodup

/-!
# Requests keep the order in which they were sent

The queue, the worker and the queue of the UI thread make up one pipeline. A request enters it at the
end and may leave it anywhere, be it thrown out, dropped or called back, but nothing in it is ever
moved past anything else. So at any time what is in the pipeline is a sublist of all that was sent
(`Scheduler.Ordered`), and of two requests the one that was sent first is the first to get anywhere.
-/

namespace EditorAnalysis

variable {Snapshot Callback Output : Type}

section Order

variable {Entry : Type} {earlier later entries rest : List Entry} {first second : Entry}

theorem not_sublist_swap (distinct : entries.Nodup) (order : [first, second].Sublist entries) :
    ¬ [second, first].Sublist entries := by
  intro swapped
  induction entries with
  | nil => cases order
  | cons entry entries ih =>
    rcases List.nodup_cons.mp distinct with ⟨fresh, distinct⟩
    cases order with
    | cons _ order =>
      cases swapped with
      | cons _ swapped => exact ih distinct order swapped
      | cons_cons _ swapped =>
        apply fresh
        exact order.subset (by simp)
    | cons_cons _ order =>
      cases swapped with
      | cons _ swapped =>
        apply fresh
        exact swapped.subset (by simp)
      | cons_cons _ swapped =>
        apply fresh
        exact order.subset (by simp)

/-- Nothing that comes before the head of a sublist is in the sublist. -/
theorem not_mem_of_sublist_cons (distinct : entries.Nodup) (order : [first, second].Sublist entries)
    (sublist : (second :: rest).Sublist entries) : first ∉ second :: rest := by
  intro member
  rcases List.mem_cons.mp member with rfl | behind
  · exact List.nodup_iff_sublist.mp distinct first order
  · have swapped : [second, first].Sublist (second :: rest) :=
      (List.singleton_sublist.mpr behind).cons_cons second
    exact not_sublist_swap distinct order (swapped.trans sublist)

/-- The order of two entries is decided where the second one is met. -/
theorem sublist_of_mem_left (distinct : (earlier ++ later).Nodup)
    (order : [first, second].Sublist (earlier ++ later)) (met : second ∈ earlier) :
    [first, second].Sublist earlier := by
  rcases List.sublist_append_iff.mp order with ⟨left, right, split, leftPart, rightPart⟩
  have apart : second ∉ later := List.disjoint_of_nodup_append distinct met
  rcases left with _ | ⟨one, _ | ⟨two, more⟩⟩
  · rw [List.nil_append] at split
    rw [← split] at rightPart
    exact absurd (rightPart.subset (by simp)) apart
  · simp only [List.cons_append, List.nil_append, List.cons.injEq] at split
    rw [← split.2] at rightPart
    exact absurd (rightPart.subset (by simp)) apart
  · simp only [List.cons_append, List.cons.injEq, List.nil_eq, List.append_eq_nil_iff] at split
    rcases split with ⟨rfl, rfl, rfl, _⟩
    exact leftPart

end Order

namespace Stage

/-- The request has entered the queue, or has ended without it. -/
def Entered : Stage Output → Prop
  | .unborn | .called _ => False
  | _ => True

/-- The worker is done with the request, or has never had to do with it. -/
def Left : Stage Output → Prop
  | .posted _ _ | .ended _ _ => True
  | _ => False

/-- The request may yet enter the queue. -/
def Unsent : Stage Output → Prop
  | .unborn | .called .queueing => True
  | _ => False

variable {stage later : Stage Output}

theorem Advance.entered (advance : Advance stage later) (entered : stage.Entered) :
    later.Entered := by
  cases advance <;> first | exact trivial | exact entered.elim

theorem Advance.left (advance : Advance stage later) (left : stage.Left) : later.Left := by
  cases advance <;> first | exact trivial | exact left.elim

theorem Advance.unsent (advance : Advance stage later) (unsent : later.Unsent) : stage.Unsent := by
  cases advance <;> first | exact trivial | exact unsent.elim

theorem Left.not_analyzing (left : stage.Left) : ¬ stage.Analyzing := by
  intro analyzing
  cases stage <;> first | exact left | exact analyzing

end Stage

namespace Scheduler

/-- The requests that are on their way after they have been sent, the foremost first. -/
def pipeline (scheduler : Scheduler Snapshot Callback Output) : List (Request Snapshot Callback) :=
  scheduler.ui.jobs.map Answered.request ++ scheduler.remaining

variable {scheduler before after final : Scheduler Snapshot Callback Output}
  {event : Event Snapshot Callback Output} {events : List (Event Snapshot Callback Output)}
  {sent : List (Request Snapshot Callback)} {request : Request Snapshot Callback}

theorem pipeline_sublist (jobs : after.ui.jobs.Sublist before.ui.jobs)
    (worker : after.worker.request?.toList.Sublist before.worker.request?.toList)
    (waiting : after.waiting.Sublist before.waiting) : after.pipeline.Sublist before.pipeline :=
  (jobs.map Answered.request).append (worker.append waiting)

/-- What a step that sends nothing does to the pipeline. -/
theorem shrinks (jobs : after.ui.jobs.Sublist before.ui.jobs)
    (worker : after.worker.request?.toList.Sublist before.worker.request?.toList)
    (waiting : after.waiting.Sublist before.waiting) :
    (Transition.mk before event after).sent = [] ∧ after.pipeline.Sublist before.pipeline :=
  ⟨sent_of_waiting_subset waiting.subset, pipeline_sublist jobs worker waiting⟩

theorem Enters.waiting_sublist {gone : List RequestId}
    (enters : Enters before after request gone) :
    after.waiting.Sublist (before.waiting ++ [request]) := by
  rw [enters.waiting]
  split
  · exact List.sublist_append_right _ _
  · exact List.filter_sublist.append_right _

/-- A request that is let in goes to the end of the pipeline. -/
theorem Sound.pipeline_of_push {id : RequestId} {pushed : Pushed (Job Snapshot Callback)}
    {mailbox : LaneSlots (Job Snapshot Callback)} (sound : before.Sound)
    (found : before.call? id = some ⟨request, .queueing⟩) (open_ : before.lifecycle ≠ .stopped)
    (pushes : before.mailbox.push (.analyze request.bound) = (pushed, mailbox))
    (now : after.mailbox = mailbox)
    (completions : after.completions =
      Completion.endAll .displaced (Job.requestIds pushed.displaced) before.completions)
    (counted : after.stats.displaced = before.stats.displaced +
      UInt64.ofNat (Job.requestIds pushed.displaced).length) (ui : after.ui = before.ui)
    (worker : after.worker.request?.toList.Sublist before.worker.request?.toList) :
    ∃ request gone, Enters before after request gone ∧
      before.view request.id = (Stage.called .queueing : Stage Output).view ∧
      after.pipeline.Sublist (before.pipeline ++ [request]) := by
  have enters := sound.enters_of_push found open_ pushes now completions counted
  refine ⟨request.bound, Job.requestIds pushed.displaced, enters, ?_, ?_⟩
  · rcases sound.staged request.bound.id with ⟨stage, stands⟩
    have own : request.bound.id = id := request_id_of_call? found
    have called := phase_mem_of_call? found
    rw [← own, stands] at called
    rw [stands, Stage.eq_called called]
  · rw [pipeline, pipeline, remaining, remaining, ui, List.append_assoc, List.append_assoc]
    apply (List.Sublist.refl _).append
    exact worker.append enters.waiting_sublist

/-- The worker hands a request on to the UI thread, or it gets lost between them. -/
theorem pipeline_posted {analysis : Analysis Output}
    (posting : before.worker = .posting request analysis)
    (ui : after.ui = before.ui.post ⟨request, analysis⟩) (done : after.worker = .clearing false)
    (waiting : after.waiting = before.waiting) : after.pipeline.Sublist before.pipeline := by
  rw [pipeline, pipeline, remaining, remaining, posting, done, ui, waiting, UiQueue.post]
  split
  · simp [Worker.request?]
  · exact (List.Sublist.refl _).append (List.sublist_cons_self _ _)

/-- A request enters the pipeline at its end, and nothing in it changes places. -/
theorem Sound.pipeline_of_rule (sound : before.Sound) (rule : before.Rule event after) :
    ((Transition.mk before event after).sent = [] ∧ after.pipeline.Sublist before.pipeline) ∨
      ∃ request gone, Enters before after request gone ∧
        before.view request.id = (Stage.called .queueing : Stage Output).view ∧
        after.pipeline.Sublist (before.pipeline ++ [request]) := by
  cases rule with
  | enqueued found open_ pushes =>
    right
    refine sound.pipeline_of_push found open_ pushes rfl rfl rfl rfl ?_
    dsimp only
    split
    · exact List.nil_sublist _
    · exact List.Sublist.refl _
  | started | skipped | failed | gaveUp | recordFaulted | superseded | lost | dropped =>
    left
    exact shrinks (List.Sublist.refl _) (List.nil_sublist _) (List.Sublist.refl _)
  | polled looping =>
    left
    refine shrinks (List.Sublist.refl _) ?_ (List.Sublist.refl _)
    cases before.cancelled <;> exact List.nil_sublist _
  | @cleared leaves clearing =>
    left
    refine shrinks (List.Sublist.refl _) ?_ (List.Sublist.refl _)
    cases leaves <;> exact List.nil_sublist _
  | began present | answered present | recorded present | completed present =>
    left
    refine shrinks (List.Sublist.refl _) ?_ (List.Sublist.refl _)
    rw [present]
    exact List.Sublist.refl _
  | posted posting =>
    left
    refine ⟨sent_of_waiting_subset (List.Subset.refl _), ?_⟩
    exact pipeline_posted posting rfl rfl rfl
  | receivedNone receiving pops =>
    left
    refine shrinks (List.Sublist.refl _) (List.nil_sublist _) ?_
    rw [LaneSlots.toList_of_pop_none pops]
    exact List.Sublist.refl _
  | @receivedTerminate mailbox receiving pops =>
    left
    refine shrinks (List.Sublist.refl _) (List.nil_sublist _) ?_
    rw [waiting, waiting, LaneSlots.toList_of_pop_some pops]
    exact List.Sublist.refl _
  | @receivedRequest mailbox request receiving pops =>
    left
    have head : before.waiting = request :: mailbox.toList.filterMap Job.request? :=
      congrArg (List.filterMap Job.request?) (LaneSlots.toList_of_pop_some pops)
    refine ⟨sent_of_waiting_subset ?_, ?_⟩
    · rw [head]
      exact List.subset_cons_self _ _
    · rw [pipeline, pipeline, remaining, remaining, receiving, head]
      exact List.Sublist.refl _
  | stopping =>
    left
    exact shrinks (List.Sublist.refl _) (List.Sublist.refl _) (List.nil_sublist _)
  | pumped jobs =>
    left
    refine shrinks ?_ (List.Sublist.refl _) (List.Sublist.refl _)
    rw [jobs]
    exact List.sublist_cons_self _ _
  | droppedPump =>
    left
    exact shrinks (List.nil_sublist _) (List.Sublist.refl _) (List.Sublist.refl _)
  | _ =>
    left
    exact shrinks (List.Sublist.refl _) (List.Sublist.refl _) (List.Sublist.refl _)

/-- What is known of the pipeline after some requests have been sent, in this order. -/
structure Ordered (sent : List (Request Snapshot Callback))
    (scheduler : Scheduler Snapshot Callback Output) : Prop where
  sound : scheduler.Sound
  entered : ∀ request ∈ sent, ∃ stage : Stage Output,
    scheduler.view request.id = stage.view ∧ stage.Entered
  distinct : (sent.map fun request => request.id).Nodup
  inOrder : scheduler.pipeline.Sublist sent

theorem ordered_new (config : Config) (sufficient : Reason → Bool) :
    Ordered [] (new config sufficient : Scheduler Snapshot Callback Output) where
  sound := sound_new config sufficient
  entered request member := by cases member
  distinct := List.nodup_nil
  inOrder := List.Sublist.refl _

/-- What a step does to requests on their way: each stays at its stage or moves on along one edge,
and the pipeline loses some and may get a new last one. -/
structure Flows (before after : Scheduler Snapshot Callback Output)
    (new : List (Request Snapshot Callback)) : Prop where
  sound : after.Sound
  advances : ∀ id, ∀ stage : Stage Output, before.view id = stage.view →
    ∃ later, after.view id = later.view ∧ (later = stage ∨ stage.Advance later)
  pipeline : new = [] ∧ after.pipeline.Sublist before.pipeline ∨
    ∃ request gone, new = [request] ∧ Enters before after request gone ∧
      before.view request.id = (Stage.called .queueing : Stage Output).view ∧
      after.pipeline.Sublist (before.pipeline ++ [request])

theorem Sound.flows (sound : before.Sound) (rule : before.Rule event after) :
    Flows before after (Transition.mk before event after).sent where
  sound := sound.of_rule rule
  advances _ _ stands := sound.staged.advance sound.orderly sound.published rule stands
  pipeline := by
    rcases sound.pipeline_of_rule rule with silent | ⟨request, gone, enters, called, grows⟩
    · exact .inl silent
    · exact .inr ⟨request, gone, enters.sent, enters, called, grows⟩

theorem Sound.flows_silent (sound : before.Sound) (rule : before.Rule event after)
    (subset : after.waiting ⊆ before.waiting) : Flows before after [] := by
  have flows := sound.flows rule
  rwa [sent_of_waiting_subset subset] at flows

/-- What every edge keeps, a step keeps. -/
theorem Flows.stage {new : List (Request Snapshot Callback)} {holds : Stage Output → Prop}
    {id : RequestId} {stage : Stage Output} (flows : Flows before after new)
    (keeps : ∀ {stage later : Stage Output}, stage.Advance later → holds stage → holds later)
    (stands : before.view id = stage.view) (start : holds stage) :
    ∃ later : Stage Output, after.view id = later.view ∧ holds later := by
  rcases flows.advances id stage stands with ⟨later, laterStands, rfl | advance⟩
  · exact ⟨later, laterStands, start⟩
  · exact ⟨later, laterStands, keeps advance start⟩

theorem Ordered.of_flows {new : List (Request Snapshot Callback)} (known : Ordered sent before)
    (flows : Flows before after new) : Ordered (sent ++ new) after := by
  have entered (request : Request Snapshot Callback) (member : request ∈ sent) :
      ∃ stage : Stage Output, after.view request.id = stage.view ∧ stage.Entered := by
    rcases known.entered request member with ⟨stage, stands, entered⟩
    exact flows.stage Stage.Advance.entered stands entered
  rcases flows.pipeline with ⟨rfl, shrinks⟩ | ⟨request, gone, rfl, enters, called, grows⟩
  · rw [List.append_nil]
    exact ⟨flows.sound, entered, known.distinct, shrinks.trans known.inOrder⟩
  · refine ⟨flows.sound, ?_, ?_, ?_⟩
    · intro other member
      rcases List.mem_append.mp member with old | new
      · exact entered other old
      · rw [List.mem_singleton.mp new]
        refine ⟨.waiting, ?_, trivial⟩
        apply flows.sound.view_of_waiting
        rw [enters.waiting]
        split <;> simp
    · rw [List.map_append, List.nodup_append]
      refine ⟨known.distinct, List.nodup_singleton _, ?_⟩
      intro id old other new same
      rw [List.map_singleton, List.mem_singleton] at new
      rcases List.mem_map.mp old with ⟨entry, member, rfl⟩
      rcases known.entered entry member with ⟨stage, stands, entered⟩
      rw [same, new, called] at stands
      rw [← Stage.view_injective stands] at entered
      exact entered
    · exact grows.trans (known.inOrder.append_right _)

theorem Ordered.step (known : Ordered sent before) (step : before.step event = some after) :
    Ordered (sent ++ (Transition.mk before event after).sent) after :=
  known.of_flows (known.sound.flows (rule_of_step step))

theorem ordered_of_run {config : Config} {sufficient : Reason → Bool}
    (run : (new config sufficient).run events = some final) :
    Ordered ((new config sufficient).sentOf events) final := by
  apply run_induction (motive := fun past state => Ordered (past.flatMap Transition.sent) state)
    (ordered_new config sufficient) ?_ run
  intro past before event after known step
  rw [List.flatMap_append, List.flatMap_singleton]
  exact known.step step

variable {newer other : Request Snapshot Callback}

theorem Ordered.eq_of_id (known : Ordered sent scheduler) (member : request ∈ sent)
    (otherMember : other ∈ sent) (same : request.id = other.id) : request = other :=
  List.inj_on_of_nodup_map known.distinct member otherMember same

theorem Ordered.nodup (known : Ordered sent scheduler) : sent.Nodup :=
  known.distinct.of_map

theorem Ordered.remaining_sublist (known : Ordered sent scheduler) :
    scheduler.remaining.Sublist sent :=
  (List.sublist_append_right _ _).trans known.inOrder

/-- What waits was sent later than what the worker is concerned with. -/
theorem Ordered.sublist_of_waiting (known : Ordered sent scheduler)
    (concerned : scheduler.worker.request? = some request) (waits : newer ∈ scheduler.waiting) :
    [request, newer].Sublist sent := by
  have behind : [request, newer].Sublist scheduler.remaining := by
    rw [remaining, concerned]
    exact (List.singleton_sublist.mpr waits).cons_cons request
  exact behind.trans known.remaining_sublist

theorem request?_of_workOn {id : RequestId} {worker : Worker Snapshot Callback Output}
    {phase : WorkPhase Output} (works : worker.workOn id = some phase) :
    ∃ request, worker.request? = some request ∧ request.id = id := by
  have concerned := Worker.work?_of_workOn works
  cases worker with
  | executing request | recording request | delivering request | posting request =>
    cases concerned
    exact ⟨request, rfl, rfl⟩
  | _ => cases concerned

/-- A request that has entered the queue is in front of the worker or done with there. -/
theorem Ordered.left_of_not_remaining (known : Ordered sent scheduler) (member : request ∈ sent)
    (gone : request ∉ scheduler.remaining) :
    ∃ stage : Stage Output, scheduler.view request.id = stage.view ∧ stage.Left := by
  rcases known.entered request member with ⟨stage, stands, entered⟩
  refine ⟨stage, stands, ?_⟩
  have absent (there : request.id ∈ scheduler.remaining.map fun other => other.id) : False := by
    rcases List.mem_map.mp there with ⟨other, remains, same⟩
    rw [known.eq_of_id (known.remaining_sublist.subset remains) member same] at remains
    exact gone remains
  rw [remaining, List.map_append, List.mem_append] at absent
  cases stage with
  | unborn | called => exact entered.elim
  | waiting =>
    have count := congrArg View.waiting stands
    apply absurd (Or.inr (List.count_pos_iff.mp _)) absent
    exact Nat.lt_of_lt_of_eq Nat.one_pos count.symm
  | held =>
    have holds := congrArg View.held stands
    rcases eq_holding_of_held? (of_decide_eq_true holds) with ⟨other, holding, same⟩
    apply (absent (.inl _)).elim
    simpa [holding, Worker.request?] using same.symm
  | worked phase marked =>
    rcases request?_of_workOn (congrArg View.worker stands) with ⟨other, concerned, same⟩
    apply (absent (.inl _)).elim
    simpa [concerned] using same.symm
  | posted | ended => exact trivial

/-- A request that has entered the queue is in the pipeline or has ended. -/
theorem Ordered.ended_of_not_pipeline (known : Ordered sent scheduler) (member : request ∈ sent)
    (gone : request ∉ scheduler.pipeline) :
    ∃ outcome marked, scheduler.view request.id = (Stage.ended outcome marked).view := by
  rw [pipeline, List.mem_append, not_or] at gone
  rcases known.left_of_not_remaining member gone.2 with ⟨stage, stands, left⟩
  cases stage with
  | posted analysis marked =>
    exfalso
    have jobs : analysis ∈ postedFor request.id scheduler.ui.jobs := by
      rw [show postedFor request.id scheduler.ui.jobs = [analysis] from congrArg View.posted stands]
      exact List.mem_singleton_self _
    rcases List.mem_map.mp jobs with ⟨answered, filtered, _⟩
    rcases List.mem_filter.mp filtered with ⟨job, own⟩
    have posted := List.mem_map_of_mem (f := Answered.request) job
    have old := known.inOrder.subset (List.mem_append_left _ posted)
    rw [known.eq_of_id old member (by simpa using own)] at posted
    exact gone.1 posted
  | ended outcome marked => exact ⟨outcome, marked, stands⟩
  | _ => exact left.elim

theorem sentOf_append {middle : Scheduler Snapshot Callback Output}
    {rest : List (Event Snapshot Callback Output)} (run : scheduler.run events = some middle) :
    scheduler.sentOf (events ++ rest) = scheduler.sentOf events ++ middle.sentOf rest := by
  rw [sentOf, trace_append run, List.flatMap_append]
  rfl

theorem Sound.queueing_of_sent (sound : before.Sound) (step : before.step event = some after)
    (new : request ∈ (Transition.mk before event after).sent) :
    before.view request.id = (Stage.called .queueing : Stage Output).view := by
  rcases sound.pipeline_of_rule (rule_of_step step)
    with ⟨silent, _⟩ | ⟨other, gone, enters, called, _⟩
  · rw [silent] at new
    cases new
  · rw [enters.sent, List.mem_singleton] at new
    rw [new]
    exact called

/-- What enters the queue later on has not entered it yet. -/
theorem Sound.unsent_of_sentOf (sound : scheduler.Sound) (run : scheduler.run events = some final)
    (member : request ∈ scheduler.sentOf events) :
    ∃ stage : Stage Output, scheduler.view request.id = stage.view ∧ stage.Unsent := by
  induction events generalizing scheduler with
  | nil => cases member
  | cons event rest ih =>
    simp only [Scheduler.run, sentOf, trace] at run member ih
    cases step : scheduler.step event with
    | none => simp [step] at run
    | some next =>
      simp only [step, Option.bind_some, List.flatMap_cons, List.mem_append] at run member
      rcases member with now | later
      · exact ⟨_, sound.queueing_of_sent step now, trivial⟩
      · rcases ih (sound.of_rule (rule_of_step step)) run later with ⟨stage, stands, unsent⟩
        rcases sound.moves step with ⟨old, new, oldStands, newStands, moves⟩
        cases Stage.view_injective (newStands.symm.trans stands)
        refine ⟨old, oldStands, ?_⟩
        rcases moves with rfl | advance
        · exact unsent
        · exact advance.unsent unsent

/-- A request that enters the queue in a run has done so at any point of the run, or may yet do so.
-/
theorem entered_or_unsent {config : Config} {sufficient : Reason → Bool}
    {middle : Scheduler Snapshot Callback Output}
    {past rest : List (Event Snapshot Callback Output)}
    (run : (new config sufficient).run past = some middle) (restRun : middle.run rest = some final)
    (member : request ∈ (new config sufficient).sentOf (past ++ rest)) :
    ∃ stage : Stage Output, middle.view request.id = stage.view ∧
      (request ∈ (new config sufficient).sentOf past ∧ stage.Entered ∨ stage.Unsent) := by
  have known := ordered_of_run run
  rw [sentOf_append run] at member
  rcases List.mem_append.mp member with old | new
  · rcases known.entered request old with ⟨stage, stands, entered⟩
    exact ⟨stage, stands, .inl ⟨old, entered⟩⟩
  · rcases known.sound.unsent_of_sentOf restRun new with ⟨stage, stands, unsent⟩
    exact ⟨stage, stands, .inr unsent⟩

end Scheduler

end EditorAnalysis
