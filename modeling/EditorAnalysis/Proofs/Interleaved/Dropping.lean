import EditorAnalysis.Proofs.Interleaved.Whole
import EditorAnalysis.Proofs.Scheduler.Dropping

/-!
# Requests are dropped only for newer ones, or for a shutdown

A request is dropped in one of two ways. While it waits it may be thrown out by another one that
enters the queue (`displaced`); and once the worker has its analysis it may be outdone by a job that
waits by then (`superseded`). The other one was sent later, since the queue and the worker keep the
order of sending, and it is interactive or of the same lane.

But the worker looks at its token before it looks at the queue. A shutdown that comes in between
leaves the order to go in the queue, which counts as interactive work, and an interactive result is
dropped for it (`Interleaved.Caught`). `Interleaved.dropped_for_newer` says when exactly a request is
dropped, over every run, and that there is no other exception.
-/

namespace EditorAnalysis

variable {Snapshot Callback Output : Type}

namespace Interleaved

/-- A shutdown has come between the two looks of the worker, and the result is dropped for the order
to go. -/
def Caught (passages : List (Passage Snapshot Callback Output)) (id : RequestId) : Prop :=
  ∃ passage ∈ passages, ∃ request analysis, request.id = id ∧ passage.move = .decide ∧
    passage.before.worker = .looked true ∧
    passage.before.shared.worker = .delivering request analysis ∧
    request.reason.lane = .interactive ∧
    .terminate ∈ passage.before.shared.mailbox.toList

/-- Another request was sent later that is interactive or of the same lane. -/
def Justified (sent : List (Request Snapshot Callback)) (id : RequestId) : Prop :=
  ∃ request newer, request.id = id ∧ [request, newer].Sublist sent ∧
    (newer.reason.lane = .interactive ∨ newer.reason.lane = request.reason.lane)

variable {threads before after final : Interleaved Snapshot Callback Output}
  {move : Move Snapshot Callback Output} {moves : List (Move Snapshot Callback Output)}
  {sent : List (Request Snapshot Callback)} {request : Request Snapshot Callback}
  {analysis : Analysis Output} {id : RequestId} {outcome : Outcome Output}
  {passage : Passage Snapshot Callback Output}

/-- What the worker finds in the queue: a request of the lane or, in the interactive lane, the order to
go. -/
theorem contains_iff (scheduler : Scheduler Snapshot Callback Output) (wanted : Lane) :
    scheduler.mailbox.contains wanted = true ↔
      (∃ newer ∈ scheduler.waiting, newer.reason.lane = wanted) ∨
        wanted = .interactive ∧ .terminate ∈ scheduler.mailbox.toList := by
  have ofRequest (request : Request Snapshot Callback) :
      lane (Job.analyze request) = request.reason.lane := rfl
  have ofOrder : lane (Job.terminate : Job Snapshot Callback) = .interactive := rfl
  rw [LaneSlots.contains, List.any_eq_true, Scheduler.waiting]
  constructor
  · rintro ⟨job, waits, same⟩
    rw [beq_iff_eq] at same
    cases job with
    | analyze request =>
      exact .inl ⟨request, List.mem_filterMap.mpr ⟨_, waits, rfl⟩, (ofRequest request).symm.trans same⟩
    | terminate => exact .inr ⟨same.symm.trans ofOrder, waits⟩
  · rintro (⟨newer, waits, same⟩ | ⟨interactive, waits⟩)
    · rcases List.mem_filterMap.mp waits with ⟨job, waits, is⟩
      cases job with
      | analyze request =>
        cases is
        exact ⟨_, waits, by rw [ofRequest, same, beq_self_eq_true]⟩
      | terminate => cases is
    · exact ⟨_, waits, by rw [ofOrder, interactive, beq_self_eq_true]⟩

/-- A request that the worker has not completed is pending or was aborted by a shutdown. -/
theorem Known.outcome?_of_work {phase : WorkPhase Output} (known : Known sent threads)
    (works : threads.shared.worker.work? = some (id, phase))
    (unfinished : phase.outcome? true = none) :
    id < threads.shared.completions.length ∧
      (threads.shared.outcome? id = none ∨ threads.shared.outcome? id = some .aborted) := by
  rw [← worker_whole] at works
  rcases known.sound.staged id with ⟨stage, stands⟩
  rcases Scheduler.stage_of_work? stands works with ⟨marked, rfl⟩
  have recorded := congrArg View.outcome stands
  rw [outcome_view_whole] at recorded
  have born := of_decide_eq_true (congrArg View.born stands)
  rw [completions_whole] at born
  refine ⟨born, ?_⟩
  cases marked with
  | true => exact .inl (recorded.trans unfinished)
  | false =>
    cases phase with
    | posting => cases unfinished
    | _ => exact .inr recorded

/-- What becomes of the request whose analysis the worker has. -/
theorem Known.superseded_of_decide (known : Known sent before)
    (step : before.step .decide = some after)
    (delivering : before.shared.worker = .delivering request analysis) :
    (after.shared.outcome? request.id).isSome ∧
      (after.shared.outcome? request.id = some .superseded ↔
        before.worker = .looked true ∧ before.shared.outcome? request.id ≠ some .aborted ∧
          before.shared.mailbox.contains request.reason.lane = true) := by
  rcases known.outcome?_of_work (by rw [delivering]; rfl) rfl with ⟨born, outcome⟩
  have ended {outcome : Outcome Output}
      (completions : after.shared.completions =
        Completion.endAll outcome [request.id] before.shared.completions)
      (pending : before.shared.outcome? request.id = none) :
      after.shared.outcome? request.id = some outcome :=
    Scheduler.outcome?_of_ended completions (List.mem_singleton_self _) born pending
  cases rule_of_step step with
  | superseded looked delivering' outdone =>
    cases delivering.symm.trans delivering'
    rcases outcome with pending | aborted
    · have superseded := ended rfl pending
      exact ⟨by rw [superseded]; rfl, fun _ => ⟨looked, by simp [pending], outdone⟩,
        fun _ => superseded⟩
    · have kept := known.outcome?_of_step step aborted
      refine ⟨by rw [kept]; rfl, ?_, fun ⟨_, unaborted, _⟩ => absurd aborted unaborted⟩
      intro superseded
      cases kept.symm.trans superseded
  | lost looked delivering' wanted lost =>
    cases delivering.symm.trans delivering'
    have aborted : before.shared.outcome? request.id = some .aborted := by
      rcases outcome with pending | aborted
      · simp [pending] at lost
      · exact aborted
    have kept := known.outcome?_of_step step aborted
    refine ⟨by rw [kept]; rfl, ?_, fun ⟨_, unaborted, _⟩ => absurd aborted unaborted⟩
    intro superseded
    cases kept.symm.trans superseded
  | completed looked delivering' wanted pending =>
    cases delivering.symm.trans delivering'
    have completed := ended rfl pending
    refine ⟨by rw [completed]; rfl, ?_, ?_⟩
    · intro superseded
      cases completed.symm.trans superseded
    · rintro ⟨dropping, _, outdone⟩
      cases looked.symm.trans dropping
      simp [outdone] at wanted

/-- The first look of the worker. -/
theorem Known.looked_iff (known : Known sent before) (step : before.step .look = some after)
    (delivering : before.shared.worker = .delivering request analysis) :
    after.worker = .looked true ↔
      request.reason ≠ .fullTypeCheck ∧ before.shared.lifecycle ≠ .stopped := by
  have fired : before.shared.cancelled = false ↔ before.shared.lifecycle ≠ .stopped := by
    constructor
    · intro uncancelled stopped
      rcases known.sound.orderly.fired (by simpa using stopped) with fired | ⟨never, _⟩
      · simp [uncancelled] at fired
      · simp [delivering] at never
    · intro open_
      have uncancelled := known.sound.orderly.uncancelled (by simpa using open_)
      simpa using uncancelled.1
  cases rule_of_step step with
  | looked between delivering' =>
    cases delivering.symm.trans delivering'
    rw [← fired, ← Reason.alwaysDelivered_eq_false]
    simp

/-- Before a shutdown the worker is as it was at its first look, and only requests wait. -/
theorem Known.looked_iff_of_open (known : Known sent before)
    (step : before.step .decide = some after)
    (delivering : before.shared.worker = .delivering request analysis)
    (open_ : before.shared.lifecycle ≠ .stopped) :
    (before.worker = .looked true ↔ request.reason ≠ .fullTypeCheck) ∧
      .terminate ∉ before.shared.mailbox.toList := by
  have between : before.shutdown = .between := by
    apply Classical.byContradiction
    intro midway
    exact open_ (known.underway midway).1
  have orderly := known.sound.orderly.uncancelled (by simpa using open_)
  simp only [whole, between] at orderly
  refine ⟨?_, orderly.2.2⟩
  have decided : ∃ droppable, before.worker = .looked droppable := by
    cases rule_of_step step with
    | superseded point | lost point | completed point => exact ⟨_, point⟩
  rcases decided with ⟨droppable, point⟩
  have fits := known.fits
  simp only [Fits, point] at fits
  rcases fits with ⟨other, _, same, _, exact⟩
  cases delivering.symm.trans same
  rw [← Reason.alwaysDelivered_eq_false, point, exact orderly.1]
  simp

/-- A scheduler that is stopped throws nothing out of its queue. -/
theorem open_of_displaced {before after : Scheduler Snapshot Callback Output}
    {event : Event Snapshot Callback Output} (rule : before.Rule event after)
    (pending : before.outcome? id = none) (displaced : after.outcome? id = some .displaced) :
    before.lifecycle ≠ .stopped := by
  cases rule with
  | enqueued found open_ | openedRecent _ open_ | openedInline _ open_ | openedQueued _ open_ =>
    exact open_
  | turnedAway | failedCall | cancelledCall | faultedCall | deliveredCall | skipped | failed
  | gaveUp | recordFaulted | superseded | completed | stopping | gaveUpRequest =>
    cases (Completion.eq_of_recorded_endAll pending displaced).2
  | _ => cases pending.symm.trans displaced

/-- A request that waited is thrown out where another one enters the queue. -/
theorem Known.displaced_of_step (known : Known sent before) (step : before.step move = some after)
    (pending : before.shared.outcome? id = none)
    (displaced : after.shared.outcome? id = some .displaced) :
    ∃ kept ∈ before.shared.waiting, ∃ newer ∈ (Passage.mk before move after).sent, kept.id = id ∧
      [kept, newer].Sublist (sent ++ (Passage.mk before move after).sent) ∧
      (newer.reason.lane = .interactive ∨
        newer.reason.lane = .background ∧ kept.reason.lane = .background) := by
  cases rule_of_step step with
  | @event event next admitted stepped =>
    have rule := Scheduler.rule_of_step stepped
    have between : before.shutdown = .between := by
      apply Classical.byContradiction
      intro midway
      exact open_of_displaced rule pending displaced (known.underway midway).1
    have ordered := known.ordered
    simp only [whole, between] at ordered
    rw [Passage.sent_event]
    generalize dropped : (Outcome.displaced : Outcome Output) = outcome at displaced
    cases ordered.sound.drops rule pending displaced (.inl dropped.symm) with
    | displaced waits enters wins =>
      rcases ordered.sublist_of_enters waits enters with ⟨new, order⟩
      exact ⟨_, waits, _, new, rfl, order, wins⟩
    | superseded => cases dropped
  | skipped | superseded | completed | aborted =>
    cases (Completion.eq_of_recorded_endAll pending displaced).2
  | _ => cases pending.symm.trans displaced

/-- A result is dropped where the worker decides on it. -/
theorem delivering_of_superseded (step : before.step move = some after)
    (pending : before.shared.outcome? id = none)
    (superseded : after.shared.outcome? id = some .superseded) :
    move = .decide ∧ ∃ request analysis, request.id = id ∧
      before.shared.worker = .delivering request analysis := by
  cases rule_of_step step with
  | event admitted stepped =>
    exfalso
    cases Scheduler.rule_of_step stepped with
    | superseded => cases admitted
    | openedRecent | openedInline | openedQueued =>
      cases Completion.outcome_of_recorded_append pending superseded
    | turnedAway | enqueued | failedCall | cancelledCall | faultedCall | deliveredCall | skipped
    | failed | gaveUp | recordFaulted | completed | stopping | gaveUpRequest =>
      cases (Completion.eq_of_recorded_endAll pending superseded).2
    | _ => cases pending.symm.trans superseded
  | superseded looked delivering =>
    have ended := (Completion.eq_of_recorded_endAll pending superseded).1
    exact ⟨rfl, _, _, (List.mem_singleton.mp ended).symm, delivering⟩
  | skipped | completed | aborted =>
    cases (Completion.eq_of_recorded_endAll pending superseded).2
  | _ => cases pending.symm.trans superseded

/-- A result is lost with the version source before the worker looks for newer work. -/
theorem Known.faulted_of_step {payload : Payload} {now : Instant} (known : Known sent before)
    (step : before.step (.event (.workerRecord (.error payload) now)) = some after)
    (recording : before.shared.worker = .recording request analysis)
    (recorded : request.reason.updatesRecentResult = true) (whole : analysis.aborted = false) :
    after.shared.outcome? request.id = some .abandoned ∨
      after.shared.outcome? request.id = some .aborted := by
  rcases known.outcome?_of_work (by rw [recording]; rfl) rfl with ⟨born, pending | aborted⟩
  · left
    cases rule_of_step step with
    | event admitted stepped =>
      cases Scheduler.rule_of_step stepped with
      | refused submits | faulted submits | openedRecent submits | openedInline submits
      | openedQueued submits => cases submits
      | recordFaulted recording' fault =>
        cases recording.symm.trans recording'
        exact Scheduler.outcome?_of_ended rfl (List.mem_singleton_self _) born pending
      | recorded recording' records =>
        cases recording.symm.trans recording'
        simp [Scheduler.recordResult, recorded, whole] at records
  · exact .inr (known.outcome?_of_step step aborted)

section Order

variable {scheduler : Scheduler Snapshot Callback Output}

theorem not_justified_of_last (known : Scheduler.Ordered sent scheduler)
    (last : sent.getLast? = some request) : ¬ Justified sent request.id := by
  rintro ⟨other, newer, same, order, _⟩
  cases known.eq_of_id (order.subset List.mem_cons_self) (List.mem_of_getLast? last) same
  exact not_sublist_of_getLast? known.nodup last order

/-- An interactive request gives way only to interactive ones. -/
theorem interactive_of_justified (known : Scheduler.Ordered sent scheduler)
    (member : request ∈ sent) (interactive : request.reason.lane = .interactive)
    (justified : Justified sent request.id) :
    ∃ newer, newer.reason.lane = .interactive ∧ [request, newer].Sublist sent := by
  rcases justified with ⟨other, newer, same, order, wins⟩
  cases known.eq_of_id (order.subset List.mem_cons_self) member same
  rcases wins with wins | wins
  · exact ⟨newer, wins, order⟩
  · exact ⟨newer, wins.trans interactive, order⟩

theorem not_justified_of_lastInteractive (known : Scheduler.Ordered sent scheduler)
    (last : lastInteractive sent = some request) : ¬ Justified sent request.id := by
  intro justified
  have interactive := lane_of_lastInteractive last
  have member := (List.mem_filter.mp (List.mem_of_getLast? last)).1
  rcases interactive_of_justified known member interactive justified with ⟨newer, wins, order⟩
  have among := order.filter fun request => request.reason.lane = .interactive
  rw [List.filter_eq_self.mpr (by simp [interactive, wins])] at among
  exact not_sublist_of_getLast? (known.nodup.filter _) last among

end Order

section Runs

variable {config : Config} {sufficient : Reason → Bool}

/-- What was sent before a passage, and what was sent after it. -/
theorem known_of_mem (run : (new config sufficient).run moves = some final)
    (member : passage ∈ (new config sufficient).trace moves) :
    ∃ sent rest later, Known sent passage.before ∧
      passage.before.step passage.move = some passage.after ∧
      passage.after.run later = some final ∧
      (new config sufficient).sentOf moves = sent ++ passage.sent ++ rest := by
  rcases exists_split_of_mem run member with ⟨past, later, pastRun, step, laterRun, traces⟩
  refine ⟨_, passage.after.sentOf later, later, known_of_run pastRun, step, laterRun, ?_⟩
  rw [sentOf, traces, List.flatMap_append, List.flatMap_cons, ← List.append_assoc]
  rfl

/-- An outcome was recorded in some passage of the run. -/
theorem exists_ending (run : (new config sufficient).run moves = some final)
    (settled : final.shared.outcome? id = some outcome) :
    ∃ passage ∈ (new config sufficient).trace moves,
      passage.before.shared.outcome? id = none ∧
        passage.after.shared.outcome? id = some outcome := by
  have along := (known_new config sufficient).induction
    (motive := fun past state => ∀ outcome, state.shared.outcome? id = some outcome →
      ∃ passage ∈ past, passage.before.shared.outcome? id = none ∧
        passage.after.shared.outcome? id = some outcome) nofun ?_ run
  · exact along.2 outcome settled
  · intro past before move after known ended step outcome settled
    cases recorded : before.shared.outcome? id with
    | none =>
      exact ⟨_, List.mem_append_right past (List.mem_singleton_self _), recorded, settled⟩
    | some earlier =>
      cases (known.outcome?_of_step step recorded).symm.trans settled
      rcases ended _ recorded with ⟨passage, member, crossing⟩
      exact ⟨passage, List.mem_append_left _ member, crossing⟩

/-- A request that was thrown out of the queue was so for a newer one. -/
theorem justified_of_displaced (run : (new config sufficient).run moves = some final)
    (displaced : final.shared.outcome? id = some .displaced) :
    Justified ((new config sufficient).sentOf moves) id := by
  rcases exists_ending run displaced with ⟨passage, member, pending, ended⟩
  rcases known_of_mem run member with ⟨sent, rest, _, known, step, _, split⟩
  rcases known.displaced_of_step step pending ended with ⟨kept, _, newer, _, own, order, wins⟩
  refine ⟨kept, newer, own, ?_, ?_⟩
  · rw [split]
    exact order.trans (List.sublist_append_left _ _)
  · rcases wins with interactive | ⟨background, same⟩
    · exact .inl interactive
    · exact .inr (background.trans same.symm)

/-- What the worker decides on the request whose analysis it has, and what becomes of it. -/
theorem superseded_iff (run : (new config sufficient).run moves = some final)
    (member : passage ∈ (new config sufficient).trace moves) (decides : passage.move = .decide)
    (delivering : passage.before.shared.worker = .delivering request analysis) :
    final.shared.outcome? request.id = some .superseded ↔
      passage.before.worker = .looked true ∧
        passage.before.shared.outcome? request.id ≠ some .aborted ∧
        ((∃ newer ∈ passage.before.shared.waiting, newer.reason.lane = request.reason.lane ∧
            [request, newer].Sublist ((new config sufficient).sentOf moves)) ∨
          request.reason.lane = .interactive ∧
            .terminate ∈ passage.before.shared.mailbox.toList) := by
  rcases known_of_mem run member with ⟨sent, rest, later, known, step, laterRun, split⟩
  have after := known.step step
  rw [decides] at step
  rcases known.superseded_of_decide step delivering with ⟨ended, law⟩
  rcases Option.isSome_iff_exists.mp ended with ⟨outcome, settled⟩
  rw [settled, ← after.outcome?_run laterRun settled, contains_iff] at law
  rw [law]
  have order {newer : Request Snapshot Callback} (waits : newer ∈ passage.before.shared.waiting) :
      [request, newer].Sublist ((new config sufficient).sentOf moves) := by
    have sublist := known.sublist_of_waiting (by rw [delivering]; rfl) waits
    rw [split, List.append_assoc]
    exact sublist.trans (List.sublist_append_left _ _)
  constructor
  · rintro ⟨looked, unaborted, ⟨newer, waits, same⟩ | terminated⟩
    · exact ⟨looked, unaborted, .inl ⟨newer, waits, same, order waits⟩⟩
    · exact ⟨looked, unaborted, .inr terminated⟩
  · rintro ⟨looked, unaborted, ⟨newer, waits, same, _⟩ | terminated⟩
    · exact ⟨looked, unaborted, .inl ⟨newer, waits, same⟩⟩
    · exact ⟨looked, unaborted, .inr terminated⟩

/-- Before a shutdown the two looks of the worker are as good as one. -/
theorem superseded_iff_of_open (run : (new config sufficient).run moves = some final)
    (member : passage ∈ (new config sufficient).trace moves) (decides : passage.move = .decide)
    (delivering : passage.before.shared.worker = .delivering request analysis)
    (open_ : passage.before.shared.lifecycle ≠ .stopped) :
    final.shared.outcome? request.id = some .superseded ↔
      request.reason ≠ .fullTypeCheck ∧
        passage.before.shared.outcome? request.id ≠ some .aborted ∧
        ∃ newer ∈ passage.before.shared.waiting, newer.reason.lane = request.reason.lane ∧
          [request, newer].Sublist ((new config sufficient).sentOf moves) := by
  rcases known_of_mem run member with ⟨_, _, _, known, step, _, _⟩
  rw [decides] at step
  rcases known.looked_iff_of_open step delivering open_ with ⟨looked, noOrder⟩
  rw [superseded_iff run member decides delivering, looked]
  simp [noOrder]

/-- A result was dropped for a newer request or between the two looks. -/
theorem justified_of_superseded (run : (new config sufficient).run moves = some final)
    (superseded : final.shared.outcome? id = some .superseded) :
    Justified ((new config sufficient).sentOf moves) id ∨
      Caught ((new config sufficient).trace moves) id := by
  rcases exists_ending run superseded with ⟨passage, member, pending, ended⟩
  rcases known_of_mem run member with ⟨_, _, _, _, step, _, _⟩
  rcases delivering_of_superseded step pending ended
    with ⟨decides, request, analysis, rfl, delivering⟩
  rcases (superseded_iff run member decides delivering).mp superseded
    with ⟨looked, _, ⟨newer, _, same, order⟩ | ⟨interactive, terminated⟩⟩
  · exact .inl ⟨request, newer, rfl, order, .inr same⟩
  · right
    exact ⟨passage, member, request, analysis, rfl, decides, looked, delivering, interactive,
      terminated⟩

/-- Requests are dropped only for newer work, over every run, but for an interactive result that a
shutdown catches between the two looks of the worker. The law of the two looks is exact, and as long as
no shutdown has begun it says that a result is dropped if and only if it is no full check, was not
aborted and a newer request of its lane waits. A result that is lost with the version source is not
dropped for newer work. -/
theorem dropped_for_newer (run : (new config sufficient).run moves = some final) :
    let sent := (new config sufficient).sentOf moves
    let passages := (new config sufficient).trace moves
    (∀ id, final.shared.outcome? id = some .displaced →
      ∃ passage ∈ passages, passage.after.shared.outcome? id = some .displaced ∧
        ∃ kept ∈ passage.before.shared.waiting, ∃ newer ∈ passage.sent, kept.id = id ∧
          [kept, newer].Sublist sent ∧ (newer.reason.lane = .interactive ∨
            newer.reason.lane = .background ∧ kept.reason.lane = .background)) ∧
    (∀ id, final.shared.outcome? id = some .superseded →
      ∃ passage ∈ passages, ∃ request analysis, request.id = id ∧ passage.move = .decide ∧
        passage.before.shared.worker = .delivering request analysis) ∧
    (∀ passage ∈ passages, ∀ request analysis, passage.move = .look →
      passage.before.shared.worker = .delivering request analysis →
      (passage.after.worker = .looked true ↔
        request.reason ≠ .fullTypeCheck ∧ passage.before.shared.lifecycle ≠ .stopped)) ∧
    (∀ passage ∈ passages, ∀ request analysis, passage.move = .decide →
      passage.before.shared.worker = .delivering request analysis →
      (final.shared.outcome? request.id = some .superseded ↔
        passage.before.worker = .looked true ∧
          passage.before.shared.outcome? request.id ≠ some .aborted ∧
          ((∃ newer ∈ passage.before.shared.waiting, newer.reason.lane = request.reason.lane ∧
              [request, newer].Sublist sent) ∨
            request.reason.lane = .interactive ∧
              .terminate ∈ passage.before.shared.mailbox.toList)) ∧
      (passage.before.shared.lifecycle ≠ .stopped →
        (final.shared.outcome? request.id = some .superseded ↔
          request.reason ≠ .fullTypeCheck ∧
            passage.before.shared.outcome? request.id ≠ some .aborted ∧
            ∃ newer ∈ passage.before.shared.waiting, newer.reason.lane = request.reason.lane ∧
              [request, newer].Sublist sent))) ∧
    (∀ passage ∈ passages, ∀ request analysis payload now,
      passage.move = .event (.workerRecord (.error payload) now) →
      passage.before.shared.worker = .recording request analysis →
      request.reason.updatesRecentResult = true → analysis.aborted = false →
      final.shared.outcome? request.id = some .abandoned ∨
        final.shared.outcome? request.id = some .aborted) ∧
    (∀ request ∈ sent, request.reason.lane = .interactive → final.shared.Dropped request.id →
      (∃ newer, newer.reason.lane = .interactive ∧ [request, newer].Sublist sent) ∨
        final.shared.outcome? request.id = some .superseded ∧ Caught passages request.id) ∧
    (∀ request, sent.getLast? = some request ∨ lastInteractive sent = some request →
      final.shared.Dropped request.id →
        final.shared.outcome? request.id = some .superseded ∧ Caught passages request.id) := by
  intro sent passages
  have ordered := (known_of_run run).ordered
  have way {id : RequestId} (dropped : final.shared.Dropped id) :
      Justified sent id ∨
        final.shared.outcome? id = some .superseded ∧ Caught passages id := by
    rcases dropped with displaced | superseded
    · exact .inl (justified_of_displaced run displaced)
    · rcases justified_of_superseded run superseded with justified | caught
      · exact .inl justified
      · exact .inr ⟨superseded, caught⟩
  refine ⟨?_, ?_, ?_, ?_, ?_, ?_, ?_⟩
  · intro id displaced
    rcases exists_ending run displaced with ⟨passage, member, pending, ended⟩
    rcases known_of_mem run member with ⟨earlier, rest, _, known, step, _, split⟩
    rcases known.displaced_of_step step pending ended
      with ⟨kept, waits, newer, new, own, order, wins⟩
    refine ⟨passage, member, ended, kept, waits, newer, new, own, ?_, wins⟩
    rw [show sent = earlier ++ passage.sent ++ rest from split]
    exact order.trans (List.sublist_append_left _ _)
  · intro id superseded
    rcases exists_ending run superseded with ⟨passage, member, pending, ended⟩
    rcases known_of_mem run member with ⟨_, _, _, _, step, _, _⟩
    rcases delivering_of_superseded step pending ended
      with ⟨decides, request, analysis, own, delivering⟩
    exact ⟨passage, member, request, analysis, own, decides, delivering⟩
  · intro passage member request analysis looks delivering
    rcases known_of_mem run member with ⟨_, _, _, known, step, _, _⟩
    rw [looks] at step
    exact known.looked_iff step delivering
  · intro passage member request analysis decides delivering
    refine ⟨superseded_iff run member decides delivering, ?_⟩
    exact superseded_iff_of_open run member decides delivering
  · intro passage member request analysis payload now faults recording recorded unaborted
    rcases known_of_mem run member with ⟨_, _, later, known, step, laterRun, _⟩
    have after := known.step step
    rw [faults] at step
    rcases known.faulted_of_step step recording recorded unaborted with abandoned | aborted
    · exact .inl (after.outcome?_run laterRun abandoned)
    · exact .inr (after.outcome?_run laterRun aborted)
  · intro request member interactive dropped
    rcases way dropped with justified | caught
    · exact .inl (interactive_of_justified ordered member interactive justified)
    · exact .inr caught
  · intro request last dropped
    rcases way dropped with justified | caught
    · rcases last with last | last
      · exact absurd justified (not_justified_of_last ordered last)
      · exact absurd justified (not_justified_of_lastInteractive ordered last)
    · exact caught

end Runs

/-- A goto whose result is looked at by the worker while a shutdown comes. -/
def caughtGoto : List (Move Unit Unit Unit) :=
  [.event (.submit { source := ⟨"a"⟩, position := {}, reason := .goto, snapshot := () } (.ok {}) 0),
    .event (.enqueue 0 .started), .event .workerPoll, .event .workerReceive, .publish, .mark, .count,
    .call, .event (.workerAnswer (.ok (.ok ⟨none, {}, false⟩))),
    .event (.workerRecord (.ok {}) 0), .look, .fire, .drain, .decide]

/-- The only request of a run, which is interactive and has its analysis, is dropped for newer work. -/
theorem caughtGoto_dropped : ∃ (final : Interleaved Unit Unit Unit) (request : Request Unit Unit),
    (new .default fun _ => false).run caughtGoto = some final ∧
      (new .default fun _ => false : Interleaved Unit Unit Unit).sentOf caughtGoto = [request] ∧
      request.reason = .goto ∧ final.shared.outcome? request.id = some .superseded :=
  ⟨_, _, rfl, rfl, rfl, rfl⟩

/-- A parse whose result is lost with the version source while another one waits. -/
def faultedParse : List (Move Unit Unit Unit) :=
  let submission : Submission Unit Unit :=
    { source := ⟨"a"⟩, position := {}, reason := .parseFile, snapshot := () }
  [.event (.submit submission (.ok {}) 0), .event (.enqueue 0 .started), .event .workerPoll,
    .event .workerReceive, .publish, .mark, .count, .call, .event (.submit submission (.ok {}) 0),
    .event (.enqueue 1 .started), .event (.workerAnswer (.ok (.ok ⟨none, {}, false⟩))),
    .event (.workerRecord (.error (.literal "no version")) 0)]

theorem dropped_for_newer_caughtGoto : ∃ caught faulted : Interleaved Unit Unit Unit,
    (new .default fun _ => false).run caughtGoto = some caught ∧
      ((new .default fun _ => false).sentOf caughtGoto).map (fun request => request.id) = [0] ∧
      caught.shared.outcome? 0 = some .superseded ∧
      Caught ((new .default fun _ => false).trace caughtGoto) 0 ∧
      (new .default fun _ => false).run faultedParse = some faulted ∧
      (faulted.shared.waiting.map fun request => request.id) = [1] ∧
      faulted.shared.outcome? 0 ≠ some .superseded := by
  have run : (new .default fun _ => false : Interleaved Unit Unit Unit).run caughtGoto =
    some _ := rfl
  have faultedRun : (new .default fun _ => false : Interleaved Unit Unit Unit).run faultedParse =
    some _ := rfl
  have fault : ((new .default fun _ => false : Interleaved Unit Unit Unit).trace
    faultedParse).getLast? = some _ := rfl
  rcases dropped_for_newer run with ⟨_, _, _, _, _, _, last⟩
  rcases dropped_for_newer faultedRun with ⟨_, _, _, _, faulted, _, _⟩
  have caught := (last _ (.inl rfl) (.inr rfl)).2
  have ended := faulted _ (List.mem_of_getLast? fault) _ _ _ _ rfl rfl rfl rfl
  refine ⟨_, _, run, rfl, rfl, caught, faultedRun, rfl, ?_⟩
  intro superseded
  rcases ended with abandoned | aborted
  · cases abandoned.symm.trans superseded
  · cases aborted.symm.trans superseded

end Interleaved

end EditorAnalysis
