import EditorAnalysis.Proofs.Scheduler.RecentResult
import Mathlib.Tactic.IntervalCases

/-!
# The recent result in the order of versions

Analyses come back in any order, with whatever version the analyzer gives them. What keeps the
recent result from going back is that an analysis is remembered only with the version that its
buffer has when it is recorded. So if buffers only ever get newer, an entry is never newer than its
buffer, and one entry after the other is at least as new (`Scheduler.recent_result_ascends`).

When a transition happens is its place in the run, and a `Clock` says what the version source has to
say at a time.
-/

namespace EditorAnalysis

variable {Snapshot Callback Output : Type}

/-- The version of each document at each time. -/
abbrev Clock := Nat → SourceId → Version

/-- No document gets an older version. -/
def Clock.Ascends (clock : Clock) : Prop :=
  ∀ source earlier later, earlier ≤ later →
    (clock earlier source).count ≤ (clock later source).count

namespace Transition

variable (transition : Transition Snapshot Callback Output)

/-- The document whose version is asked for, with the answer of the version source. -/
def asked? : Option (SourceId × Attempt Version) :=
  match transition.event with
  | .submit submission reading _ =>
      if transition.before.lifecycle = .stopped then none else some (submission.source, reading)
  | .idle trigger reading _ =>
      if transition.before.idleDecision trigger.needsRefresh trigger.quiet ≠ .submit ∨
          transition.before.lifecycle = .stopped then none
      else some (trigger.source, reading)
  | _ =>
      transition.recorded?.bind fun (answered, reading) =>
        if answered.request.reason.updatesRecentResult && !answered.analysis.aborted then
          some (answered.request.source, reading)
        else none

end Transition

/-- The version source answers by a clock, if it does not raise an exception. -/
def Consults (clock : Clock) (transitions : List (Transition Snapshot Callback Output)) : Prop :=
  ∀ (time : Nat) (transition : Transition Snapshot Callback Output) (source : SourceId)
    (version : Version), transitions[time]? = some transition →
      transition.asked? = some (source, .ok version) → version = clock time source

section Clocks

variable {clock : Clock} {earlier later : List (Transition Snapshot Callback Output)}

theorem Consults.left (consults : Consults clock (earlier ++ later)) : Consults clock earlier := by
  intro time transition source version found asked
  apply consults time transition source version _ asked
  rw [List.getElem?_append_left (List.getElem?_eq_some_iff.mp found).1]
  exact found

theorem Consults.right (consults : Consults clock (earlier ++ later)) :
    Consults (fun time => clock (earlier.length + time)) later := by
  intro time transition source version found asked
  apply consults _ transition source version _ asked
  rw [List.getElem?_append_right (Nat.le_add_right _ _), Nat.add_sub_cancel_left]
  exact found

theorem Consults.last {transition : Transition Snapshot Callback Output} {source : SourceId}
    {version : Version} (consults : Consults clock (earlier ++ [transition]))
    (asked : transition.asked? = some (source, .ok version)) :
    version = clock earlier.length source := by
  apply consults _ transition source version _ asked
  simp

end Clocks

namespace Scheduler

variable {scheduler before after final : Scheduler Snapshot Callback Output}
  {event : Event Snapshot Callback Output} {events : List (Event Snapshot Callback Output)}
  {transition : Transition Snapshot Callback Output} {clock : Clock}

/-- An analysis is remembered with the version its document was found to have. -/
theorem asked?_of_qualified? {entry : RecentResult Output}
    (fit : transition.qualified? = some entry) :
    transition.asked? = some (entry.source, .ok entry.analysis.version) := by
  rcases Option.bind_eq_some_iff.mp fit with ⟨⟨answered, reading⟩, recorded, fit⟩
  cases reading with
  | error payload => cases fit
  | ok current =>
    simp only [Answered.entry?] at fit
    split at fit
    · next conditions =>
      rcases conditions with ⟨remembers, finished, fresh, _⟩
      have updates := updatesRecentResult_iff.mpr remembers
      cases fit
      rcases transition with ⟨before, event, after⟩
      cases event with
      | recordCall | workerRecord =>
        simp [Transition.asked?, recorded, updates, finished, fresh]
      | _ => cases recorded
    · cases fit

theorem Submits.asked? {submission : Submission Snapshot Callback} {idleTriggered : Bool}
    {reading : Attempt Version} {now : Instant}
    (submits : before.Submits event submission idleTriggered reading now)
    (open_ : before.lifecycle ≠ .stopped) :
    (Transition.mk before event after).asked? = some (submission.source, reading) := by
  cases submits with
  | submit => simp [Transition.asked?, open_]
  | idle reading now decided =>
    simp [Transition.asked?, open_, decided, IdleTrigger.submission]

theorem slot_of_rule {entry : RecentResult Output} (rule : before.Rule event after)
    (held : after.cache.slot = some entry) : before.cache.slot = some entry ∨
      (Transition.mk before event after).qualified? = some entry := by
  cases switches : (Transition.mk before event after).switches with
  | true => simp [slot_of_switches rule switches] at held
  | false =>
    rw [slot_of_not_switches rule switches, Option.or_eq_some_iff] at held
    rcases held with new | ⟨_, old⟩
    · exact .inr new
    · exact .inl old

/-- From a time on, the entry in the slot is never newer than its document. -/
def Dated (clock : Clock) (time : Nat) (scheduler : Scheduler Snapshot Callback Output) : Prop :=
  ∀ entry ∈ scheduler.cache.slot, ∀ later, time ≤ later →
    entry.analysis.version.count ≤ (clock later entry.source).count

theorem dated_new (clock : Clock) (config : Config) (sufficient : Reason → Bool) :
    (new config sufficient : Scheduler Snapshot Callback Output).Dated clock 0 := by
  intro entry held
  cases held

theorem Dated.step {past : List (Transition Snapshot Callback Output)}
    (dated : before.Dated clock past.length) (ascends : clock.Ascends)
    (rule : before.Rule event after)
    (consults : Consults clock (past ++ [⟨before, event, after⟩])) :
    after.Dated clock (past.length + 1) := by
  intro entry held late next
  rcases slot_of_rule rule held with old | new
  · exact dated entry old late (by omega)
  · rw [consults.last (asked?_of_qualified? new)]
    exact ascends entry.source past.length late (by omega)

/-- The time is the length of the run so far, and the hypothesis on the answers grows with it. -/
theorem Dated.run (dated : scheduler.Dated clock 0) (ascends : clock.Ascends)
    (run : scheduler.run events = some final) (consults : Consults clock (scheduler.trace events)) :
    final.Dated clock events.length := by
  rw [← length_trace run]
  apply run_induction
    (motive := fun past state => Consults clock past → state.Dated clock past.length)
    (fun _ => dated) ?_ run consults
  intro past before event after known step consults
  rw [List.length_append, List.length_singleton]
  exact (known consults.left).step ascends (rule_of_step step) consults

/-- What comes into the slot after an entry, for the same document, is at least as new. -/
theorem count_le_of_run {entry : RecentResult Output} (run : scheduler.run events = some final)
    (consults : Consults clock (scheduler.trace events)) (held : scheduler.cache.slot = some entry)
    (dated : ∀ time, entry.analysis.version.count ≤ (clock time entry.source).count) :
    ∀ newer ∈ final.cache.slot, newer.source = entry.source →
      entry.analysis.version.count ≤ newer.analysis.version.count := by
  apply run_induction
    (motive := fun past state => Consults clock past → ∀ newer ∈ state.cache.slot,
      newer.source = entry.source →
        entry.analysis.version.count ≤ newer.analysis.version.count) ?_ ?_ run consults
  · intro _ newer same _
    rw [held] at same
    cases same
    exact UInt64.le_refl _
  · intro past before event after known step consults newer slot same
    rcases slot_of_rule (rule_of_step step) slot with old | new
    · exact known consults.left newer old same
    · rw [consults.last (asked?_of_qualified? new), same]
      exact dated past.length

/-- As long as the active document stays, so does an entry for it. -/
theorem exists_newer_of_run {entry : RecentResult Output} (run : scheduler.run events = some final)
    (held : scheduler.cache.slot = some entry)
    (active : scheduler.cache.active = some entry.source)
    (stays : ∀ transition ∈ scheduler.trace events, transition.switches = false) :
    ∃ newer ∈ final.cache.slot, newer.source = entry.source := by
  have known := run_induction
    (motive := fun past state => (∀ transition ∈ past, transition.switches = false) →
      state.cache.active = some entry.source ∧
        ∃ newer ∈ state.cache.slot, newer.source = entry.source)
    (fun _ => ⟨active, entry, held, rfl⟩) ?_ run
  · exact (known stays).2
  · intro past before event after known step stays
    have rule := rule_of_step step
    have stay : (Transition.mk before event after).switches = false :=
      stays _ (List.mem_append_right _ (List.mem_singleton_self _))
    rcases known fun other member => stays other (List.mem_append_left _ member)
      with ⟨active, old, oldHeld, oldSource⟩
    have same : before.cache.active = after.cache.active := bne_eq_false_iff_eq.mp stay
    refine ⟨same ▸ active, ?_⟩
    rw [slot_of_not_switches rule stay]
    cases fit : (Transition.mk before event after).qualified? with
    | none => exact ⟨old, oldHeld, oldSource⟩
    | some newest =>
      have newestActive := active_of_qualified? fit
      have sources : some newest.source = some entry.source := newestActive.symm.trans active
      exact ⟨newest, rfl, Option.some.inj sources⟩

theorem slot_of_path {submission : Submission Snapshot Callback} {analysis : Analysis Output}
    (path : scheduler.path submission = .recent analysis) :
    scheduler.cache.slot = some ⟨submission.source, analysis⟩ := by
  have phase : (scheduler.path submission).phase = .callingBack analysis := by
    rw [path]
    rfl
  exact (phase_eq_callingBack_iff.mp phase).held

theorem Dated.hit {answered : Answered Snapshot Callback Output} {time : Nat}
    (dated : before.Dated clock time) (sound : before.Sound) (rule : before.Rule event after)
    (hit : answered ∈ (Transition.mk before event after).hits)
    (answers : ∀ source version,
      (Transition.mk before event after).asked? = some (source, .ok version) →
        version = clock time source) :
    answered.request.bufferVersion = clock time answered.request.source ∧
      answered.analysis.version.count ≤ answered.request.bufferVersion.count := by
  rcases sound.submits_of_hit rule hit
    with ⟨submission, idleTriggered, version, now, submits, open_, path, built⟩
  have asked := answers submission.source version (submits.asked? open_)
  have bound := dated _ (slot_of_path path) time (Nat.le_refl time)
  have present : answered.request.bufferVersion = clock time answered.request.source := by
    rw [built]
    exact asked
  have source : answered.request.source = submission.source := by rw [built]; rfl
  refine ⟨present, ?_⟩
  rw [present, source]
  exact bound

/-- The recent result never goes back while its document stays the active one, and even if another
document is active in between it never comes back older. A request that it answers is completed with
a version that is at most its own, and the result is current at that moment exactly if the versions
are equal. -/
theorem recent_result_ascends {config : Config} {sufficient : Reason → Bool}
    (run : (new config sufficient).run events = some final) (ascends : clock.Ascends)
    (consults : Consults clock ((new config sufficient).trace events)) :
    (∀ earlier later start, events = earlier ++ later →
      (new config sufficient).run earlier = some start → ∀ entry ∈ start.cache.slot,
        (∀ newer ∈ final.cache.slot, newer.source = entry.source →
          entry.analysis.version.count ≤ newer.analysis.version.count) ∧
        ((∀ transition ∈ start.trace later, transition.switches = false) →
          ∃ newer ∈ final.cache.slot, newer.source = entry.source ∧
            entry.analysis.version.count ≤ newer.analysis.version.count)) ∧
    (∀ (time : Nat) (transition : Transition Snapshot Callback Output),
      ((new config sufficient).trace events)[time]? = some transition →
      ∀ answered ∈ transition.hits,
        final.outcome? answered.request.id = some (.completed answered.analysis) ∧
        answered.analysis.version.count ≤ answered.request.bufferVersion.count ∧
        (Freshness.of (some answered.analysis.version) (clock time answered.request.source) =
          .current ↔ answered.analysis.version = answered.request.bufferVersion)) := by
  constructor
  · rintro earlier later start rfl startRun entry held
    have laterRun : start.run later = some final := by
      rw [run_append, startRun] at run
      exact run
    rw [trace_append startRun] at consults
    have dated := (dated_new clock config sufficient).run ascends startRun consults.left
    have newer := count_le_of_run laterRun consults.right held fun time => by
      rw [length_trace startRun]
      exact dated entry held _ (Nat.le_add_right _ _)
    refine ⟨newer, ?_⟩
    intro stays
    have active := (remembers_of_run startRun).tagged entry held
    rcases exists_newer_of_run laterRun held active stays with ⟨next, nextHeld, same⟩
    exact ⟨next, nextHeld, same, newer next nextHeld same⟩
  · intro time transition found answered hit
    rcases exists_split_of_trace run found with ⟨past, _, _, length, before, step, after, traces⟩
    have answers := fun source version => consults time transition source version found
    rw [traces] at consults
    have dated := (dated_new clock config sufficient).run ascends before consults.left
    have sound := (sound_new config sufficient).run before
    have rule := rule_of_step step
    rw [length] at dated
    rcases dated.hit sound rule hit answers with ⟨present, bound⟩
    have calling := ((Transition.mem_newIn _).mp (List.mem_filter.mp hit).1).1
    have completed := (sound.of_rule rule).outcome?_of_callingBack calling
    refine ⟨(sound.of_rule rule).outcome?_run after completed, bound, ?_⟩
    rw [← present]
    simp [Freshness.of]

/-- A check during which a parse comes and is done first, and whose own analysis is of an older
version, and then a goto. -/
def overtakenCheck : List (Event Unit Unit Unit) :=
  let check : Submission Unit Unit :=
    { source := ⟨"a"⟩, position := {}, reason := .fullTypeCheck, snapshot := (),
      synchronous := true, requireFresh := true }
  [.setActive (some ⟨"a"⟩), .submit check (.ok ⟨2⟩) 0,
    .submit { check with reason := .parseFile } (.ok ⟨2⟩) 0,
    .answerCall 1 (.ok (.ok { version := ⟨2⟩, payload := () })), .recordCall 1 (.ok ⟨2⟩) 0,
    .returnCall 1, .answerCall 0 (.ok (.ok { version := ⟨1⟩, payload := () })),
    .recordCall 0 (.ok ⟨2⟩) 0, .returnCall 0,
    .submit { check with reason := .goto, requireFresh := false } (.ok ⟨3⟩) 0]

/-- A document that changes at the last event of an overtaken check. -/
def lateChange : Clock := fun time _ => if time < 9 then ⟨2⟩ else ⟨3⟩

theorem ascends_lateChange : lateChange.Ascends := by
  intro source earlier later before
  unfold lateChange
  by_cases early : earlier < 9
  · rw [if_pos early]
    split <;> decide
  · rw [if_neg early, if_neg (by omega)]
    exact UInt64.le_refl _

theorem consults_lateChange : Consults lateChange
    ((new .default fun _ => true : Scheduler Unit Unit Unit).trace overtakenCheck) := by
  intro time transition source version found asked
  have bound : time < 10 := (List.getElem?_eq_some_iff.mp found).1
  interval_cases time <;> cases found <;> cases asked <;> rfl

theorem recent_result_ascends_overtakenCheck : ∃ start final : Scheduler Unit Unit Unit,
    (new .default fun _ => true).run (overtakenCheck.take 6) = some start ∧
      (new .default fun _ => true).run overtakenCheck = some final ∧
      (∃ entry newer, start.cache.slot = some entry ∧ final.cache.slot = some newer ∧
        entry.analysis.version.count ≤ newer.analysis.version.count) ∧
      final.outcome? 2 = some (.completed { version := ⟨2⟩, payload := () }) ∧
      Freshness.of (some ⟨2⟩) (lateChange 9 ⟨"a"⟩) ≠ .current := by
  have startRun : (new .default fun _ => true : Scheduler Unit Unit Unit).run
    (overtakenCheck.take 6) = some _ := rfl
  have run : (new .default fun _ => true : Scheduler Unit Unit Unit).run overtakenCheck =
    some _ := rfl
  rcases recent_result_ascends run ascends_lateChange consults_lateChange with ⟨kept, answered⟩
  rcases (kept (overtakenCheck.take 6) (overtakenCheck.drop 6) _ rfl startRun _ rfl).2
    (by decide) with ⟨newer, held, _, newerVersion⟩
  rcases answered 9 _ rfl _ (.head _) with ⟨completed, _, fresh⟩
  exact ⟨_, _, startRun, run, ⟨_, newer, rfl, held, newerVersion⟩, completed, fun current => by
    have same := fresh.mp current
    cases same⟩

end Scheduler

end EditorAnalysis
