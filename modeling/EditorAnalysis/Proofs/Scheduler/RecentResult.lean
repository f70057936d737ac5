import EditorAnalysis.Proofs.Scheduler.Callback
import Mathlib.Data.List.DropRight

/-!
# The content of the recent result

The slot of the recent result is written by two threads, the worker and a submitting one, and cleared
by a third that changes the active document. Whatever the threads do in between, the slot can be read
off the run: it holds the last analysis that was fit for it when it was recorded, among those recorded
since the active document last changed (`Scheduler.recent_result_exact`).
-/

namespace EditorAnalysis

variable {Snapshot Callback Output : Type}

/-- What the slot is to hold once an analysis is recorded, given the active document and what the
version source says. -/
def Answered.entry? (active : Option SourceId) (reading : Attempt Version)
    (answered : Answered Snapshot Callback Output) : Option (RecentResult Output) :=
  match reading with
  | .error _ => none
  | .ok current =>
      if (answered.request.reason = .fullTypeCheck ∨ answered.request.reason = .parseFile) ∧
          answered.analysis.aborted = false ∧ answered.analysis.version = current ∧
          active = some answered.request.source then
        some ⟨answered.request.source, answered.analysis⟩
      else none

/-- The document that an event makes the active one. -/
def Event.activated? : Event Snapshot Callback Output → Option (Option SourceId)
  | .setActive source => some source
  | _ => none

namespace Transition

variable (transition : Transition Snapshot Callback Output)

/-- The analysis that an analyzer returned, with its request. -/
def returned? : Option (Answered Snapshot Callback Output) :=
  match transition.event with
  | .answerCall id execution =>
      match transition.before.call? id, execution.verdict with
      | some ⟨request, .executing⟩, .ready analysis => some ⟨request, analysis⟩
      | _, _ => none
  | .workerAnswer execution =>
      match transition.before.worker, execution.verdict with
      | .executing request, .ready analysis => some ⟨request, analysis⟩
      | _, _ => none
  | _ => none

/-- The analysis that is recorded, with its request and what the version source says. -/
def recorded? : Option (Answered Snapshot Callback Output × Attempt Version) :=
  match transition.event with
  | .recordCall id reading _ =>
      match transition.before.call? id with
      | some ⟨request, .recording analysis⟩ => some (⟨request, analysis⟩, reading)
      | _ => none
  | .workerRecord reading _ =>
      match transition.before.worker with
      | .recording request analysis => some (⟨request, analysis⟩, reading)
      | _ => none
  | _ => none

/-- The entry that the recorded analysis is fit for. -/
def qualified? : Option (RecentResult Output) :=
  transition.recorded?.bind fun (answered, reading) =>
    answered.entry? transition.before.cache.active reading

/-- The active document changes. -/
def switches : Bool := transition.before.cache.active != transition.after.cache.active

end Transition

/-- The transitions since the active document last changed. -/
def sinceSwitch (past : List (Transition Snapshot Callback Output)) :
    List (Transition Snapshot Callback Output) :=
  past.rtakeWhile fun transition => !transition.switches

namespace Scheduler

variable {scheduler before after final : Scheduler Snapshot Callback Output}
  {event : Event Snapshot Callback Output} {events : List (Event Snapshot Callback Output)}

theorem active_of_entry? {active : Option SourceId} {reading : Attempt Version}
    {answered : Answered Snapshot Callback Output} {entry : RecentResult Output}
    (fit : answered.entry? active reading = some entry) : active = some entry.source := by
  cases reading with
  | error payload => cases fit
  | ok current =>
    simp only [Answered.entry?] at fit
    split at fit
    · next conditions =>
      cases fit
      exact conditions.2.2.2
    · cases fit

theorem updatesRecentResult_iff {reason : Reason} :
    reason.updatesRecentResult = true ↔ reason = .fullTypeCheck ∨ reason = .parseFile := by
  cases reason <;> decide

theorem record_eq (cache : RecencyCache Output) (source : SourceId) (analysis : Analysis Output) :
    cache.record source analysis = { cache with
      slot := if cache.active = some source then some ⟨source, analysis⟩ else cache.slot } := by
  unfold RecencyCache.record
  split <;> rfl

theorem active_setActive (cache : RecencyCache Output) (source : Option SourceId) :
    (cache.setActive source).active = source := by
  unfold RecencyCache.setActive
  split
  · assumption
  · rfl

/-- Recording puts the entry into the slot that the analysis is fit for, if there is one. -/
theorem cache_of_recordResult {request : Request Snapshot Callback} {analysis : Analysis Output}
    {reading : Attempt Version} {now : Instant} {recorded : Scheduler Snapshot Callback Output}
    (records : scheduler.recordResult request analysis reading now = .ok recorded) :
    recorded.cache = { scheduler.cache with
      slot := (Answered.entry? scheduler.cache.active reading ⟨request, analysis⟩).or
        scheduler.cache.slot } := by
  have remembers := cacheAfter_of_recordResult records
  unfold cacheAfter at remembers
  split at remembers
  · next updates =>
    rw [Bool.and_eq_true, updatesRecentResult_iff, Bool.not_eq_true'] at updates
    cases reading with
    | error payload => cases remembers
    | ok current =>
      rw [← Except.ok.inj remembers]
      simp only [Answered.entry?, updates, record_eq, true_and]
      by_cases fresh : analysis.version = current
      · by_cases active : scheduler.cache.active = some request.source <;> simp [fresh, active]
      · simp [fresh]
  · next keeps =>
    have unfit : Answered.entry? scheduler.cache.active reading ⟨request, analysis⟩ = none := by
      cases reading with
      | error payload => rfl
      | ok current =>
        apply if_neg
        rintro ⟨remembers, finished, _⟩
        apply keeps
        rw [updatesRecentResult_iff.mpr remembers, finished]
        rfl
    rw [unfit, ← Except.ok.inj remembers, Option.none_or]

/-- The cache changes by a change of the active document, or by an analysis that is fit for it. -/
theorem cache_of_rule (rule : before.Rule event after) :
    (∃ source, event = .setActive source ∧ after.cache = before.cache.setActive source) ∨
      event.activated? = none ∧ after.cache = { before.cache with
        slot := (Transition.mk before event after).qualified?.or before.cache.slot } := by
  cases rule with
  | setActive source => exact .inl ⟨source, rfl, rfl⟩
  | refused submits | faulted submits | openedRecent submits | openedInline submits
  | openedQueued submits =>
    right
    cases submits <;> exact ⟨rfl, rfl⟩
  | lostCall found records | deliveredCall found records =>
    right
    refine ⟨rfl, ?_⟩
    simp only [Transition.qualified?, Transition.recorded?, found, Option.bind_some]
    exact (cache_of_recordResult records :)
  | faultedCall found fault =>
    right
    refine ⟨rfl, ?_⟩
    cases recordResult_eq_error fault
    simp [Transition.qualified?, Transition.recorded?, found, Answered.entry?]
  | recorded recording records =>
    right
    refine ⟨rfl, ?_⟩
    simp only [Transition.qualified?, Transition.recorded?, recording, Option.bind_some]
    exact cache_of_recordResult records
  | recordFaulted recording fault =>
    right
    refine ⟨rfl, ?_⟩
    cases recordResult_eq_error fault
    simp [Transition.qualified?, Transition.recorded?, recording, Answered.entry?]
  | _ => exact .inr ⟨rfl, rfl⟩

theorem active_of_qualified? {transition : Transition Snapshot Callback Output}
    {entry : RecentResult Output} (fit : transition.qualified? = some entry) :
    transition.before.cache.active = some entry.source := by
  rcases Option.bind_eq_some_iff.mp fit with ⟨⟨answered, reading⟩, _, fit⟩
  exact active_of_entry? fit

theorem qualified?_of_activated? (transition : Transition Snapshot Callback Output)
    {source : Option SourceId} (activates : transition.event = .setActive source) :
    transition.qualified? = none := by
  simp [Transition.qualified?, Transition.recorded?, activates]

/-- A step that neither changes the active document nor records a fit analysis keeps the cache. -/
theorem cache_eq_of_rule (rule : before.Rule event after)
    (stays : (Transition.mk before event after).switches = false)
    (unfit : (Transition.mk before event after).qualified? = none) :
    after.cache = before.cache := by
  rcases cache_of_rule rule with ⟨source, rfl, activates⟩ | ⟨_, records⟩
  · rw [activates]
    by_cases same : before.cache.active = source
    · exact if_pos same
    · simp [Transition.switches, activates, RecencyCache.setActive, same] at stays
  · rw [records, unfit, Option.none_or]

theorem slot_of_switches (rule : before.Rule event after)
    (switches : (Transition.mk before event after).switches = true) : after.cache.slot = none := by
  rcases cache_of_rule rule with ⟨source, rfl, activates⟩ | ⟨_, records⟩
  · by_cases same : before.cache.active = source
    · simp [Transition.switches, activates, RecencyCache.setActive, same] at switches
    · simp [activates, RecencyCache.setActive, same]
  · simp [Transition.switches, records] at switches

theorem slot_of_not_switches (rule : before.Rule event after)
    (stays : (Transition.mk before event after).switches = false) :
    after.cache.slot = (Transition.mk before event after).qualified?.or before.cache.slot := by
  rcases cache_of_rule rule with ⟨source, rfl, activates⟩ | ⟨_, records⟩
  · have unfit := qualified?_of_activated? ⟨before, .setActive source, after⟩ rfl
    rw [cache_eq_of_rule rule stays unfit, unfit, Option.none_or]
  · rw [records]

/-- The cache as it can be read off the run. -/
structure Remembers (past : List (Transition Snapshot Callback Output))
    (scheduler : Scheduler Snapshot Callback Output) : Prop where
  active : scheduler.cache.active =
    ((past.map Transition.event).filterMap Event.activated?).getLast?.join
  slot : scheduler.cache.slot = ((sinceSwitch past).filterMap Transition.qualified?).getLast?
  tagged : ∀ entry ∈ scheduler.cache.slot, scheduler.cache.active = some entry.source

theorem Remembers.step {past : List (Transition Snapshot Callback Output)}
    (remembers : Remembers past before) (rule : before.Rule event after) :
    Remembers (past ++ [⟨before, event, after⟩]) after where
  active := by
    rw [List.map_append, List.filterMap_append, List.getLast?_append]
    rcases cache_of_rule rule with ⟨source, rfl, activates⟩ | ⟨inert, records⟩
    · rw [activates, active_setActive]
      rfl
    · rw [records, List.map_singleton, List.filterMap_cons_none inert]
      exact remembers.active
  slot := by
    rw [sinceSwitch, List.rtakeWhile_concat]
    cases switches : (Transition.mk before event after).switches with
    | true => simp [slot_of_switches rule switches]
    | false =>
      have kept := remembers.slot
      rw [sinceSwitch] at kept
      rw [slot_of_not_switches rule switches, kept]
      cases fit : (Transition.mk before event after).qualified? <;> simp [fit]
  tagged := by
    intro entry held
    cases switches : (Transition.mk before event after).switches with
    | true => simp [slot_of_switches rule switches] at held
    | false =>
      have active : before.cache.active = after.cache.active := bne_eq_false_iff_eq.mp switches
      rw [slot_of_not_switches rule switches] at held
      rw [← active]
      cases fit : (Transition.mk before event after).qualified? with
      | none => exact remembers.tagged entry (by simpa [fit] using held)
      | some newest =>
        have newer : newest = entry := by simpa [fit] using held
        rw [← newer]
        exact active_of_qualified? fit

theorem remembers_of_run {config : Config} {sufficient : Reason → Bool}
    (run : (new config sufficient).run events = some final) :
    Remembers ((new config sufficient).trace events) final := by
  apply run_induction ⟨rfl, rfl, by simp [new]⟩ _ run
  intro past before event after remembers step
  exact remembers.step (rule_of_step step)

/-- The analysis was returned and is yet to be recorded. -/
def Recording (scheduler : Scheduler Snapshot Callback Output)
    (answered : Answered Snapshot Callback Output) : Prop :=
  ⟨answered.request, .recording answered.analysis⟩ ∈ scheduler.calls ∨
    scheduler.worker = .recording answered.request answered.analysis

/-- What is yet to be recorded was so before, or was just returned. -/
theorem Sound.recording_of_rule {answered : Answered Snapshot Callback Output}
    (sound : before.Sound) (rule : before.Rule event after) (recording : after.Recording answered) :
    before.Recording answered ∨
      (Transition.mk before event after).returned? = some answered := by
  rcases recording with called | working
  · cases rule with
    | openedRecent | openedInline | openedQueued =>
      rcases List.mem_append.mp called with old | new
      · exact .inl (.inl old)
      · nomatch congrArg Call.phase (List.mem_singleton.mp new)
    | turnedAway | enqueued | failedCall | cancelledCall | faultedCall | lostCall | returnedCall =>
      exact .inl (.inl (List.mem_filter.mp called).1)
    | @answeredCall id execution request analysis found ready =>
      rcases List.mem_map.mp called with ⟨⟨other, phase⟩, old, moved⟩
      split at moved
      · next same =>
        have same : other.id = id := same
        have first := sound.call?_of_mem old
        rw [same, found] at first
        cases first
        cases moved
        exact .inr (by simp [Transition.returned?, found, ready])
      · cases moved
        exact .inl (.inl old)
    | deliveredCall found records =>
      rcases List.mem_map.mp called with ⟨⟨other, phase⟩, old, moved⟩
      split at moved
      · cases moved
      · cases moved
        exact .inl (.inl old)
    | _ => exact .inl (.inl called)
  · cases rule with
    | enqueued =>
      split at working
      · cases working
      · exact .inl (.inr working)
    | polled =>
      split at working <;> cases working
    | cleared =>
      split at working <;> cases working
    | answered executing ready =>
      cases working
      exact .inr (by simp [Transition.returned?, executing, ready])
    | started | receivedNone | receivedTerminate | receivedRequest | skipped | began | failed
    | gaveUp | recordFaulted | recorded | superseded | lost | completed | posted | dropped =>
      cases working
    | _ => exact .inl (.inr working)

end Scheduler

end EditorAnalysis
