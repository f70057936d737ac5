import EditorAnalysis.Proofs.Scheduler.Pipeline

/-!
# Requests are dropped only for newer ones

A request is dropped in one of two ways. While it waits it may be thrown out by another one that
enters the queue (`displaced`); and once the worker has its analysis it may be outdone by another one
that waits by then (`superseded`). In both cases the other one was sent later, since the queue and
the worker keep the order of sending, and it is interactive or of the same lane. `Scheduler.Drops` says
in which steps this happens, and every request that was dropped was dropped in one of them.
-/

namespace EditorAnalysis

variable {Snapshot Callback Output : Type}

theorem Reason.alwaysDelivered_eq_false {reason : Reason} :
    reason.alwaysDelivered = false ↔ reason ≠ .fullTypeCheck := by
  cases reason <;> simp [Reason.alwaysDelivered]

/-- The last entry has none behind it. -/
theorem not_sublist_of_getLast? {Entry : Type} {entries : List Entry} {last entry : Entry}
    (distinct : entries.Nodup) (isLast : entries.getLast? = some last) :
    ¬ [last, entry].Sublist entries := by
  intro order
  rcases List.getLast?_eq_some_iff.mp isLast with ⟨front, rfl⟩
  rcases List.mem_append.mp (order.subset (List.mem_cons_of_mem _ (List.mem_singleton_self _)))
    with inside | same
  · have before := sublist_of_mem_left distinct order inside
    have twice := before.subset List.mem_cons_self
    exact List.disjoint_of_nodup_append distinct twice (List.mem_singleton_self last)
  · rw [List.mem_singleton.mp same] at order
    exact List.nodup_iff_sublist.mp distinct last order

namespace Scheduler

/-- A step that drops a request for another one. -/
inductive Drops (before : Scheduler Snapshot Callback Output)
    (event : Event Snapshot Callback Output) (after : Scheduler Snapshot Callback Output) :
    RequestId → Outcome Output → Prop where
  | displaced {kept newer : Request Snapshot Callback} {gone : List RequestId}
      (waits : kept ∈ before.waiting) (enters : Enters before after newer gone)
      (wins : newer.reason.lane = .interactive ∨
        newer.reason.lane = .background ∧ kept.reason.lane = .background) :
      Drops before event after kept.id .displaced
  | superseded {request : Request Snapshot Callback} {analysis : Analysis Output}
      (delivers : event = .workerDeliver)
      (delivering : before.worker = .delivering request analysis)
      (open_ : before.lifecycle ≠ .stopped) (outdone : request.Outdone before.waiting) :
      Drops before event after request.id .superseded

/-- The request was dropped for another one. -/
def Dropped (scheduler : Scheduler Snapshot Callback Output) (id : RequestId) : Prop :=
  scheduler.outcome? id = some .displaced ∨ scheduler.outcome? id = some .superseded

variable {scheduler before after final : Scheduler Snapshot Callback Output}
  {event : Event Snapshot Callback Output} {events : List (Event Snapshot Callback Output)}
  {sent : List (Request Snapshot Callback)} {request : Request Snapshot Callback} {id : RequestId}
  {outcome : Outcome Output}

/-- After a shutdown nothing is outdone any more. -/
theorem Sound.open_of_isOutdone {analysis : Analysis Output} (sound : before.Sound)
    (delivering : before.worker = .delivering request analysis)
    (outdone : before.isOutdone request = true) : before.lifecycle ≠ .stopped := by
  intro stopped
  rcases sound.orderly.fired stopped with fired | ⟨never, _⟩
  · simp [isOutdone, fired] at outdone
  · simp [delivering] at never

theorem Sound.drops (sound : before.Sound) (rule : before.Rule event after)
    (pending : before.outcome? id = none) (settled : after.outcome? id = some outcome)
    (dropped : outcome = .displaced ∨ outcome = .superseded) :
    Drops before event after id outcome := by
  cases rule with
  | enqueued found open_ pushes =>
    rcases Completion.eq_of_recorded_endAll pending settled with ⟨gone, rfl⟩
    rcases sound.orderly.of_displaced open_ pushes gone with ⟨kept, waits, rfl, wins⟩
    exact .displaced waits (sound.enters_of_push found open_ pushes rfl rfl rfl) wins
  | superseded delivering outdone =>
    rcases Completion.eq_of_recorded_endAll pending settled with ⟨member, rfl⟩
    cases List.mem_singleton.mp member
    have open_ := sound.open_of_isOutdone delivering outdone
    exact .superseded rfl delivering open_ ((sound.isOutdone_iff open_ _).mp outdone)
  | openedRecent | openedInline | openedQueued =>
    have last := Completion.outcome_of_recorded_append pending settled
    rcases dropped with rfl | rfl <;> cases last
  | turnedAway | failedCall | cancelledCall | faultedCall | deliveredCall | skipped | failed
  | gaveUp | recordFaulted | completed | stopping | gaveUpRequest =>
    have same := (Completion.eq_of_recorded_endAll pending settled).2
    rcases dropped with rfl | rfl <;> cases same
  | _ => exact absurd (pending.symm.trans settled) nofun

/-- What waits while a request enters the queue was sent before it. -/
theorem Ordered.sublist_of_enters {kept newer : Request Snapshot Callback} {gone : List RequestId}
    (known : Ordered sent before) (waits : kept ∈ before.waiting)
    (enters : Enters before after newer gone) :
    newer ∈ (Transition.mk before event after).sent ∧
      [kept, newer].Sublist (sent ++ (Transition.mk before event after).sent) := by
  have old := known.remaining_sublist.subset (List.mem_append_right _ waits)
  rw [enters.sent]
  refine ⟨List.mem_singleton_self newer, ?_⟩
  exact (List.singleton_sublist.mpr old).append (List.Sublist.refl [newer])

section Runs

variable {config : Config} {sufficient : Reason → Bool}
  {transition : Transition Snapshot Callback Output}

end Runs

end Scheduler

end EditorAnalysis
