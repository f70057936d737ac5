import EditorAnalysis.Proofs.Scheduler.Analyses

/-!
# What the queue keeps of a burst

While the worker is inside the analyzer, the requests of a burst meet in the queue. `survivors` is
the closed form of what is left of them: the last interactive request and, behind it, the last of
the background requests that came after it. `Scheduler.Coalesced` says that the queue is just that
after every burst, and that all other requests of the burst were displaced and counted.
-/

namespace EditorAnalysis

variable {Snapshot Callback Output : Type}

/-- The last interactive request. -/
def lastInteractive (requests : List (Request Snapshot Callback)) :
    Option (Request Snapshot Callback) :=
  (requests.filter fun request => request.reason.lane = .interactive).getLast?

/-- The requests behind the last interactive one, all of them background. -/
def trailing (requests : List (Request Snapshot Callback)) : List (Request Snapshot Callback) :=
  (requests.reverse.takeWhile fun request => request.reason.lane = .background).reverse

/-- The last background request behind the last interactive one. -/
def lastBackground (requests : List (Request Snapshot Callback)) :
    Option (Request Snapshot Callback) :=
  (trailing requests).getLast?

/-- What the queue keeps of a burst. -/
def survivors (requests : List (Request Snapshot Callback)) : List (Request Snapshot Callback) :=
  (lastInteractive requests).toList ++ (lastBackground requests).toList

section Survivors

variable {requests : List (Request Snapshot Callback)} {request : Request Snapshot Callback}

theorem lane_of_lastInteractive (last : lastInteractive requests = some request) :
    request.reason.lane = .interactive := by
  have member := List.mem_of_getLast? last
  simpa using (List.mem_filter.mp member).2

theorem lane_of_lastBackground (last : lastBackground requests = some request) :
    request.reason.lane = .background := by
  have member := List.mem_of_getLast? last
  rw [trailing, List.mem_reverse] at member
  simpa using List.all_eq_true.mp List.all_takeWhile request member

theorem lastInteractive_append (requests : List (Request Snapshot Callback))
    (request : Request Snapshot Callback) :
    lastInteractive (requests ++ [request]) =
      if request.reason.lane = .interactive then some request else lastInteractive requests := by
  by_cases interactive : request.reason.lane = .interactive <;>
    simp [lastInteractive, List.filter_append, interactive]

theorem lastBackground_append (requests : List (Request Snapshot Callback))
    (request : Request Snapshot Callback) :
    lastBackground (requests ++ [request]) =
      if request.reason.lane = .interactive then none else some request := by
  cases lane : request.reason.lane <;> simp [lastBackground, trailing, lane]

/-- Of what is left, an interactive request keeps nothing and a background one what is interactive.
-/
theorem survivors_append (requests : List (Request Snapshot Callback))
    (request : Request Snapshot Callback) :
    survivors (requests ++ [request]) =
      if request.reason.lane = .interactive then [request]
      else ((survivors requests).filter fun kept => kept.reason.lane = .interactive) ++
        [request] := by
  rw [survivors, lastInteractive_append, lastBackground_append]
  by_cases interactive : request.reason.lane = .interactive
  · simp [interactive]
  · have kept : ((survivors requests).filter fun kept => kept.reason.lane = .interactive) =
        (lastInteractive requests).toList := by
      have first : (lastInteractive requests).toList.filter
          (fun kept => kept.reason.lane = .interactive) = (lastInteractive requests).toList := by
        cases last : lastInteractive requests with
        | none => rfl
        | some kept => simp [lane_of_lastInteractive last]
      have second : (lastBackground requests).toList.filter
          (fun kept => kept.reason.lane = .interactive) = [] := by
        cases last : lastBackground requests with
        | none => rfl
        | some kept => simp [lane_of_lastBackground last]
      rw [survivors, List.filter_append, first, second, List.append_nil]
    rw [if_neg interactive, if_neg interactive, if_neg interactive, kept]
    rfl

theorem mem_of_mem_survivors (survives : request ∈ survivors requests) : request ∈ requests := by
  rcases List.mem_append.mp survives with interactive | background
  · rw [Option.mem_toList] at interactive
    exact (List.mem_filter.mp (List.mem_of_getLast? interactive)).1
  · rw [Option.mem_toList] at background
    have member := List.mem_of_getLast? background
    rw [trailing, List.mem_reverse] at member
    exact List.mem_reverse.mp ((List.takeWhile_sublist _).subset member)

/-- What a burst leaves is of different lanes. -/
theorem pairwise_survivors (requests : List (Request Snapshot Callback)) :
    (survivors requests).Pairwise fun request other => request.reason.lane ≠ other.reason.lane := by
  rw [survivors]
  cases interactive : lastInteractive requests with
  | none => cases lastBackground requests <;> simp
  | some first =>
    cases background : lastBackground requests with
    | none => simp
    | some second =>
      simp [lane_of_lastInteractive interactive, lane_of_lastBackground background]

end Survivors

namespace Scheduler

/-- The requests that a run lets into the queue. -/
def sentOf (scheduler : Scheduler Snapshot Callback Output)
    (events : List (Event Snapshot Callback Output)) : List (Request Snapshot Callback) :=
  (scheduler.trace events).flatMap Transition.sent

variable {scheduler before after : Scheduler Snapshot Callback Output}
  {event : Event Snapshot Callback Output}

/-- Before a shutdown nothing but requests waits. -/
theorem Orderly.mailbox_eq (orderly : scheduler.Orderly)
    (open_ : scheduler.lifecycle ≠ .stopped) :
    scheduler.mailbox.toList = scheduler.waiting.map Job.analyze := by
  have noTerminate := (orderly.uncancelled open_).2.2
  unfold waiting
  generalize scheduler.mailbox.toList = jobs at noTerminate
  induction jobs with
  | nil => rfl
  | cons job jobs ih =>
    rw [List.mem_cons, not_or] at noTerminate
    cases job with
    | analyze request => exact congrArg _ (ih noTerminate.2)
    | terminate => exact absurd rfl noTerminate.1

theorem running_of_rule (rule : before.Rule event after) (running : before.lifecycle = .running)
    (notShutdown : event ≠ .shutdown) : after.lifecycle = .running := by
  cases rule with
  | started => rfl
  | enqueued => rfl
  | neverStarted => exact absurd rfl notShutdown
  | stopping => exact absurd rfl notShutdown
  | _ => exact running

theorem waiting_of_mailbox (same : after.mailbox = before.mailbox) :
    after.waiting = before.waiting := by
  rw [waiting, same]
  rfl

/-- The queue changes only where a request enters it, where the worker takes from it and where a
shutdown drains it. -/
theorem mailbox_of_rule (rule : before.Rule event after) (notWorker : event.isWorker = false)
    (notShutdown : event ≠ .shutdown) (notEnqueue : ∀ id launch, event ≠ .enqueue id launch) :
    after.mailbox = before.mailbox := by
  cases rule with
  | enqueued => exact absurd rfl (notEnqueue _ _)
  | stopping => exact absurd rfl notShutdown
  | receivedNone | receivedTerminate | receivedRequest => cases notWorker
  | _ => rfl

/-- Requests are thrown out, and counted, only where another one enters the queue. -/
theorem displaced_of_rule (rule : before.Rule event after) (notShutdown : event ≠ .shutdown)
    (notEnqueue : ∀ id launch, event ≠ .enqueue id launch) :
    after.stats.displaced = before.stats.displaced := by
  cases rule with
  | enqueued => exact absurd rfl (notEnqueue _ _)
  | stopping => exact absurd rfl notShutdown
  | failedCall | cancelledCall | skipped | failed | gaveUp | superseded | gaveUpRequest =>
    dsimp only
    split <;> rfl
  | _ => rfl

/-- The queue after a burst: it holds the survivors, and the rest was displaced and counted. -/
structure Coalesced (start : Scheduler Snapshot Callback Output)
    (sent : List (Request Snapshot Callback)) (scheduler : Scheduler Snapshot Callback Output) :
    Prop where
  sound : scheduler.Sound
  running : scheduler.lifecycle = .running
  worker : scheduler.worker = start.worker
  waiting : scheduler.waiting = survivors sent
  distinct : (sent.map fun request => request.id).Nodup
  displaced : ∀ request ∈ sent, request ∈ survivors sent ∨
    scheduler.outcome? request.id = some .displaced
  counted : ∃ count, count + (survivors sent).length = sent.length ∧
    scheduler.stats.displaced = start.stats.displaced + UInt64.ofNat count

theorem coalesced_nil (sound : scheduler.Sound) (running : scheduler.lifecycle = .running)
    (empty : scheduler.waiting = []) : Coalesced scheduler [] scheduler where
  sound := sound
  running := running
  worker := rfl
  waiting := empty
  distinct := List.nodup_nil
  displaced request member := by cases member
  counted := ⟨0, rfl, (UInt64.add_zero _).symm⟩

theorem filterMap_request?_map (requests : List (Request Snapshot Callback)) :
    (requests.map Job.analyze).filterMap Job.request? = requests := by
  induction requests with
  | nil => rfl
  | cons request requests ih => exact congrArg _ ih

theorem requestIds_map (requests : List (Request Snapshot Callback)) :
    Job.requestIds (requests.map Job.analyze) = requests.map fun request => request.id := by
  rw [Job.requestIds, filterMap_request?_map]

/-- What waits after a request has entered the queue. -/
theorem Orderly.waiting_push {request : Request Snapshot Callback}
    {pushed : Pushed (Job Snapshot Callback)} {mailbox : LaneSlots (Job Snapshot Callback)}
    (orderly : scheduler.Orderly) (open_ : scheduler.lifecycle ≠ .stopped)
    (pushes : scheduler.mailbox.push (.analyze request) = (pushed, mailbox)) :
    mailbox.toList.filterMap Job.request? =
      if request.reason.lane = .interactive then [request]
      else (scheduler.waiting.filter fun kept => kept.reason.lane = .interactive) ++
        [request] := by
  have pushList := LaneSlots.toList_push (Job.analyze request) orderly.proper
  rw [pushes, orderly.mailbox_eq open_, List.filter_map] at pushList
  change mailbox.toList = if request.reason.lane = .interactive then _ else _ at pushList
  rw [pushList]
  split
  · rfl
  · rw [List.filterMap_append, filterMap_request?_map]
    rfl

/-- What is thrown out: everything by an interactive request, and only what is background by a
background one. -/
theorem Orderly.requestIds_displaced {request : Request Snapshot Callback}
    {pushed : Pushed (Job Snapshot Callback)} {mailbox : LaneSlots (Job Snapshot Callback)}
    (orderly : scheduler.Orderly) (open_ : scheduler.lifecycle ≠ .stopped)
    (pushes : scheduler.mailbox.push (.analyze request) = (pushed, mailbox)) :
    Job.requestIds pushed.displaced =
      if request.reason.lane = .interactive then scheduler.waiting.map fun kept => kept.id
      else (scheduler.waiting.filter fun kept => kept.reason.lane = .background).map
        fun kept => kept.id := by
  have pushGone := LaneSlots.displaced_push (Job.analyze request) orderly.proper
  rw [pushes, orderly.mailbox_eq open_, List.filter_map] at pushGone
  change pushed.displaced = if request.reason.lane = .interactive then _ else _ at pushGone
  rw [pushGone]
  by_cases interactive : request.reason.lane = .interactive
  · rw [if_pos interactive, if_pos interactive, requestIds_map]
  · rw [if_neg interactive, if_neg interactive, requestIds_map]
    rfl

/-- What waited waits on or is thrown out. -/
theorem Orderly.displaced_push {request gone : Request Snapshot Callback}
    {pushed : Pushed (Job Snapshot Callback)} {mailbox : LaneSlots (Job Snapshot Callback)}
    (orderly : scheduler.Orderly) (open_ : scheduler.lifecycle ≠ .stopped)
    (pushes : scheduler.mailbox.push (.analyze request) = (pushed, mailbox))
    (waits : gone ∈ scheduler.waiting) :
    gone ∈ mailbox.toList.filterMap Job.request? ∨ gone.id ∈ Job.requestIds pushed.displaced := by
  rw [orderly.waiting_push open_ pushes, orderly.requestIds_displaced open_ pushes]
  by_cases interactive : request.reason.lane = .interactive
  · right
    rw [if_pos interactive]
    exact List.mem_map_of_mem waits
  · rw [if_neg interactive, if_neg interactive]
    cases lane : gone.reason.lane with
    | interactive =>
      left
      exact List.mem_append_left _ (List.mem_filter.mpr ⟨waits, by simp [lane]⟩)
    | background =>
      right
      exact List.mem_map_of_mem (List.mem_filter.mpr ⟨waits, by simp [lane]⟩)

/-- Nothing is thrown out but for work that is interactive or of the same lane. -/
theorem Orderly.of_displaced {request : Request Snapshot Callback} {id : RequestId}
    {pushed : Pushed (Job Snapshot Callback)} {mailbox : LaneSlots (Job Snapshot Callback)}
    (orderly : scheduler.Orderly) (open_ : scheduler.lifecycle ≠ .stopped)
    (pushes : scheduler.mailbox.push (.analyze request) = (pushed, mailbox))
    (gone : id ∈ Job.requestIds pushed.displaced) :
    ∃ kept ∈ scheduler.waiting, kept.id = id ∧ (request.reason.lane = .interactive ∨
      request.reason.lane = .background ∧ kept.reason.lane = .background) := by
  rw [orderly.requestIds_displaced open_ pushes] at gone
  cases lane : request.reason.lane with
  | interactive =>
    rw [if_pos lane] at gone
    rcases List.mem_map.mp gone with ⟨kept, waits, same⟩
    exact ⟨kept, waits, same, .inl rfl⟩
  | background =>
    rw [if_neg (by simp [lane])] at gone
    rcases List.mem_map.mp gone with ⟨kept, filtered, same⟩
    rcases List.mem_filter.mp filtered with ⟨waits, background⟩
    exact ⟨kept, waits, same, .inr ⟨rfl, by simpa using background⟩⟩

theorem sent_of_waiting_subset (subset : after.waiting ⊆ before.waiting) :
    (Transition.mk before event after).sent = [] :=
  Transition.newIn_of_subset subset

/-- A request that enters the queue did not wait before. -/
theorem Sound.not_waiting_of_call? {id : RequestId} {call : Call Snapshot Callback Output}
    (sound : scheduler.Sound) (found : scheduler.call? id = some call) :
    id ∉ scheduler.waiting.map fun request => request.id := by
  intro waits
  rcases List.mem_map.mp waits with ⟨request, member, rfl⟩
  have called := phase_mem_of_call? found
  rw [sound.view_of_waiting member] at called
  cases called

/-- A request that is let into the queue. -/
structure Enters (before after : Scheduler Snapshot Callback Output)
    (request : Request Snapshot Callback) (gone : List RequestId) : Prop where
  fresh : request.id ∉ before.waiting.map fun request => request.id
  pending : before.outcome? request.id = none
  waiting : after.waiting = if request.reason.lane = .interactive then [request]
    else (before.waiting.filter fun kept => kept.reason.lane = .interactive) ++ [request]
  leaves : ∀ kept ∈ before.waiting, kept ∈ after.waiting ∨ kept.id ∈ gone
  balance : after.waiting.length + gone.length = before.waiting.length + 1
  completions : after.completions = Completion.endAll .displaced gone before.completions
  counted : after.stats.displaced = before.stats.displaced + UInt64.ofNat gone.length

theorem Sound.enters_of_push {id : RequestId} {request : Request Snapshot Callback}
    {pushed : Pushed (Job Snapshot Callback)} {mailbox : LaneSlots (Job Snapshot Callback)}
    (sound : before.Sound) (found : before.call? id = some ⟨request, .queueing⟩)
    (open_ : before.lifecycle ≠ .stopped)
    (pushes : before.mailbox.push (.analyze request.bound) = (pushed, mailbox))
    (now : after.mailbox = mailbox)
    (completions : after.completions =
      Completion.endAll .displaced (Job.requestIds pushed.displaced) before.completions)
    (counted : after.stats.displaced = before.stats.displaced +
      UInt64.ofNat (Job.requestIds pushed.displaced).length) :
    Enters before after request.bound (Job.requestIds pushed.displaced) := by
  have own : request.bound.id = id := request_id_of_call? found
  have waiting : after.waiting = mailbox.toList.filterMap Job.request? := by
    rw [Scheduler.waiting, now]
  refine ⟨?_, ?_, ?_, ?_, ?_, completions, counted⟩
  · rw [own]
    exact sound.not_waiting_of_call? found
  · rw [own]
    exact sound.staged.recorded_of_call? found
  · rw [waiting]
    exact sound.orderly.waiting_push open_ pushes
  · intro kept waits
    rw [waiting]
    exact sound.orderly.displaced_push open_ pushes waits
  · have perm := LaneSlots.push_perm (Job.analyze request.bound) sound.orderly.proper
    rw [pushes] at perm
    have lengths := (Job.requestIds_perm perm).length_eq
    rw [Job.requestIds_append, Job.requestIds_analyze, List.length_append, List.length_cons,
      requestIds_mailbox, List.length_map, Job.requestIds, List.length_map, ← waiting] at lengths
    exact lengths

theorem Sound.enters {id : RequestId} {launch : Launch} (sound : before.Sound)
    (running : before.lifecycle = .running) (rule : before.Rule (.enqueue id launch) after) :
    ∃ request gone, Enters before after request gone := by
  cases rule with
  | refused submits | faulted submits | openedRecent submits | openedInline submits
  | openedQueued submits => cases submits
  | turnedAway found failed => simp [Scheduler.start, running] at failed
  | enqueued found open_ pushes =>
    exact ⟨_, _, sound.enters_of_push found open_ pushes rfl rfl rfl⟩

theorem Enters.sent {request : Request Snapshot Callback} {gone : List RequestId}
    (enters : Enters before after request gone) :
    (Transition.mk before event after).sent = [request] := by
  have waiting := enters.waiting
  split at waiting
  · have alone : after.waiting = [] ++ [request] := waiting
    exact Transition.newIn_of_append alone (List.nil_subset _) enters.fresh
  · exact Transition.newIn_of_append waiting List.filter_sublist.subset enters.fresh

/-- The survivors of a burst, and those that were not, after one more request. -/
theorem Coalesced.of_enters {start : Scheduler Snapshot Callback Output}
    {sent : List (Request Snapshot Callback)} {request : Request Snapshot Callback}
    {gone : List RequestId} (known : Coalesced start sent before)
    (enters : Enters before after request gone)
    (rule : before.Rule event after) (running : after.lifecycle = .running)
    (worker : after.worker = start.worker) : Coalesced start (sent ++ [request]) after := by
  have survive : after.waiting = survivors (sent ++ [request]) := by
    rw [enters.waiting, survivors_append, known.waiting]
  refine ⟨known.sound.of_rule rule, running, worker, survive, ?_, ?_, ?_⟩
  · rw [List.map_append, List.nodup_append]
    refine ⟨known.distinct, List.nodup_cons.mpr ⟨List.not_mem_nil, List.nodup_nil⟩, ?_⟩
    intro id old other new same
    rw [List.map_singleton, List.mem_singleton] at new
    rcases List.mem_map.mp old with ⟨entry, member, rfl⟩
    rw [new] at same
    rcases known.displaced entry member with kept | displaced
    · rw [← known.waiting] at kept
      exact enters.fresh (same ▸ List.mem_map_of_mem kept)
    · rw [same, enters.pending] at displaced
      cases displaced
  · intro other member
    rw [← survive]
    rcases List.mem_append.mp member with old | new
    · rcases known.displaced other old with kept | displaced
      · rw [← known.waiting] at kept
        rcases enters.leaves other kept with remains | gone
        · exact .inl remains
        · right
          exact outcome?_of_ended enters.completions gone (known.sound.born_of_waiting kept)
            (known.sound.outcome?_of_waiting kept)
      · exact .inr (known.sound.outcome?_of_rule rule displaced)
    · left
      rw [List.mem_singleton.mp new, enters.waiting]
      split <;> simp
  · rcases known.counted with ⟨count, balance, stats⟩
    refine ⟨count + gone.length, ?_, ?_⟩
    · have lengths := enters.balance
      rw [survive, known.waiting] at lengths
      rw [List.length_append, List.length_singleton]
      omega
    · rw [enters.counted, stats, UInt64.ofNat_add, UInt64.add_assoc]

theorem Coalesced.step {start : Scheduler Snapshot Callback Output}
    {sent : List (Request Snapshot Callback)} (known : Coalesced start sent before)
    (step : before.step event = some after) (notWorker : event.isWorker = false)
    (notShutdown : event ≠ .shutdown) :
    Coalesced start (sent ++ (Transition.mk before event after).sent) after := by
  have rule := rule_of_step step
  have running := running_of_rule rule known.running notShutdown
  have worker : after.worker = start.worker :=
    (worker_of_rule rule notWorker (by simp [known.running])).trans known.worker
  by_cases enqueues : ∃ id launch, event = .enqueue id launch
  · rcases enqueues with ⟨id, launch, rfl⟩
    rcases known.sound.enters known.running rule with ⟨request, gone, enters⟩
    rw [enters.sent]
    exact known.of_enters enters rule running worker
  · have notEnqueue : ∀ id launch, event ≠ .enqueue id launch :=
      fun id launch is => enqueues ⟨id, launch, is⟩
    have waiting := waiting_of_mailbox (mailbox_of_rule rule notWorker notShutdown notEnqueue)
    have unchanged := displaced_of_rule rule notShutdown notEnqueue
    rw [sent_of_waiting_subset (by rw [waiting]; exact List.Subset.refl _), List.append_nil]
    refine ⟨known.sound.of_rule rule, running, worker, waiting.trans known.waiting, known.distinct,
      ?_, ?_⟩
    · intro request member
      rcases known.displaced request member with kept | displaced
      · exact .inl kept
      · exact .inr (known.sound.outcome?_of_rule rule displaced)
    · rcases known.counted with ⟨count, balance, stats⟩
      exact ⟨count, balance, unchanged.trans stats⟩

/-- The queue after a burst that comes while the worker is busy and nothing waits. -/
theorem Sound.coalesced {burst : List (Event Snapshot Callback Output)} (sound : scheduler.Sound)
    (running : scheduler.lifecycle = .running) (empty : scheduler.waiting = [])
    (run : scheduler.run burst = some after)
    (whileBusy : ∀ event ∈ burst, event.isWorker = false ∧ event ≠ .shutdown) :
    Coalesced scheduler (scheduler.sentOf burst) after := by
  have along := run_induction
    (motive := fun past state =>
      (∀ event ∈ past.map Transition.event, event.isWorker = false ∧ event ≠ .shutdown) →
        Coalesced scheduler (past.flatMap Transition.sent) state)
    (fun _ => coalesced_nil sound running empty) ?_ run
  · rw [map_event_trace run] at along
    exact along whileBusy
  · intro past before event after known step whileBusy
    simp only [List.map_append, List.map_cons, List.map_nil, List.mem_append,
      List.mem_singleton] at whileBusy
    rw [List.flatMap_append, List.flatMap_singleton]
    rcases whileBusy event (.inr rfl) with ⟨notWorker, notShutdown⟩
    exact (known fun event member => whileBusy event (.inl member)).step step notWorker notShutdown

end Scheduler

end EditorAnalysis
