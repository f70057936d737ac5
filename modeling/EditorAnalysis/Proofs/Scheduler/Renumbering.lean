import EditorAnalysis.Proofs.Scheduler.Handles
import Mathlib.Data.List.InsertIdx

/-!
# One request more

Requests are numbered in the order of their construction, and a scheduler does nothing with a number
but compare it and look it up. So a scheduler goes on in the same way if there is one request more, as
long as nobody has to do with this one: its number is taken by no other request (`skipping`), its cell
stands among the others, and it counts as submitted.

`Scheduler.withVoid` is the scheduler with such a request. Each function of the scheduler is shown to
go with it. The submissions under way are left open, as the one of the void request may be there too,
about to enter the queue; `Beside` says where.
-/

namespace EditorAnalysis

variable {Snapshot Callback Output : Type}

section Numbers

variable {number id other : Nat}

/-- The number a request has once the given number is taken. -/
def skipping (number id : Nat) : Nat :=
  if id < number then id else id + 1

theorem skipping_of_lt (below : id < number) : skipping number id = id :=
  if_pos below

theorem skipping_of_le (above : number ≤ id) : skipping number id = id + 1 :=
  if_neg (Nat.not_lt.mpr above)

theorem skipping_ne (number id : Nat) : skipping number id ≠ number := by
  unfold skipping
  split <;> omega

theorem skipping_injective (number : Nat) : Function.Injective (skipping number) := by
  intro id other same
  unfold skipping at same
  split at same <;> split at same <;> omega

@[simp]
theorem skipping_inj : skipping number id = skipping number other ↔ id = other :=
  (skipping_injective number).eq_iff

theorem exists_skipping (different : id ≠ number) : ∃ origin, skipping number origin = id := by
  rcases Nat.lt_or_gt_of_ne different with below | above
  · exact ⟨id, skipping_of_lt below⟩
  · exact ⟨id - 1, by rw [skipping_of_le (by omega)]; omega⟩

variable {Entry : Type} {entries : List Entry} {entry : Entry}

theorem getElem?_insertIdx_skipping (entries : List Entry) (entry : Entry) (number id : Nat) :
    (entries.insertIdx number entry)[skipping number id]? = entries[id]? := by
  by_cases below : id < number
  · rw [skipping_of_lt below, List.getElem?_insertIdx_of_lt below]
  · rw [skipping_of_le (by omega), List.getElem?_insertIdx_of_gt (by omega), Nat.add_sub_cancel]

theorem modify_insertIdx (change : Entry → Entry) :
    (entries.insertIdx number entry).modify (skipping number id) change =
      (entries.modify id change).insertIdx number entry := by
  apply List.ext_getElem?
  intro index
  by_cases here : index = number
  · subst here
    simp [List.getElem?_insertIdx_self, skipping_ne]
  · rcases exists_skipping here with ⟨origin, rfl⟩
    simp only [List.getElem?_modify, getElem?_insertIdx_skipping, skipping_inj]

theorem modify_insertIdx_self (change : Entry → Entry) :
    (entries.insertIdx number entry).modify number change =
      entries.insertIdx number (change entry) := by
  apply List.ext_getElem?
  intro index
  by_cases here : index = number
  · subst here
    by_cases room : index ≤ entries.length <;> simp [List.getElem?_insertIdx_self, room]
  · rcases exists_skipping here with ⟨origin, rfl⟩
    simp only [List.getElem?_modify, getElem?_insertIdx_skipping, if_neg (Ne.symm here)]
    simp

theorem insertIdx_append (last : Entry) (room : number ≤ entries.length) :
    (entries ++ [last]).insertIdx number entry = entries.insertIdx number entry ++ [last] := by
  induction entries generalizing number with
  | nil =>
    cases Nat.le_zero.mp room
    rfl
  | cons first rest ih =>
    cases number with
    | zero => rfl
    | succ number =>
      simp only [List.cons_append, List.insertIdx_succ_cons, ih (Nat.le_of_succ_le_succ room)]

end Numbers

section Names

variable (number : Nat)

def Request.renumber (request : Request Snapshot Callback) : Request Snapshot Callback :=
  { request with id := skipping number request.id }

def Answered.renumber (answered : Answered Snapshot Callback Output) :
    Answered Snapshot Callback Output :=
  { answered with request := answered.request.renumber number }

def Call.renumber (call : Call Snapshot Callback Output) : Call Snapshot Callback Output :=
  { call with request := call.request.renumber number }

def Job.renumber : Job Snapshot Callback → Job Snapshot Callback
  | .analyze request => .analyze (request.renumber number)
  | .terminate => .terminate

def Worker.renumber : Worker Snapshot Callback Output → Worker Snapshot Callback Output
  | .holding request => .holding (request.renumber number)
  | .executing request => .executing (request.renumber number)
  | .recording request analysis => .recording (request.renumber number) analysis
  | .delivering request analysis => .delivering (request.renumber number) analysis
  | .posting request analysis => .posting (request.renumber number) analysis
  | worker => worker

def Handle.renumber (handle : Handle) : Handle :=
  { handle with id := skipping number handle.id }

def Opening.renumber : Opening → Opening
  | .opened handle => .opened (handle.renumber number)
  | opening => opening

def Event.renumber : Event Snapshot Callback Output → Event Snapshot Callback Output
  | .enqueue id launch => .enqueue (skipping number id) launch
  | .answerCall id execution => .answerCall (skipping number id) execution
  | .recordCall id reading now => .recordCall (skipping number id) reading now
  | .returnCall id => .returnCall (skipping number id)
  | event => event

@[simp]
theorem Request.id_renumber (request : Request Snapshot Callback) :
    (request.renumber number).id = skipping number request.id := rfl

@[simp]
theorem Request.reason_renumber (request : Request Snapshot Callback) :
    (request.renumber number).reason = request.reason := rfl

end Names

namespace LaneSlots

variable {Item : Type} (change : Item → Item) (slots : LaneSlots Item)

/-- The queue with every item changed. -/
def map : LaneSlots Item where
  first := slots.first.map change
  second := slots.second.map change

theorem toList_map : (slots.map change).toList = slots.toList.map change := by
  rcases slots with ⟨_ | first, _ | second⟩ <;> rfl

theorem isEmpty_map : (slots.map change).isEmpty = slots.isEmpty := by
  rcases slots with ⟨_ | first, second⟩ <;> rfl

theorem pop_map : (slots.map change).pop = slots.pop.map (Option.map change) (map change) := by
  rcases slots with ⟨_ | first, second⟩ <;> rfl

variable [HasLane Item] (keeps : ∀ item, lane (change item) = lane item)
include keeps

theorem contains_map (wanted : Lane) :
    (slots.map change).contains wanted = slots.contains wanted := by
  rw [contains, contains, toList_map, List.any_map]
  congr 1
  funext item
  simp only [Function.comp, keeps]

theorem push_map (item : Item) :
    ((slots.map change).push (change item)).1.displaced =
        (slots.push item).1.displaced.map change ∧
      ((slots.map change).push (change item)).2 = (slots.push item).2.map change := by
  rcases slots with ⟨_ | first, _ | second⟩
  · exact ⟨rfl, rfl⟩
  · exact ⟨rfl, rfl⟩
  · by_cases passes : lane item = .interactive ∨ lane item = lane first <;>
      simp [push, map, keeps, passes]
  · by_cases passes : lane item = .interactive <;> simp [push, map, keeps, passes]

end LaneSlots

theorem Job.lane_renumber (number : Nat) (job : Job Snapshot Callback) :
    lane (job.renumber number) = lane job := by
  cases job <;> rfl

namespace UiQueue

variable {Item : Type} (change : Item → Item) (queue : UiQueue Item)

/-- The queue with every job changed. -/
def map : UiQueue Item := { queue with jobs := queue.jobs.map change }

theorem post_map (job : Item) :
    (queue.map change).post (change job) = (queue.post job).map change := by
  rcases queue with ⟨jobs, _ | _, handles⟩ <;> simp [post, map]

theorem take?_map :
    (queue.map change).take? = queue.take?.map (Prod.map change (map change)) := by
  rcases queue with ⟨_ | ⟨job, rest⟩, pump, handles⟩ <;> rfl

end UiQueue

/-- The cell of a request whose path was chosen. -/
def Path.cell : Path Output → Completion Output
  | .recent analysis => Completion.pending.finish (.completed analysis)
  | _ => .pending

/-- What a path adds to the counters. -/
def Path.counted : Path Output → Stats → Stats
  | .recent _, stats => stats.addFastPathHit.addDelivered
  | .inline, stats => stats.addExecuted
  | .queued, stats => stats

namespace Scheduler

variable (scheduler : Scheduler Snapshot Callback Output) (number : Nat) (cell : Completion Output)
  (calls : List (Call Snapshot Callback Output))

/-- The scheduler with one request more, of the given number and cell, and the given submissions under
way. -/
@[simps]
def withVoid : Scheduler Snapshot Callback Output :=
  { scheduler with
    mailbox := scheduler.mailbox.map (Job.renumber number)
    inFlight := scheduler.inFlight.map (skipping number)
    stats := scheduler.stats.addSubmitted
    worker := scheduler.worker.renumber number
    calls
    completions := scheduler.completions.insertIdx number cell
    ui := scheduler.ui.map (Answered.renumber number) }

variable {scheduler number cell calls} {target : Nat}

theorem outcome?_withVoid :
    (scheduler.withVoid number cell calls).outcome? (skipping number target) =
      scheduler.outcome? target := by
  simp only [outcome?, withVoid_completions, getElem?_insertIdx_skipping]

theorem finish_withVoid (outcome : Outcome Output) :
    (scheduler.withVoid number cell calls).finish (skipping number target) outcome =
      (scheduler.finish target outcome).withVoid number cell calls := by
  simp only [finish, withVoid, modify_insertIdx]

theorem conclude_withVoid (outcome : Outcome Output) (count : Stats → Stats)
    (counts : ∀ stats : Stats, count stats.addSubmitted = (count stats).addSubmitted) :
    (scheduler.withVoid number cell calls).conclude (skipping number target) outcome count =
      (scheduler.conclude target outcome count).withVoid number cell calls := by
  unfold conclude
  rw [outcome?_withVoid]
  split
  · rfl
  · rw [finish_withVoid]
    simp only [withVoid, finish, counts]

theorem start_withVoid (launch : Launch) :
    (scheduler.withVoid number cell calls).start launch =
      (scheduler.start launch).map fun started => started.withVoid number cell calls := by
  unfold start
  simp only [withVoid_lifecycle, withVoid_config]
  cases scheduler.lifecycle with
  | idle => cases ThreadName.ofString? scheduler.config.threadName <;> cases launch <;> rfl
  | running | stopped => rfl

theorem recordResult_withVoid (request : Request Snapshot Callback) (analysis : Analysis Output)
    (reading : Attempt Version) (now : Instant) :
    (scheduler.withVoid number cell calls).recordResult (request.renumber number) analysis reading
        now =
      (scheduler.recordResult request analysis reading now).map fun recorded =>
        recorded.withVoid number cell calls := by
  have same : (scheduler.withVoid number cell calls).cacheAfter (request.renumber number) analysis
    reading = scheduler.cacheAfter request analysis reading := rfl
  rw [recordResult_eq, recordResult_eq, same]
  cases scheduler.cacheAfter request analysis reading <;> rfl

section Worker

theorem workerPoll_withVoid :
    (scheduler.withVoid number cell calls).workerPoll =
      scheduler.workerPoll.map fun next => next.withVoid number cell calls := by
  unfold workerPoll
  rw [withVoid_worker]
  cases scheduler.worker with
  | looping => cases stops : scheduler.cancelled <;> simp [withVoid, Worker.renumber, stops]
  | _ => rfl

theorem workerReceive_withVoid :
    (scheduler.withVoid number cell calls).workerReceive =
      scheduler.workerReceive.map fun next => next.withVoid number cell calls := by
  unfold workerReceive
  rw [withVoid_worker]
  cases scheduler.worker with
  | receiving =>
    simp only [Worker.renumber, withVoid_mailbox, LaneSlots.pop_map, Option.map_some]
    rcases scheduler.mailbox.pop with ⟨_ | _ | request, mailbox⟩ <;> rfl
  | _ => rfl

theorem workerBegin_withVoid :
    (scheduler.withVoid number cell calls).workerBegin =
      scheduler.workerBegin.map fun next => next.withVoid number cell calls := by
  unfold workerBegin
  rw [withVoid_worker]
  cases scheduler.worker with
  | holding request =>
    simp only [Worker.renumber, withVoid_cancelled]
    split
    · simp only [Request.id_renumber, conclude_withVoid .aborted Stats.addAborted fun _ => rfl]
      rfl
    · rfl
  | _ => rfl

theorem workerAnswer_withVoid (execution : Execution Output) :
    (scheduler.withVoid number cell calls).workerAnswer execution =
      (scheduler.workerAnswer execution).map fun next => next.withVoid number cell calls := by
  unfold workerAnswer
  rw [withVoid_worker]
  cases scheduler.worker with
  | executing request =>
    simp only [Worker.renumber, Request.id_renumber]
    cases execution.verdict with
    | ready analysis => rfl
    | failed =>
      simp only [conclude_withVoid .abandoned Stats.addAbandoned fun _ => rfl]
      rfl
    | cancelled =>
      simp only [conclude_withVoid .aborted Stats.addAborted fun _ => rfl]
      rfl
  | _ => rfl

theorem workerRecord_withVoid (reading : Attempt Version) (now : Instant) :
    (scheduler.withVoid number cell calls).workerRecord reading now =
      (scheduler.workerRecord reading now).map fun next => next.withVoid number cell calls := by
  unfold workerRecord
  rw [withVoid_worker]
  cases scheduler.worker with
  | recording request analysis =>
    simp only [Worker.renumber, recordResult_withVoid]
    cases scheduler.recordResult request analysis reading now with
    | error payload =>
      simp only [Except.map, Request.id_renumber, finish_withVoid]
      rfl
    | ok recorded => rfl
  | _ => rfl

theorem isOutdone_withVoid (request : Request Snapshot Callback) :
    (scheduler.withVoid number cell calls).isOutdone (request.renumber number) =
      scheduler.isOutdone request := by
  simp only [isOutdone, withVoid_cancelled, withVoid_mailbox, Request.reason_renumber,
    LaneSlots.contains_map (Job.renumber number) _ (Job.lane_renumber number)]

theorem workerDeliver_withVoid :
    (scheduler.withVoid number cell calls).workerDeliver =
      scheduler.workerDeliver.map fun next => next.withVoid number cell calls := by
  unfold workerDeliver
  rw [withVoid_worker]
  cases scheduler.worker with
  | delivering request analysis =>
    simp only [Worker.renumber, isOutdone_withVoid, Request.id_renumber, outcome?_withVoid,
      conclude_withVoid .superseded Stats.addSuperseded fun _ => rfl,
      conclude_withVoid (.completed analysis) Stats.addDelivered fun _ => rfl]
    split
    · rfl
    · split <;> rfl
  | _ => rfl

theorem workerPost_withVoid (accepted : Bool) :
    (scheduler.withVoid number cell calls).workerPost accepted =
      (scheduler.workerPost accepted).map fun next => next.withVoid number cell calls := by
  unfold workerPost
  rw [withVoid_worker]
  cases scheduler.worker with
  | posting request analysis =>
    cases accepted with
    | false => rfl
    | true =>
      have posts := UiQueue.post_map (Answered.renumber number) scheduler.ui ⟨request, analysis⟩
      simp only [Answered.renumber] at posts
      simp only [Worker.renumber, withVoid_ui, posts]
      rfl
  | _ => rfl

theorem workerClear_withVoid :
    (scheduler.withVoid number cell calls).workerClear =
      scheduler.workerClear.map fun next => next.withVoid number cell calls := by
  unfold workerClear
  rw [withVoid_worker]
  cases scheduler.worker with
  | clearing leaves => cases leaves <;> rfl
  | _ => rfl

end Worker

section Closing

theorem abort_withVoid (scheduler : Scheduler Snapshot Callback Output) (number : Nat)
    (cell : Completion Output) (calls : List (Call Snapshot Callback Output)) (target : Nat) :
    (scheduler.withVoid number cell calls).abort (skipping number target) =
      (scheduler.abort target).map id fun next => next.withVoid number cell calls := by
  simp only [abort, outcome?_withVoid, conclude_withVoid .aborted Stats.addAborted fun _ => rfl]
  rfl

theorem requests_map (jobs : List (Job Snapshot Callback)) :
    (jobs.map (Job.renumber number)).filterMap Job.request? =
      (jobs.filterMap Job.request?).map (Request.renumber number) := by
  rw [List.filterMap_map, List.map_filterMap]
  congr 1
  funext job
  cases job <;> rfl

theorem abortJobs_withVoid (scheduler : Scheduler Snapshot Callback Output) (number : Nat)
    (cell : Completion Output) (calls : List (Call Snapshot Callback Output))
    (jobs : List (Job Snapshot Callback)) :
    (scheduler.withVoid number cell calls).abortJobs (jobs.map (Job.renumber number)) =
      (scheduler.abortJobs jobs).map id fun next => next.withVoid number cell calls := by
  unfold abortJobs
  rw [requests_map, List.foldl_map]
  suffices general : ∀ requests : List (Request Snapshot Callback), ∀ count : Nat,
      requests.foldl _ (count, scheduler.withVoid number cell calls) =
        (requests.foldl _ (count, scheduler)).map id fun next => next.withVoid number cell calls from
    general _ 0
  intro requests
  induction requests generalizing scheduler with
  | nil => exact fun count => rfl
  | cons request rest ih =>
    intro count
    simp only [List.foldl_cons, Request.id_renumber, abort_withVoid, Prod.map]
    exact ih _ _

theorem shutdown_withVoid :
    (scheduler.withVoid number cell calls).shutdown =
      scheduler.shutdown.map id fun next => next.withVoid number cell calls := by
  unfold shutdown
  rw [withVoid_lifecycle]
  cases scheduler.lifecycle with
  | idle | stopped => rfl
  | running =>
    have aborts := abortJobs_withVoid
      { scheduler with lifecycle := .stopped, cancelled := true, mailbox := ⟨some .terminate, none⟩ }
      number cell calls scheduler.mailbox.toList
    rw [← LaneSlots.toList_map] at aborts
    exact congrArg (fun aborted => (none, { aborted.2 with closing := some aborted.1 })) aborts

theorem joinWorker_withVoid :
    (scheduler.withVoid number cell calls).joinWorker =
      scheduler.joinWorker.map (Prod.map id fun next => next.withVoid number cell calls) := by
  unfold joinWorker
  rw [withVoid_worker, withVoid_closing]
  cases scheduler.closing with
  | none => rfl
  | some count => cases scheduler.worker <;> rfl

theorem giveUpWorker_withVoid :
    (scheduler.withVoid number cell calls).giveUpWorker =
      scheduler.giveUpWorker.map (Prod.map id fun next => next.withVoid number cell calls) := by
  have exits : (scheduler.worker.renumber number).hasExited = scheduler.worker.hasExited := by
    cases scheduler.worker <;> rfl
  unfold giveUpWorker
  rw [withVoid_worker, withVoid_closing, exits]
  cases scheduler.closing with
  | none => rfl
  | some count =>
    dsimp only
    split
    · rfl
    · rw [withVoid_inFlight]
      cases scheduler.inFlight with
      | none => rfl
      | some target =>
        have aborts := abort_withVoid { scheduler with inFlight := none, closing := some count }
          number cell calls target
        exact congrArg (fun aborted => some (ShutdownReport.mk .timedOut (count + aborted.1),
          { aborted.2 with closing := none })) aborts

end Closing

section Submitting

variable {submission : Submission Snapshot Callback} {idleTriggered : Bool} {version : Version}
  {now : Instant}

theorem snd_openCall (open_ : scheduler.lifecycle ≠ .stopped) :
    (scheduler.openCall submission idleTriggered (.ok version) now).2 =
      { scheduler with
        stats := (scheduler.path submission).counted scheduler.stats.addSubmitted
        completions := scheduler.completions ++ [(scheduler.path submission).cell]
        calls := scheduler.calls ++ [⟨scheduler.built submission idleTriggered version now,
          (scheduler.path submission).phase⟩] } := by
  have noOutcome : Completion.recorded (scheduler.completions ++ [Completion.pending])
      scheduler.completions.length = none := by
    rw [Completion.recorded_append, if_pos rfl]
    rfl
  cases path : scheduler.path submission <;>
    simp [openCall, isShutDown, open_, path, addCall, conclude, outcome?_eq_recorded, noOutcome,
      finish, built, Completion.modify_append_last, Path.counted, Path.cell, Path.phase]

theorem path_withVoid :
    (scheduler.withVoid number cell calls).path submission = scheduler.path submission := rfl

theorem openCall_withVoid (cell : Completion Output)
    (calls : List (Call Snapshot Callback Output)) (submission : Submission Snapshot Callback)
    (idleTriggered : Bool) (reading : Attempt Version) (now : Instant)
    (room : number ≤ scheduler.completions.length) :
    ∃ added, (scheduler.openCall submission idleTriggered reading now).2.calls =
        scheduler.calls ++ added ∧
      (scheduler.withVoid number cell calls).openCall submission idleTriggered reading now =
        (scheduler.openCall submission idleTriggered reading now).map (Opening.renumber number)
          fun next => next.withVoid number cell (calls ++ added.map (Call.renumber number)) := by
  by_cases down : scheduler.lifecycle = .stopped
  · exact ⟨[], by simp [openCall, isShutDown, down],
      by simp [openCall, isShutDown, down, Opening.renumber]⟩
  · cases reading with
    | error payload =>
      exact ⟨[], by simp [openCall, isShutDown, down],
        by simp [openCall, isShutDown, down, Opening.renumber, withVoid]⟩
    | ok version =>
      have downToo : (scheduler.withVoid number cell calls).lifecycle ≠ .stopped := down
      have length : (scheduler.completions.insertIdx number cell).length =
          skipping number scheduler.completions.length := by
        rw [List.length_insertIdx_of_le_length room, skipping_of_le room]
      refine ⟨_, calls_openCall down, Prod.ext ?_ ?_⟩
      · rw [Prod.map_fst, fst_openCall down, fst_openCall downToo, withVoid_completions, length]
        rfl
      · rw [Prod.map_snd, snd_openCall down, snd_openCall downToo, path_withVoid]
        generalize scheduler.path submission = path
        simp only [withVoid, built, length, insertIdx_append _ room]
        cases path <;> rfl

theorem displace_withVoid (job : Job Snapshot Callback) :
    (scheduler.withVoid number cell calls).displace (job.renumber number) =
      (scheduler.displace job).withVoid number cell calls := by
  cases job with
  | terminate => rfl
  | analyze request =>
    simp only [Job.renumber, displace, Request.id_renumber, finish_withVoid]
    rfl

end Submitting

end Scheduler

end EditorAnalysis
