import EditorAnalysis.Scheduler.Shutdown
import EditorAnalysis.Scheduler.Submit

/-!
# Outcomes on record

Whatever ends a request goes through `Completion.finish`, and so only the first outcome is ever
recorded. This file says once what that does to the cells of a scheduler: every function that ends
requests is rewritten as a record update whose cells are those of `Completion.endAll`. Proofs about
steps then need to know a single operation on cells.
-/

namespace EditorAnalysis

variable {Snapshot Callback Output : Type}

namespace Completion

/-- A cell was announced once if it has an outcome, and never otherwise. -/
def Consistent (cell : Completion Output) : Prop :=
  cell.announcements = if cell.isComplete then 1 else 0

theorem consistent_pending : (pending : Completion Output).Consistent := rfl

theorem consistent_finish {cell : Completion Output} (outcome : Outcome Output)
    (consistent : cell.Consistent) : (cell.finish outcome).Consistent := by
  unfold finish
  split
  · exact consistent
  · next open_ =>
    simp only [Consistent, open_] at consistent
    simp [Consistent, announce, release, record, isComplete, consistent]

@[simp]
theorem outcome_finish (outcome : Outcome Output) (cell : Completion Output) :
    (cell.finish outcome).outcome = some (cell.outcome.getD outcome) := by
  cases found : cell.outcome <;>
    simp [finish, isComplete, announce, release, record, found]

theorem finish_of_isSome {cell : Completion Output} (outcome : Outcome Output)
    (complete : cell.outcome.isSome) : cell.finish outcome = cell := by
  simp [finish, isComplete, complete]

/-- The outcome on record under a number. -/
def recorded (cells : List (Completion Output)) (id : RequestId) : Option (Outcome Output) :=
  cells[id]?.bind outcome

/-- The cells after the requests of the given numbers were ended. -/
def endAll (outcome : Outcome Output) (ids : List RequestId)
    (cells : List (Completion Output)) : List (Completion Output) :=
  ids.foldl (fun cells id => cells.modify id (finish outcome)) cells

@[simp]
theorem endAll_nil (outcome : Outcome Output) (cells : List (Completion Output)) :
    endAll outcome [] cells = cells := rfl

theorem endAll_cons (outcome : Outcome Output) (id : RequestId) (ids : List RequestId)
    (cells : List (Completion Output)) :
    endAll outcome (id :: ids) cells = endAll outcome ids (cells.modify id (finish outcome)) := rfl

@[simp]
theorem length_endAll (outcome : Outcome Output) (ids : List RequestId)
    (cells : List (Completion Output)) : (endAll outcome ids cells).length = cells.length := by
  induction ids generalizing cells with
  | nil => rfl
  | cons id ids ih => rw [endAll_cons, ih, List.length_modify]

theorem recorded_modify (outcome : Outcome Output) (cells : List (Completion Output))
    (target id : RequestId) :
    recorded (cells.modify target (finish outcome)) id =
      if id = target ∧ id < cells.length then some ((recorded cells id).getD outcome)
      else recorded cells id := by
  simp only [recorded, List.getElem?_modify]
  by_cases same : target = id
  · subst same
    by_cases born : target < cells.length
    · simp [born]
    · simp [born]
  · simp [same, Ne.symm same]

/-- Ending requests gives an outcome to those among them that have none, and to no others. -/
theorem recorded_endAll (outcome : Outcome Output) (ids : List RequestId)
    (cells : List (Completion Output)) (id : RequestId) :
    recorded (endAll outcome ids cells) id =
      if id ∈ ids ∧ id < cells.length then some ((recorded cells id).getD outcome)
      else recorded cells id := by
  induction ids generalizing cells with
  | nil => simp
  | cons target ids ih =>
    rw [endAll_cons, ih, recorded_modify, List.length_modify]
    by_cases here : id = target
    · subst here
      by_cases born : id < cells.length <;> simp [born]
    · simp [here]

theorem recorded_endAll_same {cells : List (Completion Output)} {id : RequestId}
    (outcome : Outcome Output) (born : id < cells.length) :
    recorded (endAll outcome [id] cells) id = some ((recorded cells id).getD outcome) := by
  rw [recorded_endAll, if_pos ⟨List.mem_singleton_self id, born⟩]

theorem recorded_endAll_other {cells : List (Completion Output)} {ids : List RequestId}
    {id : RequestId} (outcome : Outcome Output) (other : id ∉ ids) :
    recorded (endAll outcome ids cells) id = recorded cells id := by
  rw [recorded_endAll, if_neg fun both => other both.1]

/-- A request gets an outcome only by being ended with it. -/
theorem eq_of_recorded_endAll {cells : List (Completion Output)} {ids : List RequestId}
    {id : RequestId} {outcome other : Outcome Output} (pending : recorded cells id = none)
    (settled : recorded (endAll other ids cells) id = some outcome) :
    id ∈ ids ∧ outcome = other := by
  rw [recorded_endAll, pending] at settled
  split at settled
  · next ended => exact ⟨ended.1, (Option.some.inj settled).symm⟩
  · cases settled

theorem consistent_endAll {outcome : Outcome Output} {ids : List RequestId}
    {cells : List (Completion Output)} (consistent : ∀ cell ∈ cells, cell.Consistent) :
    ∀ cell ∈ endAll outcome ids cells, cell.Consistent := by
  induction ids generalizing cells with
  | nil => exact consistent
  | cons id ids ih =>
    apply ih
    intro cell cellMem
    rcases List.mem_iff_getElem?.mp cellMem with ⟨index, found⟩
    rw [List.getElem?_modify] at found
    rcases Option.map_eq_some_iff.mp found with ⟨old, oldFound, rfl⟩
    have oldConsistent := consistent old (List.mem_of_getElem? oldFound)
    split
    · exact consistent_finish outcome oldConsistent
    · exact oldConsistent

theorem modify_finish_of_recorded {cells : List (Completion Output)} {id : RequestId}
    (outcome : Outcome Output) (settled : (recorded cells id).isSome) :
    cells.modify id (finish outcome) = cells := by
  apply List.ext_getElem?
  intro index
  rw [List.getElem?_modify]
  by_cases same : id = index
  · subst same
    cases found : cells[id]? with
    | none => rfl
    | some cell =>
      simp only [recorded, found, Option.bind_some] at settled
      simp [finish_of_isSome outcome settled]
  · simp [same]

theorem modify_append_last (cells : List (Completion Output)) (cell : Completion Output)
    (change : Completion Output → Completion Output) :
    (cells ++ [cell]).modify cells.length change = cells ++ [change cell] := by
  induction cells with
  | nil => rfl
  | cons first rest ih => simp [ih]

theorem recorded_append (cells : List (Completion Output)) (cell : Completion Output)
    (id : RequestId) :
    recorded (cells ++ [cell]) id =
      if id = cells.length then cell.outcome else recorded cells id := by
  simp only [recorded]
  by_cases before : id < cells.length
  · simp [List.getElem?_append_left before, Nat.ne_of_lt before]
  · rw [List.getElem?_append_right (Nat.le_of_not_lt before)]
    by_cases last : id = cells.length
    · simp [last]
    · have beyond : cells.length < id := Nat.lt_of_le_of_ne (Nat.le_of_not_lt before) (Ne.symm last)
      rw [List.getElem?_eq_none (Nat.sub_pos_of_lt beyond), if_neg last,
        List.getElem?_eq_none (Nat.le_of_lt beyond)]

theorem outcome_of_recorded_append {cells : List (Completion Output)} {cell : Completion Output}
    {id : RequestId} {outcome : Outcome Output} (pending : recorded cells id = none)
    (settled : recorded (cells ++ [cell]) id = some outcome) : cell.outcome = some outcome := by
  rw [recorded_append, pending] at settled
  split at settled
  · exact settled
  · cases settled

theorem recorded_eq_none_of_le {cells : List (Completion Output)} {id : RequestId}
    (unborn : cells.length ≤ id) : recorded cells id = none := by
  simp [recorded, List.getElem?_eq_none unborn]

end Completion

/-- The numbers of the requests among some jobs. -/
def Job.requestIds (jobs : List (Job Snapshot Callback)) : List RequestId :=
  (jobs.filterMap Job.request?).map fun request => request.id

@[simp]
theorem Job.requestIds_nil : Job.requestIds ([] : List (Job Snapshot Callback)) = [] := rfl

@[simp]
theorem Job.requestIds_analyze (request : Request Snapshot Callback)
    (jobs : List (Job Snapshot Callback)) :
    Job.requestIds (.analyze request :: jobs) = request.id :: Job.requestIds jobs := rfl

@[simp]
theorem Job.requestIds_terminate (jobs : List (Job Snapshot Callback)) :
    Job.requestIds (.terminate :: jobs) = Job.requestIds jobs := rfl

@[simp]
theorem Job.requestIds_append (left right : List (Job Snapshot Callback)) :
    Job.requestIds (left ++ right) = Job.requestIds left ++ Job.requestIds right := by
  simp [Job.requestIds]

theorem Job.requestIds_perm {left right : List (Job Snapshot Callback)} (perm : left.Perm right) :
    (Job.requestIds left).Perm (Job.requestIds right) :=
  (perm.filterMap _).map _

theorem Job.requestIds_sublist {left right : List (Job Snapshot Callback)}
    (sublist : left.Sublist right) : (Job.requestIds left).Sublist (Job.requestIds right) :=
  (sublist.filterMap _).map _

namespace Scheduler

variable (scheduler : Scheduler Snapshot Callback Output)

theorem outcome?_eq_recorded (id : RequestId) :
    scheduler.outcome? id = Completion.recorded scheduler.completions id := rfl

theorem lt_length_of_outcome? {scheduler : Scheduler Snapshot Callback Output} {id : RequestId}
    {outcome : Outcome Output}
    (settled : scheduler.outcome? id = some outcome) : id < scheduler.completions.length := by
  apply Decidable.byContradiction
  intro unborn
  rw [outcome?_eq_recorded, Completion.recorded_eq_none_of_le (Nat.le_of_not_lt unborn)] at settled
  cases settled

/-- The outcomes once some requests have been ended. -/
theorem outcome?_endAll {scheduler next : Scheduler Snapshot Callback Output}
    {outcome : Outcome Output} {ids : List RequestId}
    (completions : next.completions = Completion.endAll outcome ids scheduler.completions)
    (id : RequestId) : next.outcome? id =
      if id ∈ ids ∧ id < scheduler.completions.length then
        some ((scheduler.outcome? id).getD outcome)
      else scheduler.outcome? id := by
  rw [outcome?_eq_recorded, completions]
  exact Completion.recorded_endAll outcome ids scheduler.completions id

/-- A request without an outcome gets the one it is ended with. -/
theorem outcome?_of_ended {scheduler next : Scheduler Snapshot Callback Output}
    {outcome : Outcome Output} {ids : List RequestId} {id : RequestId}
    (completions : next.completions = Completion.endAll outcome ids scheduler.completions)
    (named : id ∈ ids) (born : id < scheduler.completions.length)
    (pending : scheduler.outcome? id = none) : next.outcome? id = some outcome := by
  rw [outcome?_endAll completions, if_pos ⟨named, born⟩, pending]
  rfl

theorem finish_eq (id : RequestId) (outcome : Outcome Output) :
    scheduler.finish id outcome =
      { scheduler with completions := Completion.endAll outcome [id] scheduler.completions } := rfl

/-- Ending a request leaves everything alone but its cell and, for a first outcome, the counters. -/
theorem conclude_eq (id : RequestId) (outcome : Outcome Output) (count : Stats → Stats) :
    scheduler.conclude id outcome count =
      { scheduler with
        completions := Completion.endAll outcome [id] scheduler.completions
        stats := if (scheduler.outcome? id).isSome then scheduler.stats
          else count scheduler.stats } := by
  unfold conclude
  split
  · next settled =>
    rw [Completion.endAll_cons, Completion.endAll_nil,
      Completion.modify_finish_of_recorded outcome settled]
  · rfl

/-- Throwing jobs out ends their requests as displaced and counts each of them. -/
theorem foldl_displace_eq (jobs : List (Job Snapshot Callback)) :
    jobs.foldl displace scheduler =
      { scheduler with
        completions := Completion.endAll .displaced (Job.requestIds jobs) scheduler.completions
        stats := { scheduler.stats with
          displaced := scheduler.stats.displaced + UInt64.ofNat (Job.requestIds jobs).length } } := by
  induction jobs generalizing scheduler with
  | nil => simp
  | cons job jobs ih =>
    rw [List.foldl_cons, ih]
    cases job with
    | analyze request =>
      simp only [displace, Stats.addDisplaced, finish, Job.requestIds_analyze,
        Completion.endAll_cons, List.length_cons, UInt64.add_assoc]
      congr 3
      rw [UInt64.add_comm 1, UInt64.ofNat_add]
      rfl
    | terminate => rfl

/-- Aborts one more request and counts it if it had no outcome before. -/
def abortNext (counted : Nat × Scheduler Snapshot Callback Output)
    (request : Request Snapshot Callback) : Nat × Scheduler Snapshot Callback Output :=
  (counted.1 + (counted.2.abort request.id).1, (counted.2.abort request.id).2)

theorem abortJobs_eq_foldl (jobs : List (Job Snapshot Callback)) :
    scheduler.abortJobs jobs = (jobs.filterMap Job.request?).foldl abortNext (0, scheduler) := rfl

/-- Aborting jobs ends their requests as aborted; besides that only the counters change. -/
theorem abortJobs_eq (jobs : List (Job Snapshot Callback)) :
    (scheduler.abortJobs jobs).2 =
      { scheduler with
        completions := Completion.endAll .aborted (Job.requestIds jobs) scheduler.completions
        stats := (scheduler.abortJobs jobs).2.stats } := by
  suffices general : ∀ (requests : List (Request Snapshot Callback))
      (counted : Nat × Scheduler Snapshot Callback Output),
      (requests.foldl abortNext counted).2 =
        { counted.2 with
          completions := Completion.endAll .aborted (requests.map fun request => request.id)
            counted.2.completions
          stats := (requests.foldl abortNext counted).2.stats } by
    rw [abortJobs_eq_foldl]
    exact general (jobs.filterMap Job.request?) (0, scheduler)
  intro requests
  induction requests with
  | nil => intro counted; rfl
  | cons request requests ih =>
    intro counted
    rw [List.foldl_cons, ih]
    simp only [abortNext, abort, conclude_eq, List.map_cons, Completion.endAll_cons,
      Completion.endAll_nil]

/-- Aborting counts every request that had no outcome. -/
theorem abortJobs_count (jobs : List (Job Snapshot Callback))
    (distinct : (Job.requestIds jobs).Nodup)
    (pending : ∀ id ∈ Job.requestIds jobs, scheduler.outcome? id = none) :
    (scheduler.abortJobs jobs).1 = (Job.requestIds jobs).length := by
  suffices general : ∀ (requests : List (Request Snapshot Callback))
      (counted : Nat × Scheduler Snapshot Callback Output),
      (requests.map fun request => request.id).Nodup →
      (∀ request ∈ requests, counted.2.outcome? request.id = none) →
      (requests.foldl abortNext counted).1 = counted.1 + requests.length by
    have counted := general (jobs.filterMap Job.request?) (0, scheduler) distinct
      fun request member => pending request.id (List.mem_map_of_mem member)
    rw [abortJobs_eq_foldl, counted, Nat.zero_add, Job.requestIds, List.length_map]
  intro requests
  induction requests with
  | nil => intro counted _ _; rfl
  | cons request requests ih =>
    intro counted distinct pending
    rw [List.map_cons, List.nodup_cons] at distinct
    have first := pending request List.mem_cons_self
    have next : abortNext counted request =
        (counted.1 + 1, counted.2.conclude request.id .aborted Stats.addAborted) := by
      rw [abortNext, abort, first]
      rfl
    have rest : ∀ other ∈ requests, (abortNext counted request).2.outcome? other.id = none := by
      intro other member
      have apart : other.id ∉ [request.id] := by
        rw [List.mem_singleton]
        intro same
        exact distinct.1 (same ▸ List.mem_map_of_mem (f := fun request => request.id) member)
      rw [next, conclude_eq, outcome?_eq_recorded, Completion.recorded_endAll_other _ apart]
      exact pending other (List.mem_cons_of_mem _ member)
    rw [List.foldl_cons, ih _ distinct.2 rest, next, List.length_cons]
    omega

/-- Aborting adds to one counter as many as it counts. -/
theorem stats_abortJobs (jobs : List (Job Snapshot Callback)) :
    (scheduler.abortJobs jobs).2.stats = { scheduler.stats with
      aborted := scheduler.stats.aborted + UInt64.ofNat (scheduler.abortJobs jobs).1 } := by
  suffices general : ∀ (requests : List (Request Snapshot Callback))
      (counted : Nat × Scheduler Snapshot Callback Output),
      counted.2.stats = { scheduler.stats with
        aborted := scheduler.stats.aborted + UInt64.ofNat counted.1 } →
      (requests.foldl abortNext counted).2.stats = { scheduler.stats with
        aborted := scheduler.stats.aborted +
          UInt64.ofNat (requests.foldl abortNext counted).1 } by
    rw [abortJobs_eq_foldl]
    exact general (jobs.filterMap Job.request?) (0, scheduler) (by simp)
  intro requests
  induction requests with
  | nil => exact fun _ agrees => agrees
  | cons request requests ih =>
    intro counted agrees
    rw [List.foldl_cons]
    apply ih
    simp only [abortNext, abort, conclude_eq]
    split
    · exact agrees
    · rw [agrees]
      simp [Stats.addAborted, UInt64.ofNat_add, UInt64.add_assoc]

end Scheduler

end EditorAnalysis
