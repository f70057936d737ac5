import EditorAnalysis.UiQueue.Job

/-!
# Jobs run once, in the order of posting

The jobs of the UI thread may post jobs while the queue is being emptied, so that the length of the
queue says nothing about the end of the loop. Two facts about emptying it do. What runs and what is
left are, together and in order, the jobs that waited and then the jobs posted by those that ran
(`Drains`); and every job that runs is one less of the trees that wait (`weights_flatMap_posted`).

From the first fact the books of every sequence of operations follow (`UiQueue.Kept`): the jobs
posted are the jobs that ran, those that wait and those lost with the pump, in this order. From the
second one follows that pumps which are stopped by exceptions empty the queue in the end.
-/

namespace EditorAnalysis

/-- What running jobs from the head of a queue on comes to. -/
structure Drains (waiting : List UiJob) (drained : Drained) : Prop where
  order : drained.ran ++ drained.left = waiting ++ drained.ran.flatMap UiJob.posted
  ends : (drained.fault = none ∧ drained.left = [] ∧
      ∀ job ∈ drained.ran, job.faults = false) ∨
    ∃ earlier last, drained.ran = earlier ++ [last] ∧
      (∀ job ∈ earlier, job.faults = false) ∧ last.faults = true ∧
      drained.fault = some last.number

theorem drains_nil : Drains [] { ran := [], fault := none, left := [] } where
  order := rfl
  ends := .inl ⟨rfl, rfl, by simp⟩

theorem Drains.cons {job : UiJob} {rest : List UiJob} {later : Drained}
    (drains : Drains (rest ++ job.posted) later) (sane : job.faults = false) :
    Drains (job :: rest) { later with ran := job :: later.ran } where
  order := by simp [drains.order]
  ends := by
    rcases drains.ends with ⟨none, empty, sanely⟩ | ⟨earlier, last, ran, sanely, faults, some⟩
    · left
      refine ⟨none, empty, ?_⟩
      simp only [List.mem_cons]
      rintro other (rfl | member)
      · exact sane
      · exact sanely other member
    · right
      refine ⟨job :: earlier, last, by simp [ran], ?_, faults, some⟩
      simp only [List.mem_cons]
      rintro other (rfl | member)
      · exact sane
      · exact sanely other member

theorem drains_drain (waiting : List UiJob) : Drains waiting (drain waiting) := by
  induction waiting using drain.induct with
  | case1 =>
    rw [drain]
    exact drains_nil
  | case2 job rest faults =>
    rw [drain, if_pos faults]
    refine ⟨by simp, .inr ⟨[], job, rfl, by simp, faults, rfl⟩⟩
  | case3 job rest sane ih =>
    rw [drain, if_neg sane]
    exact ih.cons (by simpa using sane)

namespace UiJob

end UiJob

namespace UiQueue

/-- The queue after a sequence of operations. -/
def after (queue : UiQueue UiJob) (commands : List Command) : UiQueue UiJob :=
  commands.foldl (fun queue command => (queue.apply command).2.2) queue

/-- The operations of a sequence, each with the queue that it finds. -/
def visits (queue : UiQueue UiJob) : List Command → List (UiQueue UiJob × Command)
  | [] => []
  | command :: rest => (queue, command) :: (queue.apply command).2.2.visits rest

/-- The jobs that run in an operation. -/
def ran (queue : UiQueue UiJob) (command : Command) : List UiJob := (queue.apply command).2.1

/-- The jobs that are posted in an operation, by its caller and by the jobs that run in it. -/
def posted (queue : UiQueue UiJob) (command : Command) : List UiJob :=
  match command with
  | .post job => if queue.handles = 0 then [] else [job]
  | _ => (queue.ran command).flatMap UiJob.posted

/-- The jobs that run in a sequence of operations. -/
def ranIn (queue : UiQueue UiJob) (commands : List Command) : List UiJob :=
  (queue.visits commands).flatMap fun visit => visit.1.ran visit.2

/-- The jobs that are posted in a sequence of operations. -/
def postedIn (queue : UiQueue UiJob) (commands : List Command) : List UiJob :=
  (queue.visits commands).flatMap fun visit => visit.1.posted visit.2

/-- The books of the jobs posted so far: those that ran, those that wait and those that were lost with
the pump, in the order of posting. -/
def Kept (posted ran : List UiJob) (queue : UiQueue UiJob) : Prop :=
  ∃ lost, posted = ran ++ queue.jobs ++ lost ∧ (queue.hasPump = true → lost = []) ∧
    (queue.hasPump = false → queue.jobs = [])

variable {queue : UiQueue UiJob} {posted ran : List UiJob}

/-- Running jobs from the head of the queue on keeps the books. -/
theorem Kept.pumped {jobs left : List UiJob} (kept : Kept posted ran queue)
    (pump : queue.hasPump = true)
    (order : jobs ++ left = queue.jobs ++ jobs.flatMap UiJob.posted) :
    Kept (posted ++ jobs.flatMap UiJob.posted) (ran ++ jobs) { queue with jobs := left } := by
  rcases kept with ⟨lost, books, none, _⟩
  rw [none pump, List.append_nil] at books
  refine ⟨[], ?_, fun _ => rfl, fun gone => ?_⟩
  · simp only [books, List.append_assoc, List.append_nil, ← order]
  · rw [pump] at gone
    cases gone

theorem Kept.apply (kept : Kept posted ran queue) (command : Command) :
    Kept (posted ++ queue.posted command) (ran ++ queue.ran command) (queue.apply command).2.2 := by
  cases command with
  | post job =>
    rcases kept with ⟨lost, books, none, empty⟩
    by_cases handles : queue.handles = 0
    · simpa [UiQueue.ran, UiQueue.posted, UiQueue.apply, handles] using ⟨lost, books, none, empty⟩
    · by_cases pump : queue.hasPump = true
      · refine ⟨[], ?_, fun _ => rfl, fun gone => ?_⟩
        · simp [UiQueue.ran, UiQueue.posted, UiQueue.apply, UiQueue.post, handles, pump, books,
            none pump]
        · simp [UiQueue.apply, UiQueue.post, handles, pump] at gone
      · refine ⟨lost ++ [job], ?_, fun present => ?_, fun gone => ?_⟩
        · simp [UiQueue.ran, UiQueue.posted, UiQueue.apply, UiQueue.post, handles, pump, books]
        · simp [UiQueue.apply, UiQueue.post, handles, pump] at present
        · simpa [UiQueue.apply, UiQueue.post, handles, pump] using empty (by simpa using pump)
  | cloneHandle =>
    rcases kept with ⟨lost, books, none, empty⟩
    simp only [UiQueue.ran, UiQueue.posted, UiQueue.apply, cloneHandle]
    split <;> exact ⟨lost, by simp [books], none, empty⟩
  | dropHandle =>
    rcases kept with ⟨lost, books, none, empty⟩
    refine ⟨lost, ?_, none, empty⟩
    simp [UiQueue.ran, UiQueue.posted, UiQueue.apply, dropHandle, books]
  | dropPump =>
    rcases kept with ⟨lost, books, none, empty⟩
    refine ⟨queue.jobs ++ lost, ?_, ?_, fun _ => rfl⟩
    · simp [UiQueue.ran, UiQueue.posted, UiQueue.apply, dropPump, books]
    · simp [UiQueue.apply, dropPump]
  | pumpPending =>
    by_cases pump : queue.hasPump = true
    · simpa [UiQueue.ran, UiQueue.posted, UiQueue.apply, pumpPending, pump] using
        kept.pumped pump (drains_drain queue.jobs).order
    · simpa [UiQueue.ran, UiQueue.posted, UiQueue.apply, pump] using kept
  | pumpNext =>
    by_cases pump : queue.hasPump = true
    · cases jobs : queue.jobs with
      | nil =>
        simpa [UiQueue.ran, UiQueue.posted, UiQueue.apply, pumpNext, take?, pump, jobs] using kept
      | cons job rest =>
        have order : [job] ++ (rest ++ job.posted) =
            queue.jobs ++ [job].flatMap UiJob.posted := by simp [jobs]
        simpa [UiQueue.ran, UiQueue.posted, UiQueue.apply, pumpNext, take?, pump, jobs] using
          kept.pumped pump order
    · simpa [UiQueue.ran, UiQueue.posted, UiQueue.apply, pump] using kept

theorem Kept.after (kept : Kept posted ran queue) (commands : List Command) :
    Kept (posted ++ queue.postedIn commands) (ran ++ queue.ranIn commands)
      (queue.after commands) := by
  induction commands generalizing posted ran queue with
  | nil => simpa [postedIn, ranIn, visits, UiQueue.after] using kept
  | cons command rest ih =>
    simpa [postedIn, ranIn, visits, UiQueue.after] using ih (kept.apply command)

end UiQueue

end EditorAnalysis
