import EditorAnalysis.UiQueue

/-!
# Jobs that post jobs

`UiJob` is a job as a tree: it is known by a number, may own a handle of the queue and post further
jobs through it, and may end by an exception. Running the queue dry ends because every job taken out
is one job less of the trees that wait, counted with all the jobs they will post.
-/

namespace EditorAnalysis

/-- A job of the UI thread. -/
inductive UiJob where
  /-- A job of the given number. One that owns a handle posts the listed jobs through it; one that
  faults raises an exception after that. -/
  | make (number : Nat) (ownsHandle : Bool) (posts : List UiJob) (faults : Bool)

namespace UiJob

/-- The number of a job. -/
def number : UiJob → Nat
  | .make number _ _ _ => number

/-- The job owns a handle of the queue. -/
def ownsHandle : UiJob → Bool
  | .make _ owns _ _ => owns

/-- The jobs posted when the job runs. -/
def posted : UiJob → List UiJob
  | .make _ owns posts _ => if owns then posts else []

/-- The job ends by an exception. -/
def faults : UiJob → Bool
  | .make _ _ _ fails => fails

mutual

/-- The number of jobs in a tree. -/
def weight : UiJob → Nat
  | .make _ _ posts _ => 1 + weights posts

/-- The number of jobs in a list of trees. -/
def weights : List UiJob → Nat
  | [] => 0
  | job :: rest => weight job + weights rest

end

theorem weights_append (left right : List UiJob) :
    weights (left ++ right) = weights left + weights right := by
  induction left with
  | nil => simp [weights]
  | cons job rest ih => simp [weights, ih, Nat.add_assoc]

theorem weights_posted_lt (job : UiJob) : weights job.posted < weight job := by
  cases job with
  | make number owns posts fails =>
      cases owns with
      | false =>
          simp only [posted, weight, weights, Bool.false_eq_true, if_false]
          omega
      | true =>
          simp only [posted, weight, if_true]
          omega

end UiJob

/-- What running jobs one after the other came to. -/
structure Drained where
  /-- The jobs that ran, in order. -/
  ran : List UiJob
  /-- The number of the job that ended by an exception, if one did. -/
  fault : Option Nat
  /-- The jobs that still wait. -/
  left : List UiJob

/-- Runs jobs, oldest first and each followed later by what it posts, until none waits or one ends by
an exception. -/
def drain : List UiJob → Drained
  | [] => { ran := [], fault := none, left := [] }
  | job :: rest =>
      if job.faults then
        { ran := [job], fault := some job.number, left := rest ++ job.posted }
      else
        let later := drain (rest ++ job.posted)
        { later with ran := job :: later.ran }
termination_by jobs => UiJob.weights jobs
decreasing_by
  rw [UiJob.weights_append, UiJob.weights]
  have := UiJob.weights_posted_lt job
  omega

namespace UiQueue

/-- One operation of the holders of a queue and its pump. -/
inductive Command where
  /-- Post a job through a handle, if one is left. -/
  | post (job : UiJob)
  | cloneHandle
  | dropHandle
  | dropPump
  /-- Run every job that waits, and every job posted meanwhile. -/
  | pumpPending
  /-- Run the oldest job, or say why there is none. -/
  | pumpNext

/-- The answer to one operation. -/
inductive Answer where
  | posted
  /-- No handle is left to post through. -/
  | noHandle
  | handles (count : Nat)
  /-- Whether there was a pump to give up. -/
  | droppedPump (present : Bool)
  | ran (count : Nat)
  /-- A job ran; or none waits and none can come. -/
  | ranNext (more : Bool)
  /-- No job waits, but one may still come. -/
  | pending
  /-- The job of the given number ended by an exception. -/
  | fault (number : Nat)
  /-- There is no pump. -/
  | noPump
  deriving DecidableEq, Repr

/-- Runs every job that waits: the answer, the jobs that ran, and the queue left. The jobs are
counted in a word, which starts over at its end. -/
def pumpPending (queue : UiQueue UiJob) : Answer × List UiJob × UiQueue UiJob :=
  let drained := drain queue.jobs
  let answer := match drained.fault with
    | some number => .fault number
    | none => .ran (UInt64.ofNat drained.ran.length).toNat
  (answer, drained.ran, { queue with jobs := drained.left })

/-- Runs the oldest job: the answer, the jobs that ran, and the queue left. -/
def pumpNext (queue : UiQueue UiJob) : Answer × List UiJob × UiQueue UiJob :=
  match queue.take? with
  | some (job, rest) =>
      let answer := if job.faults then .fault job.number else .ranNext true
      (answer, [job], { rest with jobs := rest.jobs ++ job.posted })
  | none => (if queue.isClosed UiJob.ownsHandle then .ranNext false else .pending, [], queue)

/-- Carries out one operation: the answer, the jobs that ran, and the queue left. -/
def apply (queue : UiQueue UiJob) : Command → Answer × List UiJob × UiQueue UiJob
  | .post job => if queue.handles = 0 then (.noHandle, [], queue) else (.posted, [], queue.post job)
  | .cloneHandle => let next := queue.cloneHandle; (.handles next.handles, [], next)
  | .dropHandle => let next := queue.dropHandle; (.handles next.handles, [], next)
  | .dropPump => (.droppedPump queue.hasPump, [], queue.dropPump)
  | .pumpPending => if queue.hasPump then queue.pumpPending else (.noPump, [], queue)
  | .pumpNext => if queue.hasPump then queue.pumpNext else (.noPump, [], queue)

/-- Carries out operations one after the other and lists each answer with the numbers of the jobs
that ran. -/
def history (queue : UiQueue UiJob) : List Command → List (Answer × List Nat)
  | [] => []
  | command :: rest =>
      let (answer, ran, next) := queue.apply command
      (answer, ran.map UiJob.number) :: next.history rest

end UiQueue

end EditorAnalysis
