/-!
# The queue of the UI thread

Whatever holds a handle of a `UiQueue` may post jobs; whoever owns its pump takes them out in the
order of posting. Jobs posted after the pump is gone are discarded. The queue is closed once no handle
is left, neither with a caller nor with a job that still waits.
-/

namespace EditorAnalysis

variable {Job : Type}

/-- The jobs that wait for the UI thread. -/
structure UiQueue (Job : Type) where
  /-- The jobs, oldest first. -/
  jobs : List Job := []
  hasPump : Bool := true
  /-- The number of handles that callers hold. -/
  handles : Nat := 1

namespace UiQueue

/-- Posts a job; without a pump it is discarded. -/
def post (job : Job) (queue : UiQueue Job) : UiQueue Job :=
  if queue.hasPump then { queue with jobs := queue.jobs ++ [job] } else queue

/-- Takes the oldest job out. -/
def take? (queue : UiQueue Job) : Option (Job × UiQueue Job) :=
  match queue.jobs with
  | [] => none
  | job :: rest => some (job, { queue with jobs := rest })

/-- Makes one more handle of a handle, if there is one. -/
def cloneHandle (queue : UiQueue Job) : UiQueue Job :=
  if queue.handles = 0 then queue else { queue with handles := queue.handles + 1 }

/-- Gives one handle up. -/
def dropHandle (queue : UiQueue Job) : UiQueue Job :=
  { queue with handles := queue.handles - 1 }

/-- Gives the pump up, and with it every job that waits. -/
def dropPump (queue : UiQueue Job) : UiQueue Job :=
  { queue with jobs := [], hasPump := false }

/-- No handle is left, given which jobs own one. -/
def isClosed (ownsHandle : Job → Bool) (queue : UiQueue Job) : Bool :=
  queue.handles == 0 && !queue.jobs.any ownsHandle

end UiQueue

end EditorAnalysis
