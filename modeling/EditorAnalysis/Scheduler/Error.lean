/-!
# Errors of a scheduler

A call on a scheduler is refused after shutdown, or fails because the worker thread cannot be started.
-/

namespace EditorAnalysis

/-- An error that a call on a scheduler reports. -/
inductive SchedulerError where
  /-- The scheduler was shut down and takes no further work. -/
  | shutDown
  /-- The worker thread could not be started, for the given reason. -/
  | spawn (cause : String)
  deriving DecidableEq, Repr

namespace SchedulerError

/-- The message of an error. -/
def message : SchedulerError → String
  | .shutDown => "analysis scheduler has been shut down"
  | .spawn cause => "failed to spawn analysis worker thread: " ++ cause

/-- The message of the error behind an error. -/
def cause? : SchedulerError → Option String
  | .shutDown => none
  | .spawn cause => some cause

end SchedulerError

end EditorAnalysis
