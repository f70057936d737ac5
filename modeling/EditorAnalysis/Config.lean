import EditorAnalysis.Duration

/-!
# Settings of a scheduler

Every setting has a default, so that a document which sets nothing is a valid one.
-/

namespace EditorAnalysis

/-- The settings of a scheduler. -/
structure Config where
  /-- Submissions may be queued; otherwise every one runs on the submitting thread. -/
  asyncEnabled : Bool := true
  /-- The longest idle wait of the worker before it looks for its cancellation again. -/
  pollIntervalMs : UInt64 := 10000
  /-- How long a shutdown waits for the worker to leave. -/
  shutdownTimeoutMs : UInt64 := 10
  /-- The suggested bound for callers that wait for an outcome. -/
  completionWaitMs : UInt64 := 1000
  /-- The least quiet period after an edit before an idle check. -/
  codeSenseDelayMs : UInt64 := 1000
  /-- The cap on the quiet period. -/
  maxIdleDelayMs : UInt64 := 1000
  threadName : String := "vigil-analysis"
  deriving DecidableEq, Repr

namespace Config

/-- The settings nobody changed. -/
def default : Config := {}

/-- The poll interval as a duration. -/
def pollInterval (config : Config) : Duration := .ofMillis config.pollIntervalMs

/-- The shutdown timeout as a duration. -/
def shutdownTimeout (config : Config) : Duration := .ofMillis config.shutdownTimeoutMs

/-- The completion wait as a duration. -/
def completionWait (config : Config) : Duration := .ofMillis config.completionWaitMs

/-- The least quiet period as a duration. -/
def codeSenseDelay (config : Config) : Duration := .ofMillis config.codeSenseDelayMs

/-- The cap on the quiet period as a duration. -/
def maxIdleDelay (config : Config) : Duration := .ofMillis config.maxIdleDelayMs

/-- The quiet period that an edit must be followed by before an idle check. Slow checks push it up to
a third of their duration, but never beyond the cap. -/
def idleDelay (lastCompletion : Duration) (config : Config) : Duration :=
  (lastCompletion.third.max config.codeSenseDelay).min config.maxIdleDelay

end Config

end EditorAnalysis
