import EditorAnalysis.Scheduler.Submit

/-!
# The idle trigger

On each tick of the editor's idle loop the scheduler may start a full check by itself: if the view is
out of date, nothing is being analyzed or waiting, and the last edit lies back at least as far as the
quiet period, which grows with the duration of the last such check.
-/

namespace EditorAnalysis

variable {Snapshot Callback Output : Type}

/-- What the editor says on a tick of its idle loop. -/
structure IdleTrigger (Snapshot Callback : Type) where
  source : SourceId
  position : Position
  snapshot : Snapshot
  /-- The time since the last edit; zero if the edit lies ahead. -/
  quiet : Duration
  /-- The view is out of date. -/
  needsRefresh : Bool
  /-- What to run with the result. -/
  callback : Option Callback

/-- The submission behind a trigger: a full check that takes no recent result for an answer. -/
def IdleTrigger.submission (trigger : IdleTrigger Snapshot Callback) :
    Submission Snapshot Callback where
  source := trigger.source
  position := trigger.position
  reason := .fullTypeCheck
  snapshot := trigger.snapshot
  requireFresh := true
  callback := trigger.callback

/-- The trigger of a tick at one reading of the clock, with the last edit at another. -/
def IdleTrigger.since (trigger : IdleTrigger Snapshot Callback) (lastEdit now : Instant) :
    IdleTrigger Snapshot Callback :=
  { trigger with quiet := Instant.elapsed lastEdit now }

/-- What is to be done on a tick. -/
inductive IdleDecision where
  | notNeeded
  | busy
  /-- The quiet period lasts for some time yet. -/
  | waiting (remaining : Duration)
  /-- A full check is to be submitted. -/
  | submit
  deriving DecidableEq, Repr

namespace Scheduler

variable (scheduler : Scheduler Snapshot Callback Output)

/-- Decides what is to be done on a tick. -/
def idleDecision (needsRefresh : Bool) (quiet : Duration) : IdleDecision :=
  if !needsRefresh then .notNeeded
  else if scheduler.isBusy then .busy
  else
    let delay := scheduler.config.idleDelay scheduler.lastCompletion
    if delay.le quiet then .submit else .waiting (delay.sub quiet)

/-- One tick: the decision, the opening of the submission if there is one, and the scheduler after
it. -/
def onIdle (trigger : IdleTrigger Snapshot Callback) (reading : Attempt Version) (now : Instant) :
    (IdleDecision × Option Opening) × Scheduler Snapshot Callback Output :=
  match scheduler.idleDecision trigger.needsRefresh trigger.quiet with
  | .submit =>
      let (opening, next) := scheduler.openCall trigger.submission true reading now
      ((.submit, some opening), next)
  | decision => ((decision, none), scheduler)

end Scheduler

end EditorAnalysis
