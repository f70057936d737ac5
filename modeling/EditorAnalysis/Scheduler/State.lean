import EditorAnalysis.Completion
import EditorAnalysis.Config
import EditorAnalysis.Lane.Slots
import EditorAnalysis.RecentResult
import EditorAnalysis.Request
import EditorAnalysis.UiQueue

/-!
# The state of a scheduler

A scheduler owns one worker thread, which takes requests out of a two-slot queue, runs the analyzer on
them and posts the answered ones to the UI thread. `Scheduler` is everything the threads share, with
where the worker and each submission still under way have got to.

The number of a request is its place in `completions`: a request is constructed by adding a cell at
the end, and nothing ever takes a cell away.
-/

namespace EditorAnalysis

variable {Snapshot Callback Output : Type}

/-- What waits for the worker: a request, or the order to leave. -/
inductive Job (Snapshot Callback : Type) where
  | analyze (request : Request Snapshot Callback)
  | terminate

instance : HasLane (Job Snapshot Callback) where
  lane
    | .analyze request => request.reason.lane
    | .terminate => .interactive

/-- The request of a job. -/
def Job.request? : Job Snapshot Callback → Option (Request Snapshot Callback)
  | .analyze request => some request
  | .terminate => none

/-- The counters of a scheduler, which start over at the end of their words. -/
structure Stats where
  /-- Submissions let in. -/
  submitted : UInt64 := 0
  /-- Analyzer calls, on the worker or on a submitting thread. -/
  executed : UInt64 := 0
  /-- Requests whose callback was handed off. -/
  delivered : UInt64 := 0
  /-- Results dropped for newer work. -/
  superseded : UInt64 := 0
  /-- Requests thrown out of the queue for newer work. -/
  displaced : UInt64 := 0
  /-- Requests whose analyzer failed. -/
  abandoned : UInt64 := 0
  /-- Requests ended by a shutdown or a cancellation. -/
  aborted : UInt64 := 0
  /-- Submissions answered by the recent result. -/
  fastPathHits : UInt64 := 0
  deriving DecidableEq, Repr

namespace Stats

/-- The counters in the order of reports. -/
def toList (stats : Stats) : List UInt64 :=
  [stats.submitted, stats.executed, stats.delivered, stats.superseded, stats.displaced,
    stats.abandoned, stats.aborted, stats.fastPathHits]

/-- One more submission. -/
def addSubmitted (stats : Stats) : Stats := { stats with submitted := stats.submitted + 1 }

/-- One more analyzer call. -/
def addExecuted (stats : Stats) : Stats := { stats with executed := stats.executed + 1 }

/-- One more callback handed off. -/
def addDelivered (stats : Stats) : Stats := { stats with delivered := stats.delivered + 1 }

/-- One more result dropped for newer work. -/
def addSuperseded (stats : Stats) : Stats := { stats with superseded := stats.superseded + 1 }

/-- One more request thrown out of the queue. -/
def addDisplaced (stats : Stats) : Stats := { stats with displaced := stats.displaced + 1 }

/-- One more failed request. -/
def addAbandoned (stats : Stats) : Stats := { stats with abandoned := stats.abandoned + 1 }

/-- One more aborted request. -/
def addAborted (stats : Stats) : Stats := { stats with aborted := stats.aborted + 1 }

/-- One more answer from the recent result. -/
def addFastPathHit (stats : Stats) : Stats := { stats with fastPathHits := stats.fastPathHits + 1 }

end Stats

/-- How far the life of a scheduler has got. -/
inductive Lifecycle where
  | idle
  | running
  | stopped
  deriving DecidableEq, Repr

/-- Where the worker thread is. -/
inductive Worker (Snapshot Callback Output : Type) where
  | unstarted
  /-- At the head of its loop, about to look at its token. -/
  | looping
  /-- Waiting for a job. -/
  | receiving
  /-- Took a request out of the queue. -/
  | holding (request : Request Snapshot Callback)
  /-- Inside the analyzer. -/
  | executing (request : Request Snapshot Callback)
  /-- The analyzer returned an analysis, whose side effects are to be recorded. -/
  | recording (request : Request Snapshot Callback) (analysis : Analysis Output)
  /-- About to decide whether the analysis is delivered. -/
  | delivering (request : Request Snapshot Callback) (analysis : Analysis Output)
  /-- The request is completed and about to be posted to the UI thread. -/
  | posting (request : Request Snapshot Callback) (analysis : Analysis Output)
  /-- Done with a request, about to clear its marks and to go on or to leave. -/
  | clearing (leaves : Bool)
  | exited

namespace Worker

/-- The request the worker is concerned with. -/
def request? : Worker Snapshot Callback Output → Option (Request Snapshot Callback)
  | .holding request => some request
  | .executing request => some request
  | .recording request _ => some request
  | .delivering request _ => some request
  | .posting request _ => some request
  | _ => none

/-- The worker has left. -/
def hasExited : Worker Snapshot Callback Output → Bool
  | .exited => true
  | _ => false

end Worker

/-- Where a submission still under way has got to. -/
inductive CallPhase (Output : Type) where
  /-- The request is about to enter the queue. -/
  | queueing
  /-- The analyzer runs on the submitting thread. -/
  | executing
  /-- The analyzer returned an analysis, whose side effects are to be recorded. -/
  | recording (analysis : Analysis Output)
  /-- The callback runs on the submitting thread. -/
  | callingBack (analysis : Analysis Output)

/-- A submission still under way. -/
structure Call (Snapshot Callback Output : Type) where
  request : Request Snapshot Callback
  phase : CallPhase Output

/-- A scheduler: what its threads share, and where they have got to. -/
structure Scheduler (Snapshot Callback Output : Type) where
  config : Config
  /-- For which reasons the analyzer takes the recent result as an answer. -/
  sufficient : Reason → Bool
  lifecycle : Lifecycle := .idle
  /-- The worker's token has fired. -/
  cancelled : Bool := false
  /-- The jobs that wait for the worker. -/
  mailbox : LaneSlots (Job Snapshot Callback) := {}
  cache : RecencyCache Output := {}
  /-- The worker marked itself busy. -/
  busy : Bool := false
  /-- The milliseconds from submission to completion of the last idle check. -/
  lastCompletionMs : UInt64 := 0
  /-- The request the worker published as its present one. -/
  inFlight : Option RequestId := none
  stats : Stats := {}
  worker : Worker Snapshot Callback Output := .unstarted
  calls : List (Call Snapshot Callback Output) := []
  /-- The outcome cells of all requests ever constructed, by number. -/
  completions : List (Completion Output) := []
  /-- The shutdown that waits for the worker, with the number of requests it has aborted. -/
  closing : Option Nat := none
  ui : UiQueue (Answered Snapshot Callback Output) := {}

namespace Scheduler

/-- A scheduler before its first call. -/
def new (config : Config) (sufficient : Reason → Bool) : Scheduler Snapshot Callback Output :=
  { config, sufficient }

variable (scheduler : Scheduler Snapshot Callback Output)

/-- The outcome of a request. -/
def outcome? (id : RequestId) : Option (Outcome Output) :=
  scheduler.completions[id]?.bind Completion.outcome

/-- Ends a request with an outcome; a second outcome has no effect. -/
def finish (id : RequestId) (outcome : Outcome Output) : Scheduler Snapshot Callback Output :=
  { scheduler with completions := scheduler.completions.modify id (Completion.finish outcome) }

/-- Ends a request with an outcome and counts it, if it is the first outcome. -/
def conclude (id : RequestId) (outcome : Outcome Output) (count : Stats → Stats) :
    Scheduler Snapshot Callback Output :=
  if (scheduler.outcome? id).isSome then scheduler
  else { scheduler.finish id outcome with stats := count scheduler.stats }

/-- A request is being executed by the worker or waits in the queue, as far as the marks tell. -/
def isBusy : Bool := scheduler.busy || !scheduler.mailbox.isEmpty

/-- The scheduler was shut down. -/
def isShutDown : Bool := scheduler.lifecycle == .stopped

/-- The time from submission to completion of the last idle check. -/
def lastCompletion : Duration := .ofMillis scheduler.lastCompletionMs

/-- The token of a request has fired. -/
def isCancelled (request : Request Snapshot Callback) : Bool :=
  match request.token with
  | .own => false
  | .worker => scheduler.cancelled

/-- The submission under way of a given request. -/
def call? (id : RequestId) : Option (Call Snapshot Callback Output) :=
  scheduler.calls.find? fun call => call.request.id == id

/-- Moves a submission under way to another phase. -/
def setPhase (id : RequestId) (phase : CallPhase Output) : Scheduler Snapshot Callback Output :=
  { scheduler with
    calls := scheduler.calls.map fun call =>
      if call.request.id = id then { call with phase } else call }

/-- Takes a submission that has returned off the list. -/
def endCall (id : RequestId) : Scheduler Snapshot Callback Output :=
  { scheduler with calls := scheduler.calls.filter fun call => call.request.id != id }

end Scheduler

end EditorAnalysis
