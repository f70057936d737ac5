import EditorAnalysis.Scheduler.Run

/-!
# What other threads see of a step

`Scheduler.step` takes three things as a whole of which other threads see parts: how the worker begins
a request, how it decides on delivery, and how a shutdown comes to wait for the worker. `Interleaved`
is a scheduler with the points that the worker and the shutdown have reached inside of them.

* The worker looks at its token and publishes the request it holds under the lock of the slot. After
  that it marks itself busy, counts the analyzer call and makes it. It is `executing` from the first of
  these on, and its point says how far it is from the call.
* It decides on delivery by two looks, at its token and then at the queue.
* A shutdown fires the token and then drains the queue, both under the lock of the lifecycle, which the
  worker never takes. It gives the lock back and aborts what it has drained, one request after the
  other.

Whatever else happens is an event as before. An event that takes the lock of the lifecycle is not
possible while a shutdown has it.
-/

namespace EditorAnalysis

variable {Snapshot Callback Output : Type}

/-- Where the worker is inside of a step. -/
inductive WorkerPoint where
  /-- Between two steps. -/
  | between
  /-- It has published its request, and is about to mark itself busy. -/
  | published
  /-- It is marked busy, and about to count the analyzer call. -/
  | marked
  /-- The analyzer call is counted and about to be made. -/
  | counted
  /-- It has looked at its token; the flag says whether the result may be dropped for what waits. -/
  | looked (droppable : Bool)
  deriving DecidableEq, Repr

/-- Where a shutdown is that does not wait for the worker yet. -/
inductive ShutdownPoint (Snapshot Callback : Type) where
  /-- There is none. -/
  | between
  /-- The token has fired, and the shutdown has the lock of the lifecycle. -/
  | fired
  /-- The queue is drained. Some requests are yet to be aborted, and some have been. -/
  | draining (requests : List (Request Snapshot Callback)) (aborted : Nat)

/-- A scheduler with the points that its worker and its shutdown have reached. -/
structure Interleaved (Snapshot Callback Output : Type) where
  shared : Scheduler Snapshot Callback Output
  worker : WorkerPoint := .between
  shutdown : ShutdownPoint Snapshot Callback := .between

/-- One step of one thread, as others see it. -/
inductive Move (Snapshot Callback Output : Type) where
  /-- A step that others see as a whole. -/
  | event (event : Event Snapshot Callback Output)
  /-- The worker looks at its token and publishes the request it holds, or skips it. -/
  | publish
  /-- The worker marks itself busy. -/
  | mark
  /-- The worker counts the analyzer call. -/
  | count
  /-- The worker calls the analyzer. -/
  | call
  /-- The worker looks whether its token has fired, to decide on delivery. -/
  | look
  /-- The worker looks at the queue and decides on delivery. -/
  | decide
  /-- A shutdown takes the lock of the lifecycle and fires the token. -/
  | fire
  /-- The shutdown drains the queue and gives the lock back. -/
  | drain
  /-- The shutdown aborts the next of the requests it has drained. -/
  | abort
  /-- The shutdown begins to wait for the worker. -/
  | await

namespace Interleaved

/-- A scheduler before its first call. -/
def new (config : Config) (sufficient : Reason → Bool) : Interleaved Snapshot Callback Output :=
  { shared := .new config sufficient }

variable (threads : Interleaved Snapshot Callback Output)

/-- The request that is published and whose analyzer call is about to be made. -/
def beginning? : Option (Request Snapshot Callback) :=
  match threads.worker, threads.shared.worker with
  | .published, .executing request => some request
  | .marked, .executing request => some request
  | .counted, .executing request => some request
  | _, _ => none

/-- A shutdown has the lock of the lifecycle. -/
def isLocked : Bool :=
  match threads.shutdown with
  | .fired => true
  | _ => false

/-- The event is possible as a whole, as far as points and locks are concerned. -/
def admits : Event Snapshot Callback Output → Bool
  | .workerBegin | .workerDeliver => false
  | .workerPoll | .workerReceive | .workerAnswer _ | .workerRecord _ _ | .workerPost _
  | .workerClear => threads.worker == .between
  | .start _ | .submit _ _ _ | .enqueue _ _ => !threads.isLocked
  | .idle trigger _ _ =>
      !threads.isLocked ||
        threads.shared.idleDecision trigger.needsRefresh trigger.quiet != .submit
  | .shutdown => !threads.isLocked && threads.shared.lifecycle != .running
  | _ => true

/-- The worker looks at its token and publishes the request it holds. If the token has fired it aborts
the request instead and is to leave. -/
def publish : Option (Interleaved Snapshot Callback Output) :=
  match threads.worker, threads.shared.worker with
  | .between, .holding request =>
      if threads.shared.cancelled then
        let skipped := threads.shared.conclude request.id .aborted Stats.addAborted
        some { threads with shared := { skipped with worker := .clearing true } }
      else
        some { threads with
          shared := { threads.shared with
            inFlight := some request.id
            worker := .executing request }
          worker := .published }
  | _, _ => none

/-- The worker marks itself busy. -/
def mark : Option (Interleaved Snapshot Callback Output) :=
  match threads.worker with
  | .published =>
      some { threads with shared := { threads.shared with busy := true }, worker := .marked }
  | _ => none

/-- The worker counts the analyzer call. -/
def count : Option (Interleaved Snapshot Callback Output) :=
  match threads.worker with
  | .marked =>
      let stats := threads.shared.stats.addExecuted
      some { threads with shared := { threads.shared with stats }, worker := .counted }
  | _ => none

/-- The worker calls the analyzer. -/
def call : Option (Interleaved Snapshot Callback Output) :=
  match threads.worker with
  | .counted => some { threads with worker := .between }
  | _ => none

/-- The first look for the decision on delivery. A result that is always delivered needs none. -/
def look : Option (Interleaved Snapshot Callback Output) :=
  match threads.worker, threads.shared.worker with
  | .between, .delivering request _ =>
      let droppable := !request.reason.alwaysDelivered && !threads.shared.cancelled
      some { threads with worker := .looked droppable }
  | _, _ => none

/-- The second look, and what comes of it: the result is superseded by a job of its lane, left as it is
because a forced shutdown has aborted the request, or completed and counted as delivered. -/
def decide : Option (Interleaved Snapshot Callback Output) :=
  match threads.worker, threads.shared.worker with
  | .looked droppable, .delivering request analysis =>
      let shared := threads.shared
      let decided :=
        if droppable && shared.mailbox.contains request.reason.lane then
          { shared.conclude request.id .superseded Stats.addSuperseded with
            worker := .clearing false }
        else if (shared.outcome? request.id).isSome then
          { shared with worker := .clearing false }
        else
          { shared.conclude request.id (.completed analysis) Stats.addDelivered with
            worker := .posting request analysis }
      some { threads with shared := decided, worker := .between }
  | _, _ => none

/-- A shutdown of a running scheduler takes the lock of the lifecycle and fires the token. -/
def fire : Option (Interleaved Snapshot Callback Output) :=
  match threads.shutdown, threads.shared.lifecycle with
  | .between, .running =>
      let shared := { threads.shared with lifecycle := .stopped, cancelled := true }
      some { threads with shared, shutdown := .fired }
  | _, _ => none

/-- The shutdown drains the queue, leaves the order to go in it and gives the lock back. -/
def drain : Option (Interleaved Snapshot Callback Output) :=
  match threads.shutdown with
  | .fired =>
      let (drained, mailbox) := threads.shared.mailbox.reset .terminate
      let shared := { threads.shared with mailbox }
      some { threads with shared, shutdown := .draining (drained.filterMap Job.request?) 0 }
  | _ => none

/-- The shutdown aborts the next of the requests it has drained. -/
def abort : Option (Interleaved Snapshot Callback Output) :=
  match threads.shutdown with
  | .draining (request :: requests) aborted =>
      let (one, shared) := threads.shared.abort request.id
      some { threads with shared, shutdown := .draining requests (aborted + one) }
  | _ => none

/-- The shutdown has aborted what it has drained and begins to wait for the worker. -/
def await : Option (Interleaved Snapshot Callback Output) :=
  match threads.shutdown with
  | .draining [] aborted =>
      let shared := { threads.shared with closing := some aborted }
      some { threads with shared, shutdown := .between }
  | _ => none

/-- The state after a move, if the move is possible. -/
def step : Move Snapshot Callback Output → Option (Interleaved Snapshot Callback Output)
  | .event event =>
      if threads.admits event then
        (threads.shared.step event).map fun shared => { threads with shared }
      else none
  | .publish => threads.publish
  | .mark => threads.mark
  | .count => threads.count
  | .call => threads.call
  | .look => threads.look
  | .decide => threads.decide
  | .fire => threads.fire
  | .drain => threads.drain
  | .abort => threads.abort
  | .await => threads.await

/-- The state after a list of moves, if each is possible in its turn. -/
def run (threads : Interleaved Snapshot Callback Output) :
    List (Move Snapshot Callback Output) → Option (Interleaved Snapshot Callback Output)
  | [] => some threads
  | move :: rest => (threads.step move).bind fun next => next.run rest

end Interleaved

end EditorAnalysis
