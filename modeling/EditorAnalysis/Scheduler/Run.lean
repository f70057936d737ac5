import EditorAnalysis.Scheduler.Idle
import EditorAnalysis.Scheduler.Shutdown
import EditorAnalysis.Scheduler.Worker

/-!
# Runs of a scheduler

An event is one step of one thread, with the answers that collaborators gave in it. `Scheduler.step`
says which events are possible in a state and what they lead to, `Scheduler.run` follows a list of
them. Callers are free: any number of submissions may be under way at a time, from any thread and from
inside any analyzer call or callback. The worker, a shutdown under way and each submission go on only as
far as they have got.
-/

namespace EditorAnalysis

variable {Snapshot Callback Output : Type}

/-- One step of one thread, with the answers that collaborators gave in it. -/
inductive Event (Snapshot Callback Output : Type) where
  /-- Another document becomes the active one, or none. -/
  | setActive (source : Option SourceId)
  /-- A caller sees to it that the worker runs. -/
  | start (launch : Launch)
  /-- A caller submits. -/
  | submit (submission : Submission Snapshot Callback) (reading : Attempt Version) (now : Instant)
  /-- The editor's idle loop ticks. -/
  | idle (trigger : IdleTrigger Snapshot Callback) (reading : Attempt Version) (now : Instant)
  /-- A request enters the queue. -/
  | enqueue (id : RequestId) (launch : Launch)
  /-- The analyzer call on a submitting thread is over. -/
  | answerCall (id : RequestId) (execution : Execution Output)
  /-- The analysis of a submitting thread is recorded and delivered. -/
  | recordCall (id : RequestId) (reading : Attempt Version) (now : Instant)
  /-- The callback on a submitting thread is over. -/
  | returnCall (id : RequestId)
  /-- The worker looks at its token. -/
  | workerPoll
  /-- The worker takes the next job, or its wait runs out. -/
  | workerReceive
  /-- The worker begins a request. -/
  | workerBegin
  /-- The analyzer call on the worker is over. -/
  | workerAnswer (execution : Execution Output)
  /-- The side effects of the worker's analysis are recorded. -/
  | workerRecord (reading : Attempt Version) (now : Instant)
  /-- The worker decides on delivery. -/
  | workerDeliver
  /-- The worker posts to the dispatcher, which accepts or raises an exception. -/
  | workerPost (accepted : Bool)
  /-- The worker clears its marks. -/
  | workerClear
  /-- A caller shuts the scheduler down. -/
  | shutdown
  /-- The shutdown sees that the worker has left. -/
  | joinWorker
  /-- The shutdown has waited long enough. -/
  | giveUpWorker
  /-- The UI thread takes the oldest posted request and runs its callback. -/
  | pump
  /-- The UI thread gives its pump up. -/
  | dropPump

namespace Scheduler

/-- The state after an event, if the event is possible. -/
def step (scheduler : Scheduler Snapshot Callback Output) :
    Event Snapshot Callback Output → Option (Scheduler Snapshot Callback Output)
  | .setActive source => some (scheduler.setActive source)
  | .start launch =>
      match scheduler.start launch with
      | .ok started => some started
      | .error _ => some scheduler
  | .submit submission reading now => some (scheduler.openCall submission false reading now).2
  | .idle trigger reading now => some (scheduler.onIdle trigger reading now).2
  | .enqueue id launch => (scheduler.enqueue id launch).map Prod.snd
  | .answerCall id execution => scheduler.answerCall id execution
  | .recordCall id reading now => (scheduler.recordCall id reading now).map Prod.snd
  | .returnCall id => scheduler.returnCall id
  | .workerPoll => scheduler.workerPoll
  | .workerReceive => scheduler.workerReceive
  | .workerBegin => scheduler.workerBegin
  | .workerAnswer execution => scheduler.workerAnswer execution
  | .workerRecord reading now => scheduler.workerRecord reading now
  | .workerDeliver => scheduler.workerDeliver
  | .workerPost accepted => scheduler.workerPost accepted
  | .workerClear => scheduler.workerClear
  | .shutdown => some scheduler.shutdown.2
  | .joinWorker => scheduler.joinWorker.map Prod.snd
  | .giveUpWorker => scheduler.giveUpWorker.map Prod.snd
  | .pump => scheduler.ui.take?.map fun (_, ui) => { scheduler with ui }
  | .dropPump => some { scheduler with ui := scheduler.ui.dropPump }

/-- The state after a list of events, if each is possible in its turn. -/
def run (scheduler : Scheduler Snapshot Callback Output) :
    List (Event Snapshot Callback Output) → Option (Scheduler Snapshot Callback Output)
  | [] => some scheduler
  | event :: rest => (scheduler.step event).bind fun next => next.run rest

/-- Some run leads from a new scheduler to the given one. -/
def Reachable (scheduler : Scheduler Snapshot Callback Output) : Prop :=
  ∃ config sufficient events,
    (new config sufficient : Scheduler Snapshot Callback Output).run events = some scheduler

end Scheduler

end EditorAnalysis
