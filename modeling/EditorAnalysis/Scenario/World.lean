import EditorAnalysis.Scenario.Script
import EditorAnalysis.Scheduler.Describe
import EditorAnalysis.Scheduler.Run

/-!
# The world of a scenario

The world holds the scheduler under test and everything around it that a script can touch: the versions
of the buffers, the gate of the analyzer, the dispatcher, the clock, the handles the client was given,
and what was logged since the last report.

Time passes only where a script says so: while an analyzer sleeps and while somebody waits in vain.
-/

namespace EditorAnalysis.Scenario

/-- The scheduler of a scenario, whose results are texts. -/
abbrev ScriptedScheduler := Scheduler Task TaggedReaction String

/-- The two threads of a scenario. -/
inductive Thread where
  /-- The thread of the client, which is the UI thread as well. -/
  | caller
  | worker
  deriving DecidableEq, Repr

/-- The answer to a step. -/
inductive Reply where
  | nothing
  | submitted (handle : Handle)
  | error (error : SchedulerError)
  /-- The step ended by an exception, with the scenario's own text if it raised it. -/
  | fault (text : Option String)
  | notNeeded
  | busy
  /-- The quiet period lasts for some time yet. -/
  | waiting
  /-- The quiet period lasts for so many seconds yet. -/
  | waitingSeconds (seconds : Nat)
  | started
  | nothingHeld
  /-- The scheduler was given up. -/
  | noScheduler
  /-- There is no pump, or it is in use. -/
  | noPump
  /-- There is no handle of that tag. -/
  | noHandle
  | pending
  | truth (value : Bool)
  | count (value : Nat)
  | outcome (outcome : Outcome String)
  /-- A handle and the outcome of its request so far. -/
  | status (handle : Handle) (outcome : Option (Outcome String))
  | shutdown (report : ShutdownReport)
  | description (text : String)
  | config (asyncEnabled : Bool) (threadName : String)

/-- What a callback finds about the freshness of its result. -/
inductive FreshnessView where
  /-- How the result relates to the present version. -/
  | found (freshness : Freshness)
  /-- The version source raised an exception. -/
  | fault (text : Option String)
  | noScheduler

/-- What a callback finds about its request. -/
structure CallbackView where
  tag : Tag
  thread : Thread
  answered : Answered Task TaggedReaction String
  /-- The token of the request has fired. -/
  cancelled : Bool
  freshness : FreshnessView
  /-- The description of the request, if the script asks for it. -/
  description : Option String

/-- An entry in the log of analyzer calls. -/
inductive CallEntry where
  /-- A call began, on a thread, with a request whose token has fired or not. -/
  | began (tag : Tag) (thread : Thread) (cancelled : Bool)
  /-- The steps of a call were carried out. -/
  | did (tag : Tag) (replies : List Reply)

/-- An entry in the log of callbacks. -/
inductive CallbackEntry where
  | began (view : CallbackView)
  /-- The steps of a callback were carried out. -/
  | did (tag : Tag) (replies : List Reply)

/-- A handle the client was given. -/
structure TrackedHandle where
  handle : Handle
  watch : Watch String := .unpolled
  reported : Bool := false

/-- The scheduler under test and everything around it. -/
structure World where
  scheduler : ScriptedScheduler
  /-- The client holds the scheduler. -/
  held : Bool := true
  /-- The number of calls under way that keep the scheduler alive. -/
  users : Nat := 0
  /-- The scheduler is to be shut down once no call keeps it alive. -/
  dropPending : Bool := false
  /-- The versions of the buffers that were ever set. -/
  versions : List (SourceId × Version) := []
  /-- When the version source raises an exception. -/
  versionFaults : VersionFaults := .never
  /-- The posts, counted from zero, at which the dispatcher raises an exception. -/
  trips : List Nat := []
  posts : Nat := 0
  pumping : Bool := false
  /-- The worker waits at the gate inside the analyzer. -/
  parked : Bool := false
  /-- The milliseconds passed. -/
  clock : Nat := 0
  /-- The handles, ordered by tag. -/
  handles : List (Tag × TrackedHandle) := []
  /-- Analyzer calls logged since the last report, newest first. -/
  calls : List CallEntry := []
  /-- Callbacks logged since the last report, newest first. -/
  callbacks : List CallbackEntry := []

/-- Actions on the world. -/
abbrev Play := StateM World

namespace World

/-- The version of a buffer; a buffer never touched has version one. -/
def version (world : World) (source : SourceId) : Version :=
  (world.versions.lookup source).getD ⟨1⟩

/-- The version source is asked on a thread. -/
def reading (world : World) (thread : Thread) (source : SourceId) : Attempt Version :=
  match world.versionFaults, thread with
  | .always, _ => .error (.literal "oracle:versions")
  | .onWorker, .worker => .error (.literal "oracle:versions")
  | _, _ => .ok (world.version source)

/-- The present reading of the clock. -/
def now (world : World) : Instant := world.clock * 1000000

/-- Time passes. -/
def elapse (millis : Nat) (world : World) : World :=
  { world with clock := world.clock + millis }

/-- The client keeps a handle; an older one of the same tag is forgotten. -/
def track (tag : Tag) (handle : Handle) (world : World) : World :=
  let others := world.handles.filter fun entry => entry.1 != tag
  let earlier := others.filter fun entry => entry.1 < tag
  let later := others.filter fun entry => tag < entry.1
  { world with handles := earlier ++ (tag, { handle }) :: later }

/-- The outcome cell of a request. -/
def cell (world : World) (id : RequestId) : Completion String :=
  world.scheduler.completions[id]?.getD .pending

/-- Nothing but jobs of the UI thread is left of a scheduler that was given up. -/
def isReleased (world : World) : Bool :=
  !world.held && world.users == 0 &&
    match world.scheduler.worker with
    | .unstarted | .exited => true
    | _ => false

/-- The pump is there and not in use. -/
def canPump (world : World) : Bool := world.scheduler.ui.hasPump && !world.pumping

/-- Logs an analyzer call. -/
def logCall (entry : CallEntry) (world : World) : World :=
  { world with calls := entry :: world.calls }

/-- Logs a callback. -/
def logCallback (entry : CallbackEntry) (world : World) : World :=
  { world with callbacks := entry :: world.callbacks }

/-- Logs the beginning of an analyzer call. -/
def logBegan (thread : Thread) (request : Request Task TaggedReaction) (world : World) : World :=
  world.logCall (.began request.snapshot.tag thread (world.scheduler.isCancelled request))

/-- What a callback finds about its request. -/
def view (world : World) (thread : Thread) (script : TaggedReaction)
    (answered : Answered Task TaggedReaction String) : CallbackView where
  tag := script.tag
  thread := thread
  answered := answered
  cancelled := world.scheduler.isCancelled answered.request
  freshness :=
    if world.held then
      match world.reading thread answered.request.source with
      | .ok current => .found (.of (some answered.analysis.version) current)
      | .error payload => .fault payload.message?
    else .noScheduler
  description :=
    if script.reaction.describes then some (answered.request.describe (some answered.analysis))
    else none

/-- The world after a step of the scheduler, if the step is possible. -/
def advance (next : Option ScriptedScheduler) (world : World) : World :=
  { world with scheduler := next.getD world.scheduler }

end World

namespace Act

/-- What the analyzer comes to for a request, when the buffer has a given version. -/
def execution {Step : Type} (act : Act Step) (answer : Answer)
    (request : Request Task TaggedReaction) (buffer : Version) : Execution String :=
  let version := match act.version with
    | .ofRequest => request.bufferVersion
    | .ofBuffer => buffer
    | .given version => version
  let payload := act.payload.getD (request.reason.name ++ "@" ++ version.text)
  match answer with
  | .result => .ok (.ok { payload := some payload, version })
  | .empty => .ok (.ok { payload := none, version })
  | .decline => .ok (.ok { payload := none, version, aborted := true })
  | .fail => .ok (.error (.failed "scripted"))
  | .unknownSource => .ok (.error (.unknownSource request.source))
  | .giveUp => .ok (.error .cancelled)
  | .fault => .error (.literal "scripted")
  | .numberFault => .error (.number 0)

end Act

end EditorAnalysis.Scenario
