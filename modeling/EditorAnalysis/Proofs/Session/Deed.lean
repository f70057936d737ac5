import EditorAnalysis.Proofs.Scheduler.Callback
import Mathlib.Logic.Function.Basic
import Mathlib.Logic.Relation

/-!
# Sessions with an editor

In a session one caller submits, changes the active document and edits buffers. After each deed it
waits until nothing moves any more: the worker is at rest and the queue of the UI thread is empty.
`Session.Performs` says what may happen in a session, with a deterministic analyzer and with a
version source that knows the buffers. The steps of the threads may come in any order.

A `Ledger` is what has been seen of a session so far. `Ledger.undergo` tells what a deed comes to,
without a thread or a queue.
-/

namespace EditorAnalysis

variable {Snapshot Callback Output : Type}

/-- What of a request depends neither on the clock nor on the thread that works on it. -/
def Request.data (request : Request Snapshot Callback) : Request Snapshot Callback :=
  { request with submittedAt := 0, token := .own }

/-- An analyzer whose answer depends on the buffers and on the calls so far, of which the last is
the present one. -/
abbrev Analyzer (Snapshot Callback Output : Type) :=
  (SourceId → Version) → List (Request Snapshot Callback) → Execution Output

inductive Deed (Snapshot Callback : Type) where
  | submit (submission : Submission Snapshot Callback)
  | setActive (source : Option SourceId)
  /-- The buffer of a document gets another version. -/
  | edit (source : SourceId) (version : Version)

/-- The versions of the buffers after a deed. -/
def Deed.versions (versions : SourceId → Version) : Deed Snapshot Callback → SourceId → Version
  | .edit source version => Function.update versions source version
  | _ => versions

/-- What has been seen of a session so far. -/
@[ext]
structure Ledger (Snapshot Callback Output : Type) where
  stats : Stats
  /-- The active document and the recent result. -/
  cache : RecencyCache Output
  /-- The outcomes of the requests in the order of construction. -/
  outcomes : List (Option (Outcome Output))
  /-- The handles, without what they say of the thread. -/
  handles : List Handle
  /-- The requests of the analyzer calls. -/
  analyses : List (Request Snapshot Callback)
  /-- What the callbacks saw. -/
  callbacks : List (Answered Snapshot Callback Output)

/-- What is seen between two deeds: what has been seen so far, and what else the scheduler tells if
it is asked. -/
structure Sight (Snapshot Callback Output : Type) where
  ledger : Ledger Snapshot Callback Output
  busy : Bool
  lastCompletion : Duration
  shutDown : Bool

namespace Ledger

def empty : Ledger Snapshot Callback Output := ⟨{}, {}, [], [], [], []⟩

variable (ledger : Ledger Snapshot Callback Output)

def request (versions : SourceId → Version) (submission : Submission Snapshot Callback) :
    Request Snapshot Callback :=
  { toSubmission := submission, id := ledger.outcomes.length,
    bufferVersion := versions submission.source, idleTriggered := false, submittedAt := 0 }

def enter (request : Request Snapshot Callback) : Ledger Snapshot Callback Output :=
  { ledger with
    stats := ledger.stats.addSubmitted
    outcomes := ledger.outcomes ++ [none]
    handles := ledger.handles ++
      [⟨request.id, request.reason, request.bufferVersion, false⟩] }

def hit : Ledger Snapshot Callback Output := { ledger with stats := ledger.stats.addFastPathHit }

def execute (request : Request Snapshot Callback) : Ledger Snapshot Callback Output :=
  { ledger with
    stats := ledger.stats.addExecuted
    analyses := ledger.analyses ++ [request] }

/-- An analysis is remembered if it is to be, and is as recent as the buffer. -/
def remember (versions : SourceId → Version) (request : Request Snapshot Callback)
    (analysis : Analysis Output) : Ledger Snapshot Callback Output :=
  if (request.reason.updatesRecentResult && !analysis.aborted) &&
      analysis.version = versions request.source then
    { ledger with cache := ledger.cache.record request.source analysis }
  else ledger

/-- A request gets its outcome. -/
def conclude (id : RequestId) (outcome : Outcome Output) (count : Stats → Stats) :
    Ledger Snapshot Callback Output :=
  { ledger with
    stats := count ledger.stats
    outcomes := ledger.outcomes.set id (some outcome) }

/-- The callback of a request runs, if there is one. -/
def callBack (request : Request Snapshot Callback) (analysis : Analysis Output) :
    Ledger Snapshot Callback Output :=
  if request.callback.isSome then
    { ledger with callbacks := ledger.callbacks ++ [⟨request, analysis⟩] }
  else ledger

/-- A request is completed, and its callback runs. -/
def complete (request : Request Snapshot Callback) (analysis : Analysis Output) :
    Ledger Snapshot Callback Output :=
  (ledger.conclude request.id (.completed analysis) Stats.addDelivered).callBack request analysis

/-- The recent result a submission may be answered with. -/
def remembered (sufficient : Reason → Bool) (submission : Submission Snapshot Callback) :
    Option (Analysis Output) :=
  if !submission.requireFresh && sufficient submission.reason then
    ledger.cache.lookup submission.source
  else none

/-- What an analyzer call comes to. -/
def settle (versions : SourceId → Version) (request : Request Snapshot Callback) :
    Verdict Output → Ledger Snapshot Callback Output
  | .ready analysis => (ledger.remember versions request analysis).complete request analysis
  | .failed => ledger.conclude request.id .abandoned Stats.addAbandoned
  | .cancelled => ledger.conclude request.id .aborted Stats.addAborted

/-- What a submission comes to. -/
def serve (analyzer : Analyzer Snapshot Callback Output) (sufficient : Reason → Bool)
    (versions : SourceId → Version) (submission : Submission Snapshot Callback) :
    Ledger Snapshot Callback Output :=
  let request := ledger.request versions submission
  match ledger.remembered sufficient submission with
  | some analysis => (ledger.enter request).hit.complete request analysis
  | none =>
      let executed := (ledger.enter request).execute request
      executed.settle versions request (analyzer versions executed.analyses).verdict

/-- What a deed comes to. -/
def undergo (analyzer : Analyzer Snapshot Callback Output) (sufficient : Reason → Bool)
    (versions : SourceId → Version) : Deed Snapshot Callback → Ledger Snapshot Callback Output
  | .submit submission => ledger.serve analyzer sufficient versions submission
  | .setActive source => { ledger with cache := ledger.cache.setActive source }
  | .edit _ _ => ledger

/-- The ledgers after each of a list of deeds. -/
def undergoAll (analyzer : Analyzer Snapshot Callback Output) (sufficient : Reason → Bool)
    (versions : SourceId → Version) (ledger : Ledger Snapshot Callback Output) :
    List (Deed Snapshot Callback) → List (Ledger Snapshot Callback Output)
  | [] => []
  | deed :: rest =>
      let next := ledger.undergo analyzer sufficient versions deed
      next :: next.undergoAll analyzer sufficient (deed.versions versions) rest

/-- The ledger with what else is seen where nothing moves any more. -/
def sight : Sight Snapshot Callback Output := ⟨ledger, false, .ofMillis 0, false⟩

end Ledger

/-- Nothing moves any more: no submission is under way, nothing waits for the worker or for the UI
thread, and the worker waits for work or was never started. -/
structure Scheduler.Quiet (scheduler : Scheduler Snapshot Callback Output) : Prop where
  calls : scheduler.calls = []
  mailbox : scheduler.mailbox.toList = []
  worker : scheduler.worker.request? = none ∧ ∀ leaves, scheduler.worker ≠ .clearing leaves
  jobs : scheduler.ui.jobs = []

/-- A session so far, with the present versions of the buffers. -/
structure Session (Snapshot Callback Output : Type) where
  versions : SourceId → Version
  past : List (Transition Snapshot Callback Output)
  scheduler : Scheduler Snapshot Callback Output

namespace Session

def new (versions : SourceId → Version) (config : Config) (sufficient : Reason → Bool) :
    Session Snapshot Callback Output :=
  ⟨versions, [], .new config sufficient⟩

variable (session : Session Snapshot Callback Output)

def ledger : Ledger Snapshot Callback Output where
  stats := session.scheduler.stats
  cache := session.scheduler.cache
  outcomes := session.scheduler.completions.map Completion.outcome
  handles := (session.past.flatMap Transition.handles).map
    fun handle => { handle with synchronous := false }
  analyses := (session.past.flatMap Transition.analyses).map Request.data
  callbacks := (session.past.flatMap Transition.callbacks).map
    fun run => ⟨run.answered.request.data, run.answered.analysis⟩

def sight : Sight Snapshot Callback Output where
  ledger := session.ledger
  busy := session.scheduler.isBusy
  lastCompletion := session.scheduler.lastCompletion
  shutDown := session.scheduler.isShutDown

def advance (event : Event Snapshot Callback Output)
    (after : Scheduler Snapshot Callback Output) : Session Snapshot Callback Output where
  versions := session.versions
  past := session.past ++ [⟨session.scheduler, event, after⟩]
  scheduler := after

/-- The event carries a deed on, and collaborators answer as they do in sessions: there is a thread
for the worker, the version source knows the buffers, and the dispatcher accepts every job. -/
def Answers (analyzer : Analyzer Snapshot Callback Output) : Event Snapshot Callback Output → Prop
  | .enqueue _ launch => launch = .started
  | .answerCall _ execution | .workerAnswer execution =>
      execution = analyzer session.versions session.ledger.analyses
  | .recordCall id reading _ => ∀ call, session.scheduler.call? id = some call →
      reading = .ok (session.versions call.request.source)
  | .workerRecord reading _ => ∀ request, session.scheduler.worker.request? = some request →
      reading = .ok (session.versions request.source)
  | .workerPost accepted => accepted = true
  | .returnCall _ | .workerPoll | .workerReceive | .workerBegin | .workerDeliver | .workerClear
  | .pump => True
  | _ => False

/-- One step of one thread that carries a deed on. -/
inductive Continues (analyzer : Analyzer Snapshot Callback Output)
    (session : Session Snapshot Callback Output) : Session Snapshot Callback Output → Prop where
  | step {event : Event Snapshot Callback Output} {after : Scheduler Snapshot Callback Output}
      (answers : session.Answers analyzer event)
      (step : session.scheduler.step event = some after) :
      Continues analyzer session (session.advance event after)

/-- The beginning of a deed. -/
inductive Starts (session : Session Snapshot Callback Output) :
    Deed Snapshot Callback → Session Snapshot Callback Output → Prop where
  | submit {event : Event Snapshot Callback Output} {after : Scheduler Snapshot Callback Output}
      (submission : Submission Snapshot Callback) (now : Instant)
      (asks : event = .submit submission (.ok (session.versions submission.source)) now)
      (step : session.scheduler.step event = some after) :
      Starts session (.submit submission) (session.advance event after)
  | setActive {after : Scheduler Snapshot Callback Output} (source : Option SourceId)
      (step : session.scheduler.step (.setActive source) = some after) :
      Starts session (.setActive source) (session.advance (.setActive source) after)
  | edit (source : SourceId) (version : Version) :
      Starts session (.edit source version)
        { session with versions := Function.update session.versions source version }

/-- The session may go on with the given deeds, each followed until nothing moves any more, and this
is what is then seen after each. -/
inductive Performs (analyzer : Analyzer Snapshot Callback Output) :
    Session Snapshot Callback Output → List (Deed Snapshot Callback) →
      List (Sight Snapshot Callback Output) → Prop where
  | done (session : Session Snapshot Callback Output) : Performs analyzer session [] []
  | deed {session started settled : Session Snapshot Callback Output}
      {deed : Deed Snapshot Callback} {rest : List (Deed Snapshot Callback)}
      {sights : List (Sight Snapshot Callback Output)} (starts : session.Starts deed started)
      (continues : Relation.ReflTransGen (Continues analyzer) started settled)
      (quiet : settled.scheduler.Quiet) (later : settled.Performs analyzer rest sights) :
      Performs analyzer session (deed :: rest) (settled.sight :: sights)

end Session

end EditorAnalysis
