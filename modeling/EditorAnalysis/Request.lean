import EditorAnalysis.Analysis
import EditorAnalysis.Duration
import EditorAnalysis.Reason

/-!
# Submissions and requests

A submission is what a caller asks for. The scheduler makes a request of it, with a number, the
version of the buffer at that moment and a cancellation token. The token of a new request is its own
and never fires; a request that enters the queue is bound to the token of the worker.

Snapshots and callbacks belong to the callers; nothing here looks into them.
-/

namespace EditorAnalysis

variable {Snapshot Callback Output : Type}

/-- What a caller asks for. -/
structure Submission (Snapshot Callback : Type) where
  source : SourceId
  position : Position
  /-- The editor event behind the submission. -/
  reason : Reason
  snapshot : Snapshot
  /-- The analyzer is to run on the submitting thread. -/
  synchronous : Bool := false
  /-- The recent result will not do. -/
  requireFresh : Bool := false
  /-- What to run with the result. -/
  callback : Option Callback := none

/-- The number of a request, counted from zero in the order of construction. -/
abbrev RequestId := Nat

/-- The token that tells a request of its cancellation. -/
inductive Token where
  /-- The private token of a new request, which never fires. -/
  | own
  /-- The token of the worker, which fires when the running worker is shut down. -/
  | worker
  deriving DecidableEq, Repr

/-- One unit of analysis work. -/
structure Request (Snapshot Callback : Type) extends Submission Snapshot Callback where
  id : RequestId
  /-- The buffer version at submission. -/
  bufferVersion : Version
  /-- The request was submitted by the idle trigger. -/
  idleTriggered : Bool
  submittedAt : Instant
  token : Token := .own

/-- A request with the analysis its callback is to see. -/
structure Answered (Snapshot Callback Output : Type) where
  request : Request Snapshot Callback
  analysis : Analysis Output

/-- The caller's view of a submitted request. -/
structure Handle where
  id : RequestId
  reason : Reason
  /-- The buffer version the request was submitted against. -/
  bufferVersion : Version
  /-- The request was answered on the submitting thread. -/
  synchronous : Bool
  deriving DecidableEq, Repr

end EditorAnalysis
