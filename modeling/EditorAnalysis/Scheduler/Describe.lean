import EditorAnalysis.Scheduler.State
import EditorAnalysis.Text.Quoted

/-!
# Descriptions

One-line descriptions of requests and schedulers for logs. They name a few fields and leave the rest
out.
-/

namespace EditorAnalysis

variable {Snapshot Callback Output : Type}

/-- Fields in braces after a name; more fields are left out. -/
def describeFields (name : String) (fields : List (String × String)) (rest : Bool) : String :=
  let shown := fields.map fun (field, value) => field ++ ": " ++ value
  name ++ " \x7b " ++ ", ".intercalate (shown ++ if rest then [".."] else []) ++ " \x7d"

/-- A value that may be missing. -/
def describeOption (value : Option String) : String :=
  match value with
  | none => "None"
  | some text => "Some(" ++ text ++ ")"

/-- The description of a truth value. -/
def describeBool (value : Bool) : String := if value then "true" else "false"

/-- The description of a document's identity. -/
def SourceId.describe (source : SourceId) : String := "SourceId(" ++ Text.quote source.text ++ ")"

/-- The description of a version. -/
def Version.describe (version : Version) : String :=
  "BufferVersion(" ++ toString version.count.toNat ++ ")"

/-- The description of a position. -/
def Position.describe (position : Position) : String :=
  describeFields "Position"
    [("line", toString position.line.toNat), ("column", toString position.column.toNat)] false

/-- The description of the counters. -/
def Stats.describe (stats : Stats) : String :=
  let names := ["submitted", "executed", "delivered", "superseded", "displaced", "abandoned",
    "aborted", "fast_path_hits"]
  describeFields "SchedulerStats"
    (names.zip (stats.toList.map fun count => toString count.toNat)) false

/-- The description of a request with its result so far. -/
def Request.describe (request : Request Snapshot Callback) (analysis : Option (Analysis Output)) :
    String :=
  describeFields "Request"
    [("source", request.source.describe),
      ("position", request.position.describe),
      ("reason", request.reason.label),
      ("buffer_version", request.bufferVersion.describe),
      ("synchronous", describeBool request.synchronous),
      ("require_fresh", describeBool request.requireFresh),
      ("result_version", describeOption (analysis.map fun result => result.version.describe))] true

/-- The description of a scheduler. -/
def Scheduler.describe (scheduler : Scheduler Snapshot Callback Output) : String :=
  describeFields "Scheduler"
    [("busy", describeBool scheduler.isBusy),
      ("active_source", describeOption (scheduler.cache.active.map SourceId.describe)),
      ("stats", scheduler.stats.describe)] true

end EditorAnalysis
