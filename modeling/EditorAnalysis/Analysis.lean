import EditorAnalysis.Document
import EditorAnalysis.Fault

/-!
# Analyses and outcomes

An analyzer answers a request with an analysis, with an error, or by an exception. Every request ends
in exactly one outcome; only a completed request carries an analysis.
-/

namespace EditorAnalysis

/-- The result of an analyzer for one request. -/
structure Analysis (Output : Type) where
  /-- The payload; a finished pass may have none. -/
  payload : Option Output
  /-- The buffer version the result was computed from, which may lag the version of the request. -/
  version : Version
  /-- The analyzer declined the request; its callback still runs. -/
  aborted : Bool := false
  deriving DecidableEq, Repr

/-- A failure reported by an analyzer. -/
inductive AnalyzerError where
  /-- The source belongs to nothing the analyzer knows. -/
  | unknownSource (source : SourceId)
  /-- The analyzer saw the cancellation of the request and gave up. -/
  | cancelled
  /-- Any other failure. -/
  | failed (text : String)
  deriving DecidableEq, Repr

/-- The message of an analyzer's failure. -/
def AnalyzerError.message : AnalyzerError → String
  | .unknownSource source => "source " ++ source.text ++ " is not known to the analyzer"
  | .cancelled => "analysis cancelled"
  | .failed text => "analysis failed: " ++ text

/-- What one analyzer call came to: an exception, an error, or an analysis. -/
abbrev Execution (Output : Type) := Attempt (Except AnalyzerError (Analysis Output))

/-- How a request ended. -/
inductive Outcome (Output : Type) where
  /-- The analysis was handed to the callback's thread. -/
  | completed (analysis : Analysis Output)
  /-- The result was dropped, as newer work of the same lane was waiting. -/
  | superseded
  /-- A newer submission threw the request out of the queue before it ran. -/
  | displaced
  /-- The analyzer failed; the callback never runs. -/
  | abandoned
  /-- The scheduler was shut down, or the analyzer gave up on cancellation. -/
  | aborted
  deriving DecidableEq, Repr

namespace Outcome

variable {Output : Type}

/-- The analysis of a completed request. -/
def analysis? : Outcome Output → Option (Analysis Output)
  | .completed analysis => some analysis
  | _ => none

/-- The name of an outcome in reports. -/
def name : Outcome Output → String
  | .completed _ => "completed"
  | .superseded => "superseded"
  | .displaced => "displaced"
  | .abandoned => "abandoned"
  | .aborted => "aborted"

end Outcome

end EditorAnalysis
