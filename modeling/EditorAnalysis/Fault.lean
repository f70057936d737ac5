/-!
# Faults of collaborators

An analyzer, a version source, a dispatcher or a callback may end by raising an exception instead of
returning. The exception carries a payload of any kind; only payloads that are texts have a message.
-/

namespace EditorAnalysis

/-- What an exception carries. -/
inductive Payload where
  /-- A text that is part of the program. -/
  | literal (text : String)
  /-- A text built while the program runs. -/
  | built (text : String)
  /-- A text behind a further reference, which is not recognized as one. -/
  | boxed (text : String)
  | number (value : Int)
  deriving DecidableEq, Repr

/-- The message in a payload: literal and built texts have one, all else has none. -/
def Payload.message? : Payload → Option String
  | .literal text => some text
  | .built text => some text
  | .boxed _ => none
  | .number _ => none

/-- What a call of a collaborator came to: an exception, or a value. -/
abbrev Attempt (Value : Type) := Except Payload Value

end EditorAnalysis
