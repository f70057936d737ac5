import EditorAnalysis.Fault
import EditorAnalysis.Lane

/-!
# Named threads

Every thread serves a lane and carries a name, which is visible from outside and from inside. A name
may be any text without the NUL character; starting a thread under any other name fails.
-/

namespace EditorAnalysis

/-- The name of a thread: a text without the NUL character. -/
structure ThreadName where
  text : String
  /-- The text has no NUL character. -/
  clean : '\x00' ∉ text.toList

/-- The name with a given text, if the text may be a name. -/
def ThreadName.ofString? (text : String) : Option ThreadName :=
  if clean : '\x00' ∉ text.toList then some ⟨text, clean⟩ else none

/-- A thread that has run to its end. -/
structure FinishedThread (Value : Type) where
  lane : Lane
  name : ThreadName
  /-- What its body came to. -/
  result : Attempt Value

/-- Runs a body on a thread of the given name to its end, if the name is one. -/
def runThread {Value : Type} (lane : Lane) (name : String) (body : ThreadName → Attempt Value) :
    Option (FinishedThread Value) :=
  (ThreadName.ofString? name).map fun name => { lane, name, result := body name }

end EditorAnalysis
