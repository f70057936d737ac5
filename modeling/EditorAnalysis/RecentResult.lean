import EditorAnalysis.Analysis

/-!
# The recent result

The latest full-check result of the active document is kept in a single slot. The slot is replaced as
a whole, takes results of the active document only, and is cleared when another document becomes
active.
-/

namespace EditorAnalysis

variable {Output : Type}

/-- A remembered result with the document it belongs to. -/
structure RecentResult (Output : Type) where
  source : SourceId
  analysis : Analysis Output
  deriving DecidableEq, Repr

/-- The active document and the slot for its latest result. -/
structure RecencyCache (Output : Type) where
  active : Option SourceId := none
  slot : Option (RecentResult Output) := none
  deriving DecidableEq, Repr

namespace RecencyCache

/-- Makes a document the active one, or none; a change clears the slot. -/
def setActive (source : Option SourceId) (cache : RecencyCache Output) : RecencyCache Output :=
  if cache.active = source then cache else { active := source, slot := none }

/-- Remembers an analysis if its document is the active one. -/
def record (source : SourceId) (analysis : Analysis Output) (cache : RecencyCache Output) :
    RecencyCache Output :=
  if cache.active = some source then { cache with slot := some ⟨source, analysis⟩ } else cache

/-- The remembered analysis of a document. -/
def lookup (source : SourceId) (cache : RecencyCache Output) : Option (Analysis Output) :=
  cache.slot.bind fun entry => if entry.source = source then some entry.analysis else none

end RecencyCache

end EditorAnalysis
