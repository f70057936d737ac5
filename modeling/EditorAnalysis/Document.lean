/-!
# Source documents

A source document is known by its identity, usually a path. Its buffer counts changes: requests
record the version they were submitted against, results the version they were computed from, and
`Freshness` says how the two relate.
-/

namespace EditorAnalysis

/-- The identity of a source document. -/
structure SourceId where
  text : String
  deriving DecidableEq, Repr, Inhabited

namespace SourceId

/-- Identities are ordered by the code points of their texts. -/
def order (left right : SourceId) : Ordering :=
  compareOfLessAndEq left.text right.text

end SourceId

/-- A zero-based caret position. -/
structure Position where
  line : UInt32 := 0
  column : UInt32 := 0
  deriving DecidableEq, Repr, Inhabited

namespace Position

/-- Positions are ordered by line, then by column. -/
def order (left right : Position) : Ordering :=
  (compare left.line right.line).then (compare left.column right.column)

end Position

/-- The change counter of a buffer. -/
structure Version where
  /-- The number of changes. -/
  count : UInt64 := 0
  deriving DecidableEq, Repr, Inhabited

namespace Version

/-- The version after one more change; the counter starts over at its end. -/
def next (version : Version) : Version := ⟨version.count + 1⟩

/-- Versions are ordered by their counters. -/
def order (left right : Version) : Ordering := compare left.count right.count

/-- The text of a version in reports. -/
def text (version : Version) : String := "v" ++ toString version.count.toNat

end Version

/-- How a result relates to the present contents of its buffer. -/
inductive Freshness where
  /-- The result was computed from the present contents. -/
  | current
  /-- The buffer moved on after the result was computed. -/
  | stale (result current : Version)
  | missing
  deriving DecidableEq, Repr

namespace Freshness

/-- Relates the version of a result, if there is one, to the present version of the buffer. -/
def of (result : Option Version) (current : Version) : Freshness :=
  match result with
  | none => .missing
  | some version => if version = current then .current else .stale version current

/-- The result was computed from the present contents. -/
def isCurrent : Freshness → Bool
  | .current => true
  | _ => false

end Freshness

end EditorAnalysis
