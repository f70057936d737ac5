import EditorAnalysis.Toml.Value

/-!
# The tree of a document under construction

A table may be brought about in four ways, and how it was decides who may still add to it: a table
that a header names is not named again, a table made by dotted keys is extended by dotted keys only,
a table that a header merely passes through waits for a header of its own, and a table between braces
is complete.
-/

namespace EditorAnalysis.Toml

/-- How a table was brought about. -/
inductive Origin where
  /-- A header passes through it. -/
  | passed
  /-- A header names it. -/
  | named
  /-- A dotted key passes through it. -/
  | dotted
  /-- It stands between braces. -/
  | inline
  deriving DecidableEq, Repr, Inhabited

/-- A value under construction. -/
inductive Node where
  /-- A value that is neither a table nor a list. -/
  | leaf (value : Value)
  | array (items : List Node)
  | table (origin : Origin) (members : List (String × Node))
  /-- The tables that headers between double brackets name one after the other, the last one first. -/
  | tables (elements : List Node)
  deriving Inhabited

/-- A table under construction. -/
abbrev Members := List (String × Node)

mutual

/-- The finished value. -/
def Node.value : Node → Value
  | .leaf value => value
  | .array items => .array (valuesOf items)
  | .table _ members => .table (tableOf members)
  | .tables elements => .array (valuesOf elements).reverse

/-- The finished values of a list. -/
def valuesOf : List Node → List Value
  | [] => []
  | node :: rest => node.value :: valuesOf rest

/-- The finished table. -/
def tableOf : List (String × Node) → Table
  | [] => []
  | (key, node) :: rest => (key, node.value) :: tableOf rest

end

namespace Members

/-- Changes the member of a key, or adds it; a refused change refuses the table. -/
def alter (key : String) (change : Option Node → Option Node) : Members → Option Members
  | [] => (change none).map fun node => [(key, node)]
  | (name, node) :: rest =>
      if name = key then (change (some node)).map fun changed => (name, changed) :: rest
      else (alter key change rest).map ((name, node) :: ·)

/-- Changes the table that a header path leads to. Missing tables are added; of the tables named
between double brackets the path leads to the last one. -/
def under : List String → (Members → Option Members) → Members → Option Members
  | [], change, members => change members
  | key :: path, change, members =>
      members.alter key fun
        | none => (under path change []).map (.table .passed)
        | some (.table origin inner) =>
            if origin = .inline then none else (under path change inner).map (.table origin)
        | some (.tables (.table origin inner :: elements)) =>
            (under path change inner).map fun changed => .tables (.table origin changed :: elements)
        | some _ => none

/-- Names a table by a header, at the end of a path. -/
def name (path : List String) (key : String) (members : Members) : Option Members :=
  members.under path fun parent => parent.alter key fun
    | none => some (.table .named [])
    | some (.table .passed inner) => some (.table .named inner)
    | some _ => none

/-- Names one more table of a list of tables by a header, at the end of a path. -/
def nameNext (path : List String) (key : String) (members : Members) : Option Members :=
  members.under path fun parent => parent.alter key fun
    | none => some (.tables [.table .named []])
    | some (.tables elements) => some (.tables (.table .named [] :: elements))
    | some _ => none

/-- Adds a value under a dotted key, given by its first part and the others. The tables on the way
are made by dotted keys; a table that a header passes through may lie on the way, but not be the one
that takes the value. -/
def assign (key : String) (others : List String) (node : Node) (members : Members) :
    Option Members :=
  match others with
  | [] => members.alter key fun
      | none => some node
      | some _ => none
  | next :: rest => members.alter key fun
      | none => (assign next rest node []).map (.table .dotted)
      | some (.table origin inner) =>
          if origin = .dotted ∨ (origin = .passed ∧ rest ≠ []) then
            (assign next rest node inner).map (.table origin)
          else none
      | some _ => none

end Members

end EditorAnalysis.Toml
