import EditorAnalysis.Toml.Expression

/-!
# Documents

A document is a sequence of lines. A header names the table that the assignments after it belong to;
assignments before the first header belong to the document itself.
-/

namespace EditorAnalysis.Toml

/-- A meaningful line of a document. -/
inductive Line where
  /-- A header that names a table. -/
  | table (key : String) (others : List String)
  /-- A header that names one more table of a list of tables. -/
  | nextTable (key : String) (others : List String)
  /-- A key with its value. -/
  | assignment (content : Assignment)

/-- A keyed line, up to the end of its text. -/
def line? : Reading Line
  | '[' :: '[' :: rest => do
      match ← path? (skipSpaces rest) with
      | ((key, others), ']' :: ']' :: left) => some (.nextTable key others, left)
      | _ => none
  | '[' :: rest => do
      match ← path? (skipSpaces rest) with
      | ((key, others), ']' :: left) => some (.table key others, left)
      | _ => none
  | chars => (assignment? value? chars).map fun (content, left) => (.assignment content, left)

/-- The meaningful lines of a text, with a bound on their number. -/
def linesWithin : Nat → List Char → Option (List Line)
  | 0, _ => none
  | bound + 1, chars => do
      match ← skipLines? chars with
      | [] => some []
      | rest =>
          let (line, left) ← line? rest
          let lines ← linesWithin bound (← endOfLine? left)
          some (line :: lines)

/-- The meaningful lines of a text. -/
def lines? (chars : List Char) : Option (List Line) := linesWithin (chars.length + 1) chars

/-- A document under construction: its tables, and the path of the table that takes the next
assignment. -/
structure Draft where
  members : Members := []
  header : List String := []

namespace Draft

/-- The parts of a key but the last, and the last. -/
def splitLast (key : String) : List String → List String × String
  | [] => ([], key)
  | next :: rest => ((key :: (splitLast next rest).1), (splitLast next rest).2)

/-- The draft after one more line. -/
def add (draft : Draft) : Line → Option Draft
  | .table key others => do
      let (path, last) := splitLast key others
      return { members := ← draft.members.name path last, header := key :: others }
  | .nextTable key others => do
      let (path, last) := splitLast key others
      return { members := ← draft.members.nameNext path last, header := key :: others }
  | .assignment content => do
      let members ← draft.members.under draft.header fun members => members.add content
      return { draft with members }

end Draft

/-- The mark of byte order that a text may begin with. -/
def byteOrderMark : Char := '\ufeff'

/-- The table that a text denotes, unless the text is no document. -/
def table? (text : String) : Option Table := do
  let chars := match text.toList with
    | first :: rest => if first = byteOrderMark then rest else first :: rest
    | [] => []
  let draft ← (← lines? chars).foldlM Draft.add {}
  return tableOf draft.members

end EditorAnalysis.Toml
