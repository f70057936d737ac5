import EditorAnalysis.Toml.DateTime
import EditorAnalysis.Toml.Tree

/-!
# Written values

A value is written as a text, a number, a truth value, a date or time, a list between brackets or a
table between braces. Lists and tables may be spread over lines and may end with a comma; they nest
only to a fixed depth.
-/

namespace EditorAnalysis.Toml

/-- The number of lists and tables between braces that may stand inside one another. -/
def nestingLimit : Nat := 80

/-- A character that cannot stand in an unquoted value. -/
def endsWord (char : Char) : Bool :=
  isSpace char || ['=', ',', '[', ']', '\x7b', '\x7d', '#', '\r', '\n'].contains char

/-- An unquoted value as it is written, and what follows it. A date and a time may be separated by
one space. -/
def word (chars : List Char) : List Char × List Char :=
  let first := chars.takeWhile fun char => !endsWord char
  let rest := chars.dropWhile fun char => !endsWord char
  match rest with
  | ' ' :: digit :: more =>
      if digit.isDigit && date? first == some [] then
        let time := (digit :: more).takeWhile fun char => !endsWord char
        (first ++ ' ' :: time, (digit :: more).drop time.length)
      else (first, rest)
  | _ => (first, rest)

/-- An unquoted value. -/
def unquoted? : Reading Value := fun chars =>
  let (written, left) := word chars
  let value : Option Value :=
    if written = "true".toList then some (.boolean true)
    else if written = "false".toList then some (.boolean false)
    else if isDateTime written then some .dateTime
    else (number? written).map .number
  value.map fun value => (value, left)

/-- A value that is neither a list nor a table between braces. -/
def scalar? (chars : List Char) : Option (Node × List Char) :=
  match chars with
  | '\x22' :: _ | '\x27' :: _ => (text? chars).map fun (text, left) => (.leaf (.string text), left)
  | _ => (unquoted? chars).map fun (value, left) => (.leaf value, left)

/-- Items separated by commas, up to a closing mark and with a bound on their number. Blanks of all
kinds may stand around the items, and a comma may follow the last one. -/
def itemsWithin {Item : Type} (item? : Reading Item) (close : Char) : Nat → Reading (List Item)
  | 0, _ => none
  | bound + 1, chars => do
      match ← skipLines? chars with
      | [] => none
      | char :: rest =>
          if char = close then some ([], rest)
          else
            let (item, left) ← item? (char :: rest)
            match ← skipLines? left with
            | ',' :: rest =>
                let (items, left) ← itemsWithin item? close bound rest
                some (item :: items, left)
            | mark :: rest => if mark = close then some ([item], rest) else none
            | [] => none

/-- Items separated by commas, up to a closing mark. -/
def items? {Item : Type} (item? : Reading Item) (close : Char) : Reading (List Item) :=
  fun chars => itemsWithin item? close chars.length chars

/-- A key with its value. -/
structure Assignment where
  key : String
  others : List String
  node : Node

/-- A key, an equals sign and a value, all on one line. -/
def assignment? (value? : Reading Node) : Reading Assignment := fun chars => do
  let ((key, others), left) ← path? chars
  match left with
  | '=' :: rest =>
      let (node, left) ← value? (skipSpaces rest)
      some (⟨key, others, node⟩, left)
  | _ => none

/-- Adds an assignment to a table. -/
def Members.add (members : Members) (assignment : Assignment) : Option Members :=
  members.assign assignment.key assignment.others assignment.node

/-- A value in which lists and tables between braces nest at most to a given depth. -/
def valueWithin : Nat → Reading Node
  | 0, chars =>
      match chars with
      | '[' :: _ | '\x7b' :: _ => none
      | _ => scalar? chars
  | depth + 1, chars =>
      match chars with
      | '[' :: rest => do
          let (items, left) ← items? (valueWithin depth) ']' rest
          some (.array items, left)
      | '\x7b' :: rest => do
          let (assignments, left) ← items? (assignment? (valueWithin depth)) '\x7d' rest
          let members ← assignments.foldlM Members.add []
          some (.table .inline members, left)
      | _ => scalar? chars

/-- A value. -/
def value? : Reading Node := valueWithin nestingLimit

end EditorAnalysis.Toml
