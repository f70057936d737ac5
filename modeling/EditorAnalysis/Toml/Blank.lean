/-!
# Blanks of a document

What stands between the meaningful parts of a document: spaces and tabs, comments, and ends of lines.
A line ends with a line feed, which a carriage return may precede; a carriage return elsewhere and
every other control character but the tab are refused wherever they stand.
-/

namespace EditorAnalysis.Toml

/-- Reads something from the front of a text and leaves the rest, or refuses the text. -/
abbrev Reading (Result : Type) := List Char → Option (Result × List Char)

/-- A space or a tab. -/
def isSpace (char : Char) : Bool := char == ' ' || char == '\t'

/-- A character that may stand in a text or a comment for itself. -/
def isPlain (char : Char) : Bool := char == '\t' || (' ' ≤ char && char != '\x7f')

/-- The rest of a text after its leading spaces. -/
def skipSpaces (chars : List Char) : List Char := chars.dropWhile isSpace

/-- The rest of a text after an end of line. -/
def newline? : List Char → Option (List Char)
  | '\n' :: rest => some rest
  | '\r' :: '\n' :: rest => some rest
  | _ => none

/-- The rest of a text after a comment up to the end of its line, which is left. -/
def comment? : List Char → Option (List Char)
  | [] => some []
  | '\n' :: rest => some ('\n' :: rest)
  | '\r' :: '\n' :: rest => some ('\r' :: '\n' :: rest)
  | char :: rest => if isPlain char then comment? rest else none

/-- The rest of a text after spaces and perhaps a comment. -/
def skipComment? (chars : List Char) : Option (List Char) :=
  match skipSpaces chars with
  | '#' :: rest => comment? rest
  | other => some other

/-- The rest of a text after the end of its first line, where nothing but blanks may be left of it. -/
def endOfLine? (chars : List Char) : Option (List Char) := do
  match ← skipComment? chars with
  | [] => some []
  | other => newline? other

/-- The rest of a text after lines of blanks, with a bound on their number. -/
def skipLinesWithin : Nat → List Char → Option (List Char)
  | 0, chars => some chars
  | bound + 1, chars => do
      let left ← skipComment? chars
      match newline? left with
      | some rest => skipLinesWithin bound rest
      | none => some left

/-- The rest of a text after blanks of all kinds. -/
def skipLines? (chars : List Char) : Option (List Char) := skipLinesWithin chars.length chars

end EditorAnalysis.Toml
