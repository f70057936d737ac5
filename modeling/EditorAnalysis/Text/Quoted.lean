import EditorAnalysis.Text.Unprintable

/-!
# Quoted texts

Descriptions of requests and messages about settings show a text between double quotes. Inside, the
quote and the backslash are escaped by a backslash, five controls have letters, every other character
without a glyph of its own is given by its code point, and all else stands for itself.
-/

namespace EditorAnalysis.Text

/-- A character given by its code point. -/
def pointEscape (char : Char) : List Char :=
  '\x5c' :: 'u' :: '\x7b' :: Nat.toDigits 16 char.toNat ++ ['\x7d']

/-- The characters that stand for one character inside quotes. -/
def escape (char : Char) : List Char :=
  match char with
  | '\x00' => ['\x5c', '0']
  | '\t' => ['\x5c', 't']
  | '\r' => ['\x5c', 'r']
  | '\n' => ['\x5c', 'n']
  | '\x22' => ['\x5c', '\x22']
  | '\x5c' => ['\x5c', '\x5c']
  | other => if isUnprintable other then pointEscape other else [other]

/-- A text between quotes. -/
def quote (text : String) : String :=
  String.ofList ('\x22' :: text.toList.flatMap escape ++ ['\x22'])

end EditorAnalysis.Text
