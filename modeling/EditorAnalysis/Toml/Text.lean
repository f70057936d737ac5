import EditorAnalysis.Toml.Blank

/-!
# Texts and keys of a document

A text stands between double quotes, with escapes, or between single quotes, without. With one quote
on either side it ends on its line; with three it may run over lines. A key is a text on one line or
a bare word.
-/

namespace EditorAnalysis.Toml

/-- The value of a hexadecimal digit. -/
def hexDigit? (char : Char) : Option Nat :=
  if '0' ≤ char ∧ char ≤ '9' then some (char.toNat - '0'.toNat)
  else if 'a' ≤ char ∧ char ≤ 'f' then some (char.toNat - 'a'.toNat + 10)
  else if 'A' ≤ char ∧ char ≤ 'F' then some (char.toNat - 'A'.toNat + 10)
  else none

/-- The character whose code point has the given hexadecimal digits, unless no character has. -/
def codePoint? (digits : List Char) : Option Char := do
  let values ← digits.mapM hexDigit?
  let code := values.foldl (fun code digit => 16 * code + digit) 0
  if h : code.isValidChar then some (Char.ofNatAux code h) else none

/-- The character that an escape stands for, and how many characters the escape takes after its
backslash. -/
def escape? : List Char → Option (Char × Nat)
  | [] => none
  | marker :: rest =>
      let byPoint (count : Nat) : Option (Char × Nat) :=
        let digits := rest.take count
        if digits.length = count then (codePoint? digits).map fun char => (char, count + 1) else none
      match marker with
      | 'b' => some ('\x08', 1)
      | 't' => some ('\t', 1)
      | 'n' => some ('\n', 1)
      | 'f' => some ('\x0c', 1)
      | 'r' => some ('\r', 1)
      | 'e' => some ('\x1b', 1)
      | '\x22' => some ('\x22', 1)
      | '\x5c' => some ('\x5c', 1)
      | 'x' => byPoint 2
      | 'u' => byPoint 4
      | 'U' => byPoint 8
      | _ => none

/-- The rest of a text between double quotes on one line. -/
def quoted? (chars : List Char) : Option (List Char × List Char) :=
  match chars with
  | [] => none
  | '\x22' :: rest => some ([], rest)
  | '\x5c' :: rest => do
      let (char, taken) ← escape? rest
      let (text, left) ← quoted? (rest.drop taken)
      some (char :: text, left)
  | char :: rest =>
      if isPlain char then do
        let (text, left) ← quoted? rest
        some (char :: text, left)
      else none
  termination_by chars.length
  decreasing_by all_goals simp only [List.length_drop, List.length_cons]; omega

/-- The rest of a text between single quotes on one line. -/
def literal? : Reading (List Char)
  | [] => none
  | '\x27' :: rest => some ([], rest)
  | char :: rest =>
      if isPlain char then do
        let (text, left) ← literal? rest
        some (char :: text, left)
      else none

/-- The quotes beyond the closing three that still belong to a text: at most two. -/
def closingQuotes (quote : Char) (rest : List Char) : List Char × List Char :=
  let extra := (rest.takeWhile (· == quote)).take 2
  (extra, rest.drop extra.length)

/-- The rest of a text after blanks and ends of lines, as long as only these follow. -/
def skipBreaks : List Char → List Char
  | '\n' :: rest => skipBreaks rest
  | '\r' :: '\n' :: rest => skipBreaks rest
  | char :: rest => if isSpace char then skipBreaks rest else char :: rest
  | [] => []

theorem length_skipBreaks_le (chars : List Char) : (skipBreaks chars).length ≤ chars.length := by
  fun_induction skipBreaks chars <;> simp_all <;> omega

/-- The rest of a text after the backslash at the end of a line, which takes the following blanks and
ends of lines with it. -/
def continuation? (rest : List Char) : Option (List Char) :=
  (newline? (skipSpaces rest)).map skipBreaks

theorem length_newline?_lt {chars rest : List Char} (found : newline? chars = some rest) :
    rest.length < chars.length := by
  unfold newline? at found
  split at found
  · cases found
    simp only [List.length_cons]
    omega
  · cases found
    simp only [List.length_cons]
    omega
  · cases found

theorem length_skipSpaces_le (chars : List Char) : (skipSpaces chars).length ≤ chars.length :=
  (List.dropWhile_sublist isSpace).length_le

theorem length_continuation?_lt {chars rest : List Char} (found : continuation? chars = some rest) :
    rest.length < chars.length := by
  obtain ⟨after, newline, rfl⟩ := Option.map_eq_some_iff.1 found
  have := length_newline?_lt newline
  have := length_skipSpaces_le chars
  have := length_skipBreaks_le after
  omega

/-- The rest of a text between three double quotes. -/
def quotedLines? (chars : List Char) : Option (List Char × List Char) :=
  match chars with
  | [] => none
  | '\x22' :: '\x22' :: '\x22' :: rest => some (closingQuotes '\x22' rest)
  | '\x5c' :: rest =>
      match _found : continuation? rest with
      | some left => quotedLines? left
      | none => do
          let (char, taken) ← escape? rest
          let (text, left) ← quotedLines? (rest.drop taken)
          some (char :: text, left)
  | '\r' :: '\n' :: rest => do
      let (text, left) ← quotedLines? rest
      some ('\r' :: '\n' :: text, left)
  | char :: rest =>
      if isPlain char || char == '\n' then do
        let (text, left) ← quotedLines? rest
        some (char :: text, left)
      else none
  termination_by chars.length
  decreasing_by
    · have := length_continuation?_lt _found
      simp only [List.length_cons]
      omega
    all_goals simp only [List.length_drop, List.length_cons]; omega

/-- The rest of a text between three single quotes. -/
def literalLines? : Reading (List Char)
  | [] => none
  | '\x27' :: '\x27' :: '\x27' :: rest => some (closingQuotes '\x27' rest)
  | '\r' :: '\n' :: rest => do
      let (text, left) ← literalLines? rest
      some ('\r' :: '\n' :: text, left)
  | char :: rest =>
      if isPlain char || char == '\n' then do
        let (text, left) ← literalLines? rest
        some (char :: text, left)
      else none

/-- The rest of a text of several lines, without an end of line right after the opening quotes. -/
def skipFirstNewline (chars : List Char) : List Char := (newline? chars).getD chars

/-- A text in any of the four notations. -/
def text? (chars : List Char) : Option (String × List Char) :=
  let found := match chars with
    | '\x22' :: '\x22' :: '\x22' :: rest => quotedLines? (skipFirstNewline rest)
    | '\x27' :: '\x27' :: '\x27' :: rest => literalLines? (skipFirstNewline rest)
    | '\x22' :: rest => quoted? rest
    | '\x27' :: rest => literal? rest
    | _ => none
  found.map fun (text, left) => (String.ofList text, left)

/-- A character of a bare key. -/
def isBare (char : Char) : Bool := char.isAlphanum || char == '_' || char == '-'

/-- A key. -/
def key? (chars : List Char) : Option (String × List Char) :=
  match chars with
  | '\x22' :: rest => (quoted? rest).map fun (text, left) => (String.ofList text, left)
  | '\x27' :: rest => (literal? rest).map fun (text, left) => (String.ofList text, left)
  | _ =>
      let word := chars.takeWhile isBare
      if word.isEmpty then none else some (String.ofList word, chars.dropWhile isBare)

/-- Keys separated by dots, with spaces around the dots; the first key, the others, and a bound on
their number. -/
def pathWithin : Nat → Reading (String × List String)
  | 0, _ => none
  | bound + 1, chars => do
      let (key, left) ← key? chars
      match skipSpaces left with
      | '.' :: rest =>
          let ((next, others), left) ← pathWithin bound (skipSpaces rest)
          some ((key, next :: others), left)
      | other => some ((key, []), other)

/-- Keys separated by dots: the first key and the others. Spaces after the last one are skipped. -/
def path? (chars : List Char) : Option ((String × List String) × List Char) :=
  pathWithin chars.length chars

end EditorAnalysis.Toml
