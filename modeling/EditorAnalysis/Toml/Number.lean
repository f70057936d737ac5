import EditorAnalysis.Decimal.Binary64
import EditorAnalysis.Toml.Text

/-!
# Numbers of a document

Whole numbers are written with the base ten and a sign, or without a sign in one of the bases two,
eight and sixteen; they are not limited here. Numbers with a fraction or an exponent are of double
precision. An underscore may stand between two digits.
-/

namespace EditorAnalysis.Toml

open Decimal (Binary64)

/-- A number of a document. -/
inductive Number where
  | integer (value : Int)
  /-- A number of double precision. -/
  | float (value : Binary64)
  deriving DecidableEq, Repr, Inhabited

/-- The value of a digit of a base. -/
def digit? (base : Nat) (char : Char) : Option Nat := (hexDigit? char).filter (· < base)

/-- The digits of a numeral, in which underscores may stand between two digits. -/
def digits? (base : Nat) : List Char → Option (List Nat)
  | [] => none
  | [char] => (digit? base char).map fun value => [value]
  | char :: '_' :: rest => do return (← digit? base char) :: (← digits? base rest)
  | char :: rest => do return (← digit? base char) :: (← digits? base rest)

/-- The number with the given digits. -/
def ofDigits (base : Nat) (digits : List Nat) : Nat :=
  digits.foldl (fun value digit => base * value + digit) 0

/-- The digits of a decimal numeral without superfluous zeros in front. -/
def wholeDigits? (chars : List Char) : Option (List Nat) := do
  match ← digits? 10 chars with
  | 0 :: _ :: _ => none
  | digits => some digits

/-- A sign, which may be missing, and what follows it. -/
def splitSign : List Char → Option Bool × List Char
  | '+' :: rest => (some false, rest)
  | '-' :: rest => (some true, rest)
  | chars => (none, chars)

/-- The part before the first character of a kind and, if there is one, the part after it. -/
def splitAtFirst (isMark : Char → Bool) (chars : List Char) : List Char × Option (List Char) :=
  match chars.dropWhile fun char => !isMark char with
  | [] => (chars, none)
  | _ :: rest => (chars.takeWhile fun char => !isMark char, some rest)

/-- The number with a sign and a magnitude. -/
def signed (negative : Bool) (magnitude : Nat) : Int :=
  if negative then -magnitude else magnitude

/-- The power of ten that the part after an `e` denotes. -/
def exponent? (chars : List Char) : Option Int :=
  let (sign, rest) := splitSign chars
  (digits? 10 rest).map fun digits => signed (sign.getD false) (ofDigits 10 digits)

/-- A decimal number without its sign. A number too large for double precision is refused. -/
def decimal? (negative : Bool) (chars : List Char) : Option Number := do
  let (mantissa, scale) := splitAtFirst (fun char => char == 'e' || char == 'E') chars
  let (whole, places) := splitAtFirst (· == '.') mantissa
  let wholeDigits ← wholeDigits? whole
  let placeDigits ← (places.map (digits? 10)).getD (some [])
  let power ← (scale.map exponent?).getD (some 0)
  if places.isNone && scale.isNone then
    some (.integer (signed negative (ofDigits 10 wholeDigits)))
  else
    (Binary64.ofDecimal? negative (wholeDigits ++ placeDigits) (power - placeDigits.length)).map
      .float

/-- A whole number in another base than ten, given by the letter after the leading zero. -/
def based? (marker : Char) (chars : List Char) : Option Number := do
  let base ← match marker with
    | 'x' => some 16
    | 'o' => some 8
    | 'b' => some 2
    | _ => none
  return .integer (ofDigits base (← digits? base chars))

/-- The number of a text. -/
def number? (chars : List Char) : Option Number :=
  let (sign, rest) := splitSign chars
  let negative := sign.getD false
  match rest with
  | ['i', 'n', 'f'] => some (.float (.infinite negative))
  | ['n', 'a', 'n'] => some (.float .notANumber)
  | '0' :: marker :: digits =>
      if sign.isNone && marker.isAlpha && marker != 'e' && marker != 'E' then based? marker digits
      else decimal? negative rest
  | _ => decimal? negative rest

end EditorAnalysis.Toml
