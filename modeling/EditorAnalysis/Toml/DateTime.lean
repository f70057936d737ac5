import EditorAnalysis.Toml.Text

/-!
# Dates and times of a document

A date, a time of day, or a date with a time and perhaps an offset from universal time. Only their
form and the ranges of their parts are looked at.
-/

namespace EditorAnalysis.Toml

/-- The value of a number of decimal digits of a fixed count, and what follows them. -/
def fixedDigits? (count : Nat) : Reading Nat := fun chars => do
  let digits := chars.take count
  guard (digits.length = count)
  let values ← digits.mapM fun char => (hexDigit? char).filter (· < 10)
  return (values.foldl (fun value digit => 10 * value + digit) 0, chars.drop count)

/-- What follows one of some characters. -/
def oneOf? (marks : List Char) : List Char → Option (List Char)
  | char :: rest => if marks.contains char then some rest else none
  | [] => none

/-- A year in which February has 29 days. -/
def isLeapYear (year : Nat) : Bool := year % 4 == 0 && (year % 100 != 0 || year % 400 == 0)

/-- The number of days of a month. -/
def daysOfMonth (year month : Nat) : Nat :=
  if month = 2 then if isLeapYear year then 29 else 28
  else if [4, 6, 9, 11].contains month then 30 else 31

/-- What follows a date. -/
def date? (chars : List Char) : Option (List Char) := do
  let (year, rest) ← fixedDigits? 4 chars
  let (month, rest) ← fixedDigits? 2 (← oneOf? ['-'] rest)
  let (day, rest) ← fixedDigits? 2 (← oneOf? ['-'] rest)
  guard (1 ≤ month && month ≤ 12 && 1 ≤ day && day ≤ daysOfMonth year month)
  return rest

/-- What follows a fraction of a second, which may be missing. -/
def fraction? (chars : List Char) : Option (List Char) :=
  match chars with
  | '.' :: rest =>
      let left := rest.dropWhile Char.isDigit
      if left.length = rest.length then none else some left
  | other => some other

/-- What follows the seconds of a time, which may be missing. The sixtieth is a leap second. -/
def seconds? (chars : List Char) : Option (List Char) :=
  match chars with
  | ':' :: rest => do
      let (second, rest) ← fixedDigits? 2 rest
      guard (second ≤ 60)
      fraction? rest
  | other => some other

/-- What follows hours and minutes. -/
def clock? (chars : List Char) : Option (List Char) := do
  let (hour, rest) ← fixedDigits? 2 chars
  let (minute, rest) ← fixedDigits? 2 (← oneOf? [':'] rest)
  guard (hour ≤ 23 && minute ≤ 59)
  return rest

/-- What follows a time of day. -/
def time? (chars : List Char) : Option (List Char) := do seconds? (← clock? chars)

/-- What follows an offset from universal time, which may be missing. -/
def offset? (chars : List Char) : Option (List Char) :=
  match chars with
  | '+' :: rest | '-' :: rest => clock? rest
  | 'Z' :: rest | 'z' :: rest => some rest
  | other => some other

/-- What follows a date and perhaps a time. -/
def dateTime? (chars : List Char) : Option (List Char) := do
  match ← date? chars with
  | [] => some []
  | rest => offset? (← time? (← oneOf? ['T', 't', ' '] rest))

/-- The whole text is a date, a time, or both. -/
def isDateTime (chars : List Char) : Bool := dateTime? chars == some [] || time? chars == some []

end EditorAnalysis.Toml
