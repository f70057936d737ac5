import EditorAnalysis.Decimal.Binary64

/-!
# Shortest decimal texts

The text of a number of double precision has the fewest digits that still denote this number and no
other, and of those digits the ones nearest to it. It is written without an exponent and always with
a fraction.
-/

namespace EditorAnalysis.Decimal

/-- The decimal `digits * 10 ^ power`. -/
structure Digits where
  /-- The digits, read as one number. -/
  digits : Nat
  /-- The power of ten of the last digit. -/
  power : Int
  deriving DecidableEq, Repr, Inhabited

/-- The interval of the numbers that are nearest to a given one, in quarters of the distance between
neighbours. The neighbour below the least significand of its exponent is only half as far away. -/
structure Rounding where
  centre : Nat
  low : Nat
  high : Nat
  /-- Both ends belong to the interval. -/
  closed : Bool
  deriving DecidableEq, Repr

namespace Rounding

/-- The interval around `significand * 2 ^ exponent`, with the exponent of its unit. -/
def of (significand : Nat) (exponent : Int) : Rounding where
  centre := 4 * significand
  low :=
    if significand = Binary64.normalSignificand ∧ Binary64.leastExponent < exponent then
      4 * significand - 1
    else 4 * significand - 2
  high := 4 * significand + 2
  closed := significand % 2 = 0

/-- A fraction of the unit lies in the interval. -/
def holds (interval : Rounding) (numerator denominator : Nat) : Bool :=
  if interval.closed then
    interval.low * denominator ≤ numerator && numerator ≤ interval.high * denominator
  else
    interval.low * denominator < numerator && numerator < interval.high * denominator

end Rounding

/-- The multiple of `10 ^ power` nearest to a positive number, if it still denotes the number. The
number lies between two neighbouring multiples; if the nearer one lies outside the interval of the
number, the other may still lie inside, because the interval need not be symmetric. Of two equally near
ones the larger is taken. -/
def nearestOnGrid? (significand : Nat) (exponent power : Int) : Option Digits :=
  let interval := Rounding.of significand exponent
  let unit := scaleFraction 2 (exponent - 2) 1 1
  let grid := scaleFraction 10 power 1 1
  -- one step of the grid is `step / scale` units
  let step := grid.1 * unit.2
  let scale := grid.2 * unit.1
  let below := interval.centre * scale / step
  let candidate (digits : Nat) : Option Digits :=
    if interval.holds (digits * step) scale then some ⟨digits, power⟩ else none
  let isHalf := step ≤ 2 * (interval.centre * scale % step)
  let (near, far) := if isHalf then (below + 1, below) else (below, below + 1)
  candidate near <|> candidate far

/-- The power of ten of the first digit of a positive number, or one more. -/
def leadingPower (significand : Nat) (exponent : Int) : Int :=
  let value := scaleFraction 2 exponent significand 1
  let whole := value.1 / value.2
  if 0 < whole then (Nat.toDigits 10 whole).length
  else
    let inverse := value.2 / value.1
    2 - (Nat.toDigits 10 inverse).length

/-- The shortest decimal that denotes a positive number, by ever finer grids. Seventeen digits tell
any two numbers apart, and the first grid may be one digit too coarse. -/
def shortest (significand : Nat) (exponent : Int) : Digits :=
  let first := leadingPower significand exponent
  let attempts := (List.range 20).map fun (count : Nat) =>
    nearestOnGrid? significand exponent (first - count)
  match attempts.find? Option.isSome with
  | some (some digits) => digits
  | _ => ⟨0, 0⟩

/-- A decimal without an exponent and with at least one place after the point. -/
def positional (decimal : Digits) : String :=
  let digits := Nat.toDigits 10 decimal.digits
  match decimal.power with
  | .ofNat zeros => String.ofList (digits ++ List.replicate zeros '0' ++ ['.', '0'])
  | .negSucc before =>
      let places := before + 1
      let padded := List.replicate (places + 1 - digits.length) '0' ++ digits
      let whole := padded.length - places
      String.ofList (padded.take whole ++ '.' :: padded.drop whole)

/-- The text of a number of double precision. -/
def Binary64.text : Binary64 → String
  | .notANumber => "NaN"
  | .infinite negative => if negative then "-inf" else "inf"
  | .finite negative significand exponent =>
      let sign := if negative then "-" else ""
      sign ++ if significand = 0 then "0.0" else positional (shortest significand exponent)

end EditorAnalysis.Decimal
