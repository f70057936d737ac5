/-!
# Binary numbers of double precision

A finite number of double precision is `m * 2 ^ q` with a significand `m` below `2 ^ 53` and an
exponent `q` from `-1074` on; a decimal text denotes the one nearest to its value, and of two equally
near ones the one with the even significand.
-/

namespace EditorAnalysis.Decimal

/-- The quotient of two numbers, rounded to the nearest whole number; a half goes to the even one. -/
def divideToEven (numerator denominator : Nat) : Nat :=
  let quotient := numerator / denominator
  let rest := 2 * (numerator % denominator)
  if rest < denominator then quotient
  else if denominator < rest then quotient + 1
  else quotient + quotient % 2

/-- A fraction times a power of a base, as a fraction again. -/
def scaleFraction (base : Nat) (exponent : Int) (numerator denominator : Nat) : Nat × Nat :=
  match exponent with
  | .ofNat power => (numerator * Nat.pow base power, denominator)
  | .negSucc power => (numerator, denominator * Nat.pow base (power + 1))

/-- A number of double precision. -/
inductive Binary64 where
  /-- The number `significand * 2 ^ exponent`, or its opposite. -/
  | finite (negative : Bool) (significand : Nat) (exponent : Int)
  | infinite (negative : Bool)
  | notANumber
  deriving DecidableEq, Repr, Inhabited

namespace Binary64

/-- The least exponent. -/
def leastExponent : Int := -1074

/-- The greatest exponent. -/
def greatestExponent : Int := 971

/-- The least significand of a number above the smallest ones, `2 ^ 52`. -/
def normalSignificand : Nat := 4503599627370496

/-- The significand and the exponent nearest to a positive fraction, unless it is too large. The
fraction lies between `2 ^ (e - 1)` and `2 ^ (e + 1)`, where `e` is the difference of the logarithms of
its parts, so that a significand of 53 binary digits needs the exponent `e - 53` or `e - 52`. Rounding
may still carry into one more digit. -/
def nearest? (numerator denominator : Nat) : Option (Nat × Int) :=
  let estimate : Int := (Nat.log2 numerator : Int) - Nat.log2 denominator
  let scaled (exponent : Int) := scaleFraction 2 (-exponent) numerator denominator
  let low := max (estimate - 53) leastExponent
  let fits := (scaled low).1 / (scaled low).2 < 2 * normalSignificand
  let exponent := if fits then low else low + 1
  let significand := divideToEven (scaled exponent).1 (scaled exponent).2
  let rounded :=
    if significand = 2 * normalSignificand then (normalSignificand, exponent + 1)
    else (significand, exponent)
  if rounded.2 ≤ greatestExponent then some rounded else none

/-- The number nearest to a decimal, given by its digits and the power of ten of the last one, unless
it is too large. A decimal with its point more than 310 places behind the first digit is too large
for any number, and one with more than 330 zeros before it is next to zero, so that no power of ten
grows beyond what the digits themselves ask for. -/
def ofDecimal? (negative : Bool) (digits : List Nat) (power : Int) : Option Binary64 :=
  let significant := digits.dropWhile (· == 0)
  let places := (significant.length : Int) + power
  if significant.isEmpty || places < -330 then some (.finite negative 0 leastExponent)
  else if 310 < places then none
  else
    let value := significant.foldl (fun value digit => 10 * value + digit) 0
    let fraction := scaleFraction 10 power value 1
    (nearest? fraction.1 fraction.2).map fun (significand, exponent) =>
      .finite negative significand exponent

end Binary64

end EditorAnalysis.Decimal
