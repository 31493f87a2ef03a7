/-!
# Binary floating-point numbers of 64 bits

The finite numbers of this format are whole counts of units of `2 ^ -1074`: a number takes its place
in a grid whose spacing is one unit for counts below `2 ^ 53` and doubles with every further binary
digit. `ofDecimal` gives the number that is nearest to a decimal fraction, of two equally near ones
that with the even place in the grid. What is nearer to the end of the range than half of its last
spacing is infinite.
-/

namespace CompileDb

/-- A binary floating-point number of 64 bits. -/
inductive Binary64 where
  /-- The number `± units · 2 ^ -1074`. -/
  | finite (negative : Bool) (units : Nat)
  /-- An infinity. -/
  | infinite (negative : Bool)
  /-- No number at all. -/
  | undefined
  deriving DecidableEq

namespace Binary64

/-- How many units make one. -/
def unitsOfOne : Nat := Nat.pow 2 1074

/-- The number of binary digits that a finite number keeps. -/
def precision : Nat := 53

/-- The first count of units that is out of range. -/
def unitsLimit : Nat := Nat.pow 2 (1074 + 1024)

/-- The spacing of the grid at a count of units. -/
def spacing (units : Nat) : Nat := Nat.pow 2 (units.log2 + 1 - precision)

/-- The whole number nearest to a quotient, the even one of two. -/
def nearest (dividend divisor : Nat) : Nat :=
  let quotient := dividend / divisor
  let rest := dividend % divisor
  if divisor < 2 * rest ∨ (divisor = 2 * rest ∧ quotient % 2 = 1) then quotient + 1 else quotient

/-- The number nearest to a quotient of counts of units. -/
def ofQuotient (negative : Bool) (dividend divisor : Nat) : Binary64 :=
  let step := spacing (dividend / divisor)
  let units := nearest dividend (divisor * step) * step
  if units < unitsLimit then finite negative units else infinite negative

/-- The number of decimal digits of a whole number. -/
def digitCount (n : Nat) : Nat := (Nat.toDigits 10 n).length

/-- Decimal fractions that reach this power of ten are out of range. -/
def greatestPower : Int := 310

/-- Decimal fractions below this power of ten are nearest to zero. -/
def leastPower : Int := -330

/-- The number nearest to `± digits · 10 ^ exponent`. -/
def ofDecimal (negative : Bool) (digits : Nat) (exponent : Int) : Binary64 :=
  let power := exponent + digitCount digits
  if digits = 0 ∨ power < leastPower then finite negative 0
  else if greatestPower < power then infinite negative
  else if exponent < 0 then ofQuotient negative (digits * unitsOfOne) (Nat.pow 10 (-exponent).toNat)
  else ofQuotient negative (digits * unitsOfOne * Nat.pow 10 exponent.toNat) 1

/-- Whether a number is zero, with whichever sign. -/
def isZero : Binary64 → Bool
  | finite _ units => units == 0
  | _ => false

end Binary64

end CompileDb
