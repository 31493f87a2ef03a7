import CompileDb.Binary64
import CompileDb.Text

/-!
# Shortest decimal texts of binary numbers

A finite number is written with the fewest digits from which `ofDecimal` reads it back: `interval`
is the part of the line that is nearest to it, and of all decimal fractions in that part with the
fewest digits `shortest` takes the nearest one. The grid of fractions with a given number of digits
is tried at the two neighbours of the number only, for if any of its fractions lies in the interval,
one of these two does.

`text` sets a point among the digits of numbers that are neither very large nor very small, and
writes the others with an exponent.
-/

namespace CompileDb.Binary64

/-- The numbers that are nearest to a count of units, in quarters of a unit. -/
structure Interval where
  low : Nat
  high : Nat
  /-- Whether the ends belong to it. -/
  closed : Bool

/-- The interval around a count of units. Below a power of two the spacing is half of what it is
above; the ends belong to the number whose place in its grid is even. -/
def interval (units : Nat) : Interval :=
  let step := spacing units
  let below := if units = Nat.pow 2 units.log2 ∧ 1 < step then step else 2 * step
  ⟨4 * units - below, 4 * units + 2 * step, units / step % 2 = 0⟩

/-- The fraction `digits · 10 ^ exponent` as a quotient of quarters of a unit. -/
def quarters (digits : Nat) (exponent : Int) : Nat × Nat :=
  if exponent < 0 then (4 * digits * unitsOfOne, Nat.pow 10 (-exponent).toNat)
  else (4 * digits * unitsOfOne * Nat.pow 10 exponent.toNat, 1)

/-- Whether an interval holds the fraction `digits · 10 ^ exponent`. -/
def Interval.holds (i : Interval) (digits : Nat) (exponent : Int) : Bool :=
  let (dividend, divisor) := quarters digits exponent
  if i.closed then decide (i.low * divisor ≤ dividend) && decide (dividend ≤ i.high * divisor)
  else decide (i.low * divisor < dividend) && decide (dividend < i.high * divisor)

/-- The least power of ten above a count of units. -/
def powerAbove (units : Nat) : Int :=
  if unitsOfOne ≤ units then digitCount (units / unitsOfOne)
  else 1 - (digitCount ((unitsOfOne - 1) / units) : Int)

/-- A decimal fraction that is a count of powers of ten. -/
structure Fraction where
  digits : Nat
  exponent : Int
  deriving DecidableEq

/-- The fraction in the interval of a count of units that is nearest to it, among the two neighbours
in the grid of `10 ^ exponent`; the even one of two equally near ones. -/
def neighbour? (units : Nat) (exponent : Int) : Option Fraction :=
  let i := interval units
  let below :=
    if exponent < 0 then units * Nat.pow 10 (-exponent).toNat / unitsOfOne
    else units / (unitsOfOne * Nat.pow 10 exponent.toNat)
  let rest := 2 * (4 * units * (quarters below exponent).2 - (quarters below exponent).1)
  let gap := (quarters 1 exponent).1
  let order :=
    if rest < gap ∨ (rest = gap ∧ below % 2 = 0) then [below, below + 1] else [below + 1, below]
  (order.find? fun digits => i.holds digits exponent).map fun digits => ⟨digits, exponent⟩

/-- The greatest number of digits that a number ever needs. -/
def maxDigits : Nat := 17

/-- The shortest fraction that reads back as a count of units. -/
def shortest (units : Nat) : Fraction :=
  let tried := List.range maxDigits
  (tried.findSome? fun n => neighbour? units (powerAbove units - (n + 1 : Nat))).getD ⟨0, 0⟩

/-- How the digits of a number are set. -/
structure Style where
  /-- The least place of the point, from the first digit on, that is written without exponent. -/
  leastPoint : Int
  /-- The greatest such place. -/
  greatestPoint : Int
  /-- The least number of digits of an exponent. -/
  exponentWidth : Nat

/-- Numbers from a ten-thousandth up to ten to the sixteenth are written without exponent; an
exponent has at least two digits. -/
def style : Style := ⟨-3, 16, 2⟩

/-- A whole number with at least `width` digits. -/
def wholeText (width n : Nat) : List Char :=
  let digits := Nat.toDigits 10 n
  List.replicate (width - digits.length) '0' ++ digits

/-- A fraction in the given style; its digits do not end in zeros. -/
def Style.set (style : Style) (digits : List Char) (point : Int) : List Char :=
  if point < style.leastPoint ∨ style.greatestPoint < point then
    let power := point - 1
    digits.take 1 ++ (if digits.length ≤ 1 then [] else '.' :: digits.drop 1) ++
      ['e', if power < 0 then '-' else '+'] ++ wholeText style.exponentWidth power.natAbs
  else if point ≤ 0 then "0.".toList ++ List.replicate (-point).toNat '0' ++ digits
  else
    let whole := digits.take point.toNat
    let rest := digits.drop point.toNat
    let zeros := List.replicate (point.toNat - whole.length) '0'
    whole ++ zeros ++ '.' :: if rest.isEmpty then ['0'] else rest

/-- A count of units in the given style. -/
def Style.unitsText (style : Style) (units : Nat) : List Char :=
  if units = 0 then "0.0".toList
  else
    let fraction := shortest units
    let digits := Nat.toDigits 10 fraction.digits
    let point := fraction.exponent + digits.length
    style.set (digits.reverse.dropWhile (· == '0')).reverse point

def text : Binary64 → Text
  | finite negative units =>
    (if negative then "-" else "") ++ Text.ofChars (style.unitsText units)
  | infinite negative => if negative then "-inf" else "inf"
  | undefined => "nan"

end CompileDb.Binary64
