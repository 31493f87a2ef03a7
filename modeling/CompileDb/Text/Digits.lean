/-!
# Digits

Numbers as digits and digits as numbers, in decimal and in other bases.
-/

namespace CompileDb.Text

/-- The hexadecimal digits of a number, at least `width` of them, in lower case. -/
def hexDigits (width n : Nat) : List Char :=
  let digits := Nat.toDigits 16 n
  List.replicate (width - digits.length) '0' ++ digits

def hexValue? (c : Char) : Option Nat :=
  if c.isDigit then some (c.toNat - '0'.toNat)
  else if 'a' ≤ c ∧ c ≤ 'f' then some (c.toNat - 'a'.toNat + 10)
  else if 'A' ≤ c ∧ c ≤ 'F' then some (c.toNat - 'A'.toNat + 10)
  else none

/-- The number that digits of a base stand for, `none` when a character is no digit of it. -/
def inBase? (base : Nat) (text : List Char) : Option Nat :=
  text.foldlM (fun n c => ((hexValue? c).filter fun d => decide (d < base)).map (n * base + ·)) 0

/-- The number that decimal digits stand for. -/
def ofDigits (digits : List Char) : Nat :=
  digits.foldl (fun n d => n * 10 + (d.toNat - '0'.toNat)) 0

/-- The digits in front of a text, and what follows them. -/
def leadingDigits (text : List Char) : List Char × List Char :=
  (text.takeWhile Char.isDigit, text.dropWhile Char.isDigit)

end CompileDb.Text
