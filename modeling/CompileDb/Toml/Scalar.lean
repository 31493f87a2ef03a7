import CompileDb.Limits
import CompileDb.Text.Digits
import CompileDb.Text.Literal
import CompileDb.Value

/-!
# Scalars of TOML

Strings, numbers, truth values, dates and times as a TOML document writes them. The functions take
the text that is left and return what follows the part they read; `none` says that the text is not
TOML. The fuel of the string readers counts characters; any number above theirs will do.
-/

namespace CompileDb.Toml

open Text (leadingDigits ofDigits)

/-- The outcome of reading a part: what was read, and the text that is left. -/
abbrev Part (α : Type) := Option (α × List Char)

/-- Whether a character may not stand for itself: controls other than the tab. -/
def isControl (c : Char) : Bool := (c.toNat < 0x20 && c != '\t') || c.toNat == 0x7F

/-- A text without the spaces and tabs in front. -/
def skipSpaces (text : List Char) : List Char := text.dropWhile fun c => c == ' ' || c == '\t'

/-- A text without the blanks and line ends in front. -/
def skipLines (text : List Char) : List Char :=
  text.dropWhile fun c => c == ' ' || c == '\t' || c == '\n'

/-- The character of a code point written with `width` hexadecimal digits. -/
def codePoint? (width : Nat) (text : List Char) : Option (Char × List Char) := do
  let digits := text.take width
  if digits.length < width then none
  else
    let n ← Text.inBase? 16 digits
    if h : n.isValidChar then some (Char.ofNatAux n h, text.drop width) else none

/-- The character that stands behind a backslash. -/
def escape? : List Char → Part Char
  | 'b' :: rest => some ('\x08', rest)
  | 't' :: rest => some ('\t', rest)
  | 'n' :: rest => some ('\n', rest)
  | 'f' :: rest => some ('\x0c', rest)
  | 'r' :: rest => some ('\r', rest)
  | '"' :: rest => some ('"', rest)
  | '\\' :: rest => some ('\\', rest)
  | 'u' :: rest => codePoint? 4 rest
  | 'U' :: rest => codePoint? 8 rest
  | _ => none

/-- The rest of a string of one line between quotation marks. -/
def basicRest? : Nat → List Char → List Char → Part Text
  | 0, _, _ => none
  | fuel + 1, read, text =>
    match text with
    | '"' :: rest => some (Text.ofChars read.reverse, rest)
    | '\\' :: rest => (escape? rest).bind fun (c, rest) => basicRest? fuel (c :: read) rest
    | c :: rest => if isControl c then none else basicRest? fuel (c :: read) rest
    | [] => none

/-- The rest of a string of one line between apostrophes. -/
def literalRest? (read : List Char) : List Char → Part Text
  | '\'' :: rest => some (Text.ofChars read.reverse, rest)
  | c :: rest => if isControl c then none else literalRest? (c :: read) rest
  | [] => none

/-- The end of a string of several lines: its three closing marks, with up to two more in front of
them that belong to the string. -/
def closing? (mark : Char) (text : List Char) : Part (List Char) :=
  let marks := text.takeWhile (· == mark)
  if 3 ≤ marks.length then
    let own := min (marks.length - 3) 2
    some (List.replicate own mark, text.drop (own + 3))
  else none

/-- The rest of a string of several lines between quotation marks. A backslash at the end of a line
takes the blanks and line ends behind it away. -/
def longBasicRest? : Nat → List Char → List Char → Part Text
  | 0, _, _ => none
  | fuel + 1, read, text =>
    match closing? '"' text with
    | some (own, rest) => some (Text.ofChars (own ++ read).reverse, rest)
    | none =>
      match text with
      | '\\' :: rest =>
        match skipSpaces rest with
        | '\n' :: rest => longBasicRest? fuel read (skipLines rest)
        | _ => (escape? rest).bind fun (c, rest) => longBasicRest? fuel (c :: read) rest
      | c :: rest =>
        if isControl c && c != '\n' then none else longBasicRest? fuel (c :: read) rest
      | [] => none

/-- The rest of a string of several lines between apostrophes. -/
def longLiteralRest? : Nat → List Char → List Char → Part Text
  | 0, _, _ => none
  | fuel + 1, read, text =>
    match closing? '\'' text with
    | some (own, rest) => some (Text.ofChars (own ++ read).reverse, rest)
    | none =>
      match text with
      | c :: rest =>
        if isControl c && c != '\n' then none else longLiteralRest? fuel (c :: read) rest
      | [] => none

/-- A text without the line end in front. -/
def dropLineEnd : List Char → List Char
  | '\n' :: rest => rest
  | text => text

/-- A string of one line; `none` also when no mark stands in front. -/
def shortString? (fuel : Nat) : List Char → Part Text
  | '"' :: rest => basicRest? fuel [] rest
  | '\'' :: rest => literalRest? [] rest
  | _ => none

/-- A string; `none` also when no mark stands in front. -/
def string? (fuel : Nat) : List Char → Part Text
  | '"' :: '"' :: '"' :: rest => longBasicRest? fuel [] (dropLineEnd rest)
  | '\'' :: '\'' :: '\'' :: rest => longLiteralRest? fuel [] (dropLineEnd rest)
  | text => shortString? fuel text

/-- The digits of a number without the underscores between them. -/
def ungroup? (isDigit : Char → Bool) : List Char → Option (List Char)
  | [] => none
  | [c] => if isDigit c then some [c] else none
  | c :: '_' :: rest => if isDigit c then (ungroup? isDigit rest).map (c :: ·) else none
  | c :: rest => if isDigit c then (ungroup? isDigit rest).map (c :: ·) else none

/-- The decimal digits in front of a point: a zero alone, or digits that do not begin with one. -/
def whole? (text : List Char) : Option (List Char) :=
  match ungroup? Char.isDigit text with
  | some ['0'] => some ['0']
  | some ('0' :: _) => none
  | found => found

/-- A whole number written in another base. -/
def basedNumber? (base : Nat) (text : List Char) : Option Numeral := do
  let digits ← ungroup? (fun c => (Text.inBase? base [c]).isSome) text
  let n ← Text.inBase? base digits
  return .integer n

/-- A decimal exponent behind its letter. -/
def exponentValue? : List Char → Option Int
  | '-' :: rest => (ungroup? Char.isDigit rest).map fun digits => -(ofDigits digits : Int)
  | '+' :: rest => (ungroup? Char.isDigit rest).map fun digits => (ofDigits digits : Int)
  | rest => (ungroup? Char.isDigit rest).map fun digits => (ofDigits digits : Int)

def fractional? (negative : Bool) (text : List Char) : Option Numeral := do
  let isLetter := fun c => c == 'e' || c == 'E'
  let mantissa := text.takeWhile fun c => !isLetter c
  let exponent ← match text.dropWhile fun c => !isLetter c with
    | [] => some 0
    | _ :: rest => exponentValue? rest
  let digits ← whole? (mantissa.takeWhile (· != '.'))
  let fraction ← match mantissa.dropWhile (· != '.') with
    | [] => some []
    | _ :: rest => ungroup? Char.isDigit rest
  let places : Int := fraction.length
  return .real (.ofDecimal negative (ofDigits (digits ++ fraction)) (exponent - places))

/-- A whole number in decimal; one with too many digits is refused. -/
def integer? (limits : Limits) (negative : Bool) (text : List Char) : Option Numeral :=
  ((whole? text).filter fun digits => digits.length ≤ limits.digits).map fun digits =>
    let n : Int := ofDigits digits
    .integer (if negative then -n else n)

def unsigned? (limits : Limits) (negative : Bool) (text : List Char) : Option Numeral :=
  if text = "inf".toList then some (.real (.infinite negative))
  else if text = "nan".toList then some (.real .undefined)
  else if text.any fun c => c == '.' || c == 'e' || c == 'E' then fractional? negative text
  else integer? limits negative text

def number? (limits : Limits) : List Char → Option Numeral
  | '0' :: 'x' :: digits => basedNumber? 16 digits
  | '0' :: 'o' :: digits => basedNumber? 8 digits
  | '0' :: 'b' :: digits => basedNumber? 2 digits
  | '-' :: rest => unsigned? limits true rest
  | '+' :: rest => unsigned? limits false rest
  | rest => unsigned? limits false rest

/-- The number of two digits. -/
def twoDigits? : List Char → Part Nat
  | a :: b :: rest =>
    if a.isDigit && b.isDigit then some (ofDigits [a, b], rest) else none
  | _ => none

def date? (text : List Char) : Option (Date × List Char) := do
  let (century, rest) ← twoDigits? text
  let (year, rest) ← twoDigits? rest
  let (month, rest) ← twoDigits? (← Text.after? ['-'] rest)
  let (day, rest) ← twoDigits? (← Text.after? ['-'] rest)
  let date : Date := ⟨century * 100 + year, month, day⟩
  if date.isValid then some (date, rest) else none

/-- The microseconds that the digits behind a point stand for; further digits are dropped. -/
def microseconds (fraction : List Char) : Nat :=
  ofDigits ((fraction ++ List.replicate 6 '0').take 6)

def time? (text : List Char) : Option (TimeOfDay × List Char) := do
  let (hour, rest) ← twoDigits? text
  let (minute, rest) ← twoDigits? (← Text.after? [':'] rest)
  let (second, rest) ← twoDigits? (← Text.after? [':'] rest)
  let (fraction, rest) ← match rest with
    | '.' :: rest =>
      match leadingDigits rest with
      | ([], _) => none
      | found => some found
    | rest => some ([], rest)
  let time : TimeOfDay := ⟨hour, minute, second, microseconds fraction⟩
  if time.isValid then some (time, rest) else none

/-- The distance from universal time, which may be left out. -/
def offset? (text : List Char) : Option (Option Int × List Char) :=
  match text with
  | [] => some (none, [])
  | c :: rest =>
    if c = 'Z' ∨ c = 'z' then some (some 0, rest)
    else if c = '+' ∨ c = '-' then do
      let (hour, rest) ← twoDigits? rest
      let (minute, rest) ← twoDigits? (← Text.after? [':'] rest)
      let minutes : Int := hour * 60 + minute
      if hour < 24 ∧ minute < 60 then some (some (if c = '-' then -minutes else minutes), rest)
      else none
    else some (none, text)

/-- A part that ends with the text. -/
def complete? {α : Type} : Part α → Option α
  | some (a, []) => some a
  | _ => none

/-- A date, a time, or both, with a letter or a space between them. -/
def moment? (text : List Char) : Option Moment :=
  match date? text with
  | none => (complete? (time? text)).map .time
  | some (date, []) => some (.date date)
  | some (date, separator :: rest) =>
    if separator = 'T' ∨ separator = 't' ∨ separator = ' ' then do
      let (time, rest) ← time? rest
      let offset ← complete? (offset? rest)
      return .both date time offset
    else none

/-- Whether a character can stand in a number, a name or a date. -/
def isBare (c : Char) : Bool := c.isAlphanum || "+-_.:".toList.contains c

/-- The characters of a scalar without marks, and what follows. A space between a date and a time
belongs to the scalar. -/
def bareWord (text : List Char) : List Char × List Char :=
  let word := text.takeWhile isBare
  let rest := text.dropWhile isBare
  match rest with
  | ' ' :: a :: b :: ':' :: _ =>
    if (complete? (date? word)).isSome && a.isDigit && b.isDigit then
      let time := rest.drop 1
      (word ++ ' ' :: time.takeWhile isBare, time.dropWhile isBare)
    else (word, rest)
  | _ => (word, rest)

/-- A scalar without marks. -/
def bare? (limits : Limits) (text : List Char) : Part Value :=
  let (word, rest) := bareWord text
  if word = "true".toList then some (.bool true, rest)
  else if word = "false".toList then some (.bool false, rest)
  else
    match moment? word with
    | some moment => some (.moment moment, rest)
    | none => (number? limits word).map fun n => (.number n, rest)

def scalar? (limits : Limits) (fuel : Nat) (text : List Char) : Part Value :=
  match text with
  | '"' :: _ | '\'' :: _ => (string? fuel text).map fun (t, rest) => (.text t, rest)
  | _ => bare? limits text

end CompileDb.Toml
