import CompileDb.Limits
import CompileDb.Text.Digits
import CompileDb.Text.Lines
import CompileDb.Text.Literal
import CompileDb.Value

/-!
# JSON

`Json.read` reads a JSON document. Besides the values of the standard it knows `NaN`, `Infinity`
and `-Infinity`; a name may occur twice in an object, and an escape may name a surrogate without its
partner. The first fault of a text is told with its position, unless the reader has reached one of
its limits before.

The functions of the reader take the text that is left and return what follows the part they read.
A fault carries the text that was left where it was found, from which `read` tells the position.
The fuel counts nested calls; with two units for every character of the text, and two more, it never
runs out, for each call takes a unit and every second one a character. The room that a value is read
in shrinks with each list or object around it.
-/

namespace CompileDb.Json

open Text (hexValue? ofDigits leadingDigits)

/-- What is wrong with a document. -/
inductive Cause where
  | byteOrderMark
  | valueExpected
  | nameExpected
  | colonExpected
  | commaExpected
  | extraData
  | unterminatedString
  | controlCharacter
  | unknownEscape
  | badCodePoint
  deriving DecidableEq

def Cause.message : Cause → String
  | byteOrderMark => "Unexpected UTF-8 BOM (decode using utf-8-sig)"
  | valueExpected => "Expecting value"
  | nameExpected => "Expecting property name enclosed in double quotes"
  | colonExpected => "Expecting ':' delimiter"
  | commaExpected => "Expecting ',' delimiter"
  | extraData => "Extra data"
  | unterminatedString => "Unterminated string starting at"
  | controlCharacter => "Invalid control character at"
  | unknownEscape => "Invalid \\escape"
  | badCodePoint => "Invalid \\uXXXX escape"

/-- Where and why a text is no document. -/
structure Fault where
  cause : Cause
  position : Text.Position
  deriving DecidableEq

def Fault.message (f : Fault) : String := f.cause.message ++ ": " ++ f.position.describe

/-- Why a text is not read. -/
inductive Refusal where
  /-- It is no document. -/
  | fault (fault : Fault)
  /-- It is too much for the reader. -/
  | excess (excess : Excess)
  deriving DecidableEq

/-- The end of reading. -/
inductive Stop where
  /-- At a fault, with the text that was left there. -/
  | fault (cause : Cause) (left : List Char)
  /-- At a limit. -/
  | excess (excess : Excess)

/-- The outcome of reading a part: what was read, and the text that is left. -/
abbrev Part (α : Type) := Except Stop (α × List Char)

def skipBlanks (text : List Char) : List Char :=
  text.dropWhile fun c => c == ' ' || c == '\t' || c == '\n' || c == '\r'

/-- A number of four hexadecimal digits in front of a text that goes on. -/
def codeUnit? : List Char → Option (Nat × List Char)
  | a :: b :: c :: d :: next :: rest => do
    let n ← Text.inBase? 16 [a, b, c, d]
    return (n, next :: rest)
  | _ => none

/-- The letter of a code unit that is read on its own. -/
def letterOfUnit (unit : Nat) : Letter := (Letter.ofCode? unit).getD '\uFFFD'

/-- The letter that a code point escape stands for; `text` begins with its `u`. Two escapes that
make a surrogate pair are one letter. -/
def codePoint (text : List Char) : Part Letter :=
  match codeUnit? (text.drop 1) with
  | none => .error (.fault .badCodePoint text)
  | some (high, rest) =>
    match rest with
    | '\\' :: 'u' :: digits =>
      if 0xD800 ≤ high ∧ high < 0xDC00 ∧ digits.drop 4 ≠ [] then
        match codeUnit? digits with
        | none => .error (.fault .badCodePoint ('u' :: digits))
        | some (low, rest') =>
          if 0xDC00 ≤ low ∧ low < 0xE000 then
            .ok (Char.ofNat (0x10000 + (high - 0xD800) * 0x400 + (low - 0xDC00)), rest')
          else .ok (letterOfUnit high, rest)
      else .ok (letterOfUnit high, rest)
    | _ => .ok (letterOfUnit high, rest)

/-- The character that a letter after a backslash stands for. -/
def escaped? : Char → Option Char
  | '"' => some '"'
  | '\\' => some '\\'
  | '/' => some '/'
  | 'b' => some '\x08'
  | 'f' => some '\x0c'
  | 'n' => some '\n'
  | 'r' => some '\r'
  | 't' => some '\t'
  | _ => none

/-- The rest of a string; `opening` is the text from its opening mark on, `read` the letters read so
far in reverse. -/
def stringRest (opening : List Char) : Nat → Text → List Char → Part Text
  | 0, _, _ => .error (.fault .unterminatedString opening)
  | fuel + 1, read, text =>
    match text with
    | [] => .error (.fault .unterminatedString opening)
    | '"' :: rest => .ok (read.reverse, rest)
    | '\\' :: rest =>
      match rest with
      | [] => .error (.fault .unterminatedString opening)
      | 'u' :: _ =>
        match codePoint rest with
        | .error stop => .error stop
        | .ok (a, rest) => stringRest opening fuel (a :: read) rest
      | letter :: rest =>
        match escaped? letter with
        | none => .error (.fault .unknownEscape text)
        | some c => stringRest opening fuel (c :: read) rest
    | c :: rest =>
      if c.toNat < 0x20 then .error (.fault .controlCharacter text)
      else stringRest opening fuel (c :: read) rest

/-- The digits of a whole number: a zero alone, or digits that do not begin with one. -/
def wholeDigits? : List Char → Option (List Char × List Char)
  | '0' :: rest => some (['0'], rest)
  | text =>
    match leadingDigits text with
    | ([], _) => none
    | found => some found

/-- The digits behind a point, none when no digit follows the point. -/
def fractionDigits : List Char → List Char × List Char
  | '.' :: rest =>
    match leadingDigits rest with
    | ([], _) => ([], '.' :: rest)
    | found => found
  | text => ([], text)

/-- A decimal exponent, none when no digit follows its letter and sign. -/
def exponent? (text : List Char) : Option (Int × List Char) :=
  match text with
  | letter :: rest =>
    if letter = 'e' ∨ letter = 'E' then
      let (negative, unsigned) :=
        match rest with
        | '-' :: unsigned => (true, unsigned)
        | '+' :: unsigned => (false, unsigned)
        | unsigned => (false, unsigned)
      match leadingDigits unsigned with
      | ([], _) => none
      | (found, rest) => some (if negative then -(ofDigits found : Int) else ofDigits found, rest)
    else none
  | [] => none

def unsignedNumber? (limits : Limits) (negative : Bool) (text : List Char) :
    Option (Except Excess Numeral × List Char) :=
  (wholeDigits? text).map fun (whole, rest) =>
    let (fraction, rest) := fractionDigits rest
    let digits := ofDigits (whole ++ fraction)
    let places : Int := fraction.length
    match fraction, exponent? rest with
    | [], none =>
      if limits.digits < whole.length then (.error .digits, rest)
      else (.ok (.integer (if negative then -digits else digits)), rest)
    | _, none => (.ok (.real (.ofDecimal negative digits (-places))), rest)
    | _, some (e, rest) => (.ok (.real (.ofDecimal negative digits (e - places))), rest)

def number? (limits : Limits) : List Char → Option (Except Excess Numeral × List Char)
  | '-' :: rest => unsignedNumber? limits true rest
  | text => unsignedNumber? limits false text

/-- The values that are written as a name. -/
def constants : List (String × Value) :=
  [("null", .null), ("true", .bool true), ("false", .bool false),
   ("NaN", .number (.real .undefined)), ("Infinity", .number (.real (.infinite false))),
   ("-Infinity", .number (.real (.infinite true)))]

/-- A value that holds no other values and is no string. -/
def scalar (limits : Limits) (text : List Char) : Part Value :=
  match constants.findSome? fun c => (Text.after? c.1.toList text).map fun rest => (c.2, rest) with
  | some found => .ok found
  | none =>
    match number? limits text with
    | some (.ok n, rest) => .ok (.number n, rest)
    | some (.error excess, _) => .error (.excess excess)
    | none => .error (.fault .valueExpected text)

mutual

/-- A value; no blank stands in front of it. A list or an object takes a unit of the room. -/
def value (limits : Limits) : Nat → Nat → List Char → Part Value
  | 0, _, text => .error (.fault .valueExpected text)
  | fuel + 1, room, text =>
    match text, room with
    | '"' :: rest, _ => (stringRest text fuel [] rest).map fun (t, rest) => (.text t, rest)
    | '[' :: _, 0 | '{' :: _, 0 => .error (.excess .depth)
    | '[' :: rest, room + 1 =>
      match skipBlanks rest with
      | ']' :: rest => .ok (.list [], rest)
      | rest => items limits fuel room [] rest
    | '{' :: rest, room + 1 =>
      match skipBlanks rest with
      | '}' :: rest => .ok (.table [], rest)
      | rest => fields limits fuel room [] rest
    | text, _ => scalar limits text

/-- The items of a list from one of them on, with those in front in reverse. -/
def items (limits : Limits) : Nat → Nat → List Value → List Char → Part Value
  | 0, _, _, text => .error (.fault .valueExpected text)
  | fuel + 1, room, read, text =>
    match value limits fuel room text with
    | .error stop => .error stop
    | .ok (item, rest) =>
      match skipBlanks rest with
      | ']' :: rest => .ok (.list (item :: read).reverse, rest)
      | ',' :: rest => items limits fuel room (item :: read) (skipBlanks rest)
      | rest => .error (.fault .commaExpected rest)

/-- The fields of an object from one of them on, with those in front in reverse. -/
def fields (limits : Limits) : Nat → Nat → Value.Fields → List Char → Part Value
  | 0, _, _, text => .error (.fault .nameExpected text)
  | fuel + 1, room, read, text =>
    match text with
    | '"' :: rest =>
      match stringRest text fuel [] rest with
      | .error stop => .error stop
      | .ok (name, rest) =>
        match skipBlanks rest with
        | ':' :: rest =>
          match value limits fuel room (skipBlanks rest) with
          | .error stop => .error stop
          | .ok (v, rest) =>
            match skipBlanks rest with
            | '}' :: rest => .ok (.table ((name, v) :: read).reverse, rest)
            | ',' :: rest => fields limits fuel room ((name, v) :: read) (skipBlanks rest)
            | rest => .error (.fault .commaExpected rest)
        | rest => .error (.fault .colonExpected rest)
    | text => .error (.fault .nameExpected text)

end

/-- A whole document: a value between blanks. -/
def document (limits : Limits) (text : List Char) : Except Stop Value :=
  match text with
  | '\uFEFF' :: _ => .error (.fault .byteOrderMark text)
  | _ =>
    match value limits (2 * text.length + 2) limits.calls (skipBlanks text) with
    | .error stop => .error stop
    | .ok (v, rest) =>
      match skipBlanks rest with
      | [] => .ok v
      | rest => .error (.fault .extraData rest)

/-- The value that a text states. -/
def read (limits : Limits) (text : List Char) : Except Refusal Value :=
  match document limits text with
  | .ok v => .ok v
  | .error (.excess excess) => .error (.excess excess)
  | .error (.fault cause left) =>
    .error (.fault ⟨cause, .after (text.take (text.length - left.length))⟩)

end CompileDb.Json
