import CompileDb.Limits
import CompileDb.Toml.Layout

/-!
# How deep values are taken apart

A list or an inline table is divided at its commas before any of its parts is read. Each part of an
inline table has to be a name, an equals sign and a text that begins and ends like a value; one part
that is not spoils the table, whatever stands in the parts before it. `takeApart` goes into a value
in this way, part by part, until it finds such a table or has no room for going deeper.
-/

namespace CompileDb.Toml

/-- Why a text is not read. -/
inductive Refusal where
  /-- It is no document. -/
  | malformed
  /-- It is too much for the reader. -/
  | excess (excess : Excess)
  deriving DecidableEq

/-- The nested calls that a list takes. -/
def listCalls : Nat := 2

/-- The nested calls that an inline table takes. -/
def tableCalls : Nat := 3

def skipBlanks (text : List Char) : List Char := text.dropWhile fun c : Char => Text.isBlank c

/-- A text without the blanks at both ends. -/
def trim (text : List Char) : List Char := (skipBlanks (skipBlanks text).reverse).reverse

/-- The pieces of a text between the commas that are in no brackets; `depth` brackets are open. -/
def pieces (opening closing : Char) (depth : Int) : List Char → List (List Char)
  | [] => [[]]
  | c :: text =>
    if c = ',' ∧ depth = 0 then [] :: pieces opening closing 0 text
    else
      let depth := if c = opening then depth + 1 else if c = closing then depth - 1 else depth
      (pieces opening closing depth text).modifyHead (c :: ·)

/-- The texts of the items of a list. Brackets of the kind that its first item begins with keep
commas together. -/
def itemTexts (text : List Char) : List (List Char) :=
  let text := trim text
  if text.head? = some '{' then pieces '{' '}' 0 text else pieces '[' ']' 0 text

/-- Whether a text that begins with a letter, and is given from its end, ends as a value that begins
like this does. -/
def endsValue (first : Char) (reversed : List Char) : Bool :=
  first.isDigit || first == '-' ||
    match skipBlanks reversed with
    | [] => false
    | last :: rest =>
      (isMark first && last == first) || (first == '[' && last == ']') ||
        (first == '{' && last == '}') || last :: rest == "true".toList.reverse ||
        last :: rest == "false".toList.reverse

/-- The texts of the values of an inline table, from its pieces between all commas. A piece that
ends before its value does is continued by the next one; the value under way is given by its first
letter and from its end. -/
def fieldTexts? : Option (Char × List Char) → List (List Char) → Option (List (List Char))
  | none, [] => some []
  | some _, [] => none
  | none, piece :: rest =>
    match skipBlanks (piece.dropWhile (· != '=')).tail with
    | [] => none
    | first :: text =>
      let reversed := (first :: text).reverse
      if endsValue first reversed then (fieldTexts? none rest).map (reversed.reverse :: ·)
      else fieldTexts? (some (first, reversed)) rest
  | some (first, value), piece :: rest =>
    let reversed := piece.reverse ++ ',' :: value
    if endsValue first reversed then (fieldTexts? none rest).map (reversed.reverse :: ·)
    else fieldTexts? (some (first, reversed)) rest

/-- The texts of the values of an inline table. -/
def tableTexts? (text : List Char) : Option (List (List Char)) :=
  if (trim text).isEmpty then some [] else fieldTexts? none (text.splitOn ',')

/-- Takes a value apart as far as there is room for nested calls. -/
def takeApart (room : Nat) (text : List Char) : Except Refusal Unit :=
  match trim text with
  | '[' :: inner =>
    if room < listCalls then .error (.excess .depth)
    else (itemTexts inner.dropLast).forM fun item => takeApart (room - listCalls) item
  | '{' :: inner =>
    if room < tableCalls then .error (.excess .depth)
    else
      match tableTexts? inner.dropLast with
      | none => .error .malformed
      | some texts => texts.forM fun text => takeApart (room - tableCalls) text
  | _ => .ok ()
termination_by room
decreasing_by all_goals simp only [listCalls, tableCalls] at *; omega

/-- Why the value that a text begins with is refused when there is no room for it. -/
def refusalOfDeep (limits : Limits) (text : List Char) : Refusal :=
  match takeApart limits.calls (logicalLine text) with
  | .error refusal => refusal
  | .ok () => .excess .depth

end CompileDb.Toml
