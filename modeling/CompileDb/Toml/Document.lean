import CompileDb.Toml.Division
import CompileDb.Toml.Outline
import CompileDb.Toml.Scalar

/-!
# TOML documents

`Toml.read` reads a TOML document as the fields of its root table, or tells why it does not: the
text is no such document, or its values are nested too deep. Line ends are line feeds. Of several
reasons the first in the text is told, but a broken layout comes before a value that is too deep.

The fuel counts nested calls; with two units for every character of the text, and two more, it never
runs out, for each call takes a unit and every second one a character. The room that a value is read
in shrinks with each list or inline table around it.
-/

namespace CompileDb.Toml

/-- Whether a character can stand in a key without marks. -/
def isKeyChar (c : Char) : Bool := c.isAlphanum || c == '_' || c == '-'

/-- A part of a key between dots. -/
def keyPart? (fuel : Nat) (text : List Char) : Part Text :=
  match text with
  | '"' :: _ | '\'' :: _ => shortString? fuel text
  | _ =>
    match text.takeWhile isKeyChar with
    | [] => none
    | name => some (Text.ofChars name, text.dropWhile isKeyChar)

/-- A key with the blanks behind it. -/
def key? : Nat → List Char → Part (List Text)
  | 0, _ => none
  | fuel + 1, text =>
    (keyPart? fuel (skipSpaces text)).bind fun (name, rest) =>
      match skipSpaces rest with
      | '.' :: rest => (key? fuel rest).map fun (path, rest) => (name :: path, rest)
      | rest => some ([name], rest)

def afterComment? (text : List Char) : Option (List Char) :=
  if (text.takeWhile (· != '\n')).any isControl then none else some (text.dropWhile (· != '\n'))

/-- What follows blanks, line ends and comments. -/
def skipComments? : Nat → List Char → Option (List Char)
  | 0, _ => none
  | fuel + 1, text =>
    match skipLines text with
    | '#' :: rest => (afterComment? rest).bind (skipComments? fuel)
    | rest => some rest

/-- The outcome of reading a part that may be too deep. -/
abbrev Deep (α : Type) := Except Refusal (α × List Char)

/-- What is there, or else the text is no document. -/
def orMalformed {α : Type} : Option α → Except Refusal α
  | some a => .ok a
  | none => .error .malformed

mutual

/-- A value; no blank stands in front of it. -/
def value (limits : Limits) : Nat → Nat → List Char → Deep Value
  | 0, _, _ => .error .malformed
  | fuel + 1, room, text =>
    match text with
    | '[' :: rest =>
      if room < listCalls then .error (.excess .depth)
      else items limits fuel (room - listCalls) [] rest
    | '{' :: rest =>
      if room < tableCalls then .error (.excess .depth)
      else
        match skipSpaces rest with
        | '}' :: rest => .ok (.table [], rest)
        | rest => fields limits fuel (room - tableCalls) [] rest
    | text => orMalformed (scalar? limits fuel text)

/-- The rest of a list, with the items in front in reverse. -/
def items (limits : Limits) : Nat → Nat → List Value → List Char → Deep Value
  | 0, _, _, _ => .error .malformed
  | fuel + 1, room, read, text =>
    match skipComments? fuel text with
    | none => .error .malformed
    | some (']' :: rest) => .ok (.list read.reverse, rest)
    | some text =>
      match value limits fuel room text with
      | .error refusal => .error refusal
      | .ok (item, rest) =>
        match skipComments? fuel rest with
        | some (',' :: rest) => items limits fuel room (item :: read) rest
        | some (']' :: rest) => .ok (.list (item :: read).reverse, rest)
        | _ => .error .malformed

/-- The rest of an inline table, from one of its fields on. -/
def fields (limits : Limits) : Nat → Nat → Entries → List Char → Deep Value
  | 0, _, _, _ => .error .malformed
  | fuel + 1, room, read, text =>
    match key? fuel text with
    | some (path, '=' :: rest) =>
      match value limits fuel room (skipSpaces rest) with
      | .error refusal => .error refusal
      | .ok (v, rest) =>
        match assign v path read, skipSpaces rest with
        | some read, '}' :: rest => .ok (.table (closeEntries read), rest)
        | some read, ',' :: rest => fields limits fuel room read rest
        | _, _ => .error .malformed
    | _ => .error .malformed

end

/-- What follows the end of a line, blanks and a comment included. -/
def lineEnd? (text : List Char) : Option (List Char) :=
  let rest :=
    match skipSpaces text with
    | '#' :: rest => afterComment? rest
    | rest => some rest
  rest.bind fun
    | [] => some []
    | '\n' :: rest => some rest
    | _ => none

/-- How far a document is read. -/
structure Draft where
  /-- The root table. -/
  root : Entries := []
  /-- The header of the table that is open. -/
  current : List Text := []

/-- A line with a key and its value. -/
def Draft.assignment (limits : Limits) (fuel : Nat) (draft : Draft) (text : List Char) :
    Deep Draft :=
  match key? fuel text with
  | some (path, '=' :: rest) =>
    match value limits fuel limits.calls (skipSpaces rest) with
    | .error .malformed => .error .malformed
    | .error (.excess _) => .error (refusalOfDeep limits rest)
    | .ok (v, rest) =>
      orMalformed ((within (assign v path) draft.current draft.root).map fun root =>
        ({ draft with root }, rest))
  | _ => .error .malformed

/-- A line with a header, behind its opening brackets. -/
def Draft.header? (fuel : Nat) (draft : Draft) (listed : Bool) (text : List Char) : Part Draft :=
  match key? fuel text with
  | none => none
  | some (path, rest) =>
    let opened := if listed then openListed path draft.root else openTable path draft.root
    match opened, Text.after? (if listed then [']', ']'] else [']']) rest with
    | some root, some rest => some (⟨root, path⟩, rest)
    | _, _ => none

/-- One line; no blank stands in front of it. -/
def Draft.line (limits : Limits) (fuel : Nat) (draft : Draft) (text : List Char) : Deep Draft :=
  match text with
  | [] | '\n' :: _ | '#' :: _ => .ok (draft, text)
  | '[' :: '[' :: rest => orMalformed (draft.header? fuel true rest)
  | '[' :: rest => orMalformed (draft.header? fuel false rest)
  | _ => draft.assignment limits fuel text

/-- All lines, of which there are fewer than `count`. -/
def Draft.lines (limits : Limits) (fuel : Nat) : Nat → Draft → List Char → Except Refusal Draft
  | 0, _, _ => .error .malformed
  | _ + 1, draft, [] => .ok draft
  | count + 1, draft, text =>
    match draft.line limits fuel (skipSpaces text) with
    | .error refusal => .error refusal
    | .ok (draft, rest) =>
      match lineEnd? rest with
      | none => .error .malformed
      | some rest => Draft.lines limits fuel count draft rest

/-- The fields that a document states. One with a broken layout is refused for that, however deep
its values are. -/
def read (limits : Limits) (text : List Char) : Except Refusal Value.Fields :=
  match Draft.lines limits (2 * text.length + 2) (text.length + 1) {} text with
  | .ok draft => .ok (closeEntries draft.root)
  | .error .malformed => .error .malformed
  | .error (.excess excess) => .error (if isLaidOut text then .excess excess else .malformed)

end CompileDb.Toml
