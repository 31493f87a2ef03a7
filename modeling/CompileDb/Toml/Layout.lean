import CompileDb.Text.Alphanumeric
import CompileDb.Text.Blank

/-!
# The layout of TOML documents

Before its values are read, a document is looked over letter by letter, and the look sees keys,
strings, headers, lists and comments, but no more of a value than its marks and brackets: a key has
to be followed by an equals sign in its line, and a string has to be closed, in its line unless it
has three marks. `isLaidOut` tells the documents where the look finds nothing amiss. Lists are the
one thing that takes a line on to the next, so `logicalLine` knows where the line of a value ends.
-/

namespace CompileDb.Toml

open Text (isBlank isAlphanumeric)

/-- Where in a key a look is. -/
inductive KeyPlace where
  /-- Inside of a part. -/
  | inside
  /-- Behind a part. -/
  | behind
  deriving DecidableEq

/-- The kinds of headers. -/
inductive HeaderKind where
  /-- The header of a table. -/
  | table
  /-- The header of one more table in a list. -/
  | listed
  deriving DecidableEq

/-- How far a document is looked over. -/
structure Layout where
  /-- The letters in front, the latest first, with blanks for comments and for what a list or a
  string takes over. -/
  seen : List Char := []
  /-- The place in the key that is open. -/
  key : Option KeyPlace := none
  /-- Whether that key has a dot. -/
  isDotted : Bool := false
  /-- The mark that closes the string that is open. -/
  mark : Option Char := none
  /-- Whether a string with three marks is open. -/
  isLong : Bool := false
  /-- The header that is open. -/
  header : Option HeaderKind := none
  /-- How many lists are open; negative when more are closed than were open. -/
  lists : Int := 0
  /-- Whether a comment is open. -/
  inComment : Bool := false
  /-- Whether nothing but spaces and tabs is in front of the next letter in its line. -/
  isFresh : Bool := true

/-- Whether a character opens and closes strings. -/
def isMark (c : Char) : Bool := c == '"' || c == '\''

/-- Whether a character can stand in a part of a key without marks. -/
def isNameLetter (c : Char) : Bool := isAlphanumeric c || c == '_' || c == '-'

/-- Whether the next character behind letters is escaped: the letters end with an odd number of
backslashes. -/
def isEscaped (seen : List Char) : Bool := (seen.takeWhile (· == '\\')).length % 2 == 1

namespace Layout

/-- The layout with one more letter seen. -/
def see (l : Layout) (c : Char) : Layout := { l with seen := c :: l.seen }

/-- The place behind a part of a key, or in the next part if that begins with the next character. -/
def betweenParts (l : Layout) (next : Option Char) : Layout :=
  if next.any fun c => !isBlank c && c != '.' then { l with key := some .inside } else l

/-- Looks at a character of a key, `none` when it cannot be there. -/
def keyLetter? (l : Layout) (place : KeyPlace) (c : Char) (next : Option Char) : Option Layout :=
  match l.mark, place with
  | some mark, _ =>
    if c = mark ∧ !isEscaped l.seen then some { l with mark := none, key := some .behind }
    else some l
  | none, .inside =>
    if isBlank c then some { l with key := some .behind }
    else if c = '.' then some { l with isDotted := true }
    else if isNameLetter c then some l
    else if l.isDotted && l.seen.head? == some '.' && isMark c then some { l with mark := some c }
    else if c = '=' then some { l with key := none, isDotted := false }
    else none
  | none, .behind =>
    if isBlank c then some (if l.isDotted then l.betweenParts next else l)
    else if c = '.' then some ({ l with isDotted := true }.betweenParts next)
    else if c = '=' then some { l with key := none, isDotted := false }
    else none

/-- Looks at a mark. The third of three in a row opens or closes a long string. -/
def markLetter (l : Layout) (c : Char) : Layout :=
  let row := min 2 (l.seen.takeWhile (· == c)).length
  if c == '"' && row != 1 && isEscaped (l.seen.drop row) then l
  else if row = 2 then { l with isLong := !l.isLong, mark := if l.isLong then none else some c }
  else { l with mark := if l.mark.isSome then none else some c }

/-- Looks at a character outside of keys and comments that is no mark. -/
def otherLetter (l : Layout) (c : Char) (next : Option Char) : Layout :=
  if l.mark.isSome then l
  else
    match c, l.header with
    | '[', none =>
      if l.isFresh then { l with header := if next = some '[' then some .listed else some .table }
      else { l with lists := l.lists + 1 }
    | ']', none => { l with lists := l.lists - 1 }
    | ']', some .table => { l with header := none }
    | ']', some .listed => if l.seen.head? = some ']' then { l with header := none } else l
    | _, _ => l

/-- A key begins with the first letter of a line, which is no header and no equals sign. -/
def openKey? (l : Layout) (c : Char) : Option Layout :=
  if !l.isFresh || c == ' ' || c == '\t' then some l
  else if l.header.isSome then some { l with isFresh := false }
  else if c = '=' then none
  else some { l with isFresh := false, key := some .inside }

/-- The letters seen when a line ends in a long string: a line end behind its opening marks counts
as one of them. -/
def seenInLong : List Char → List Char
  | a :: b :: rest =>
    if isMark a && a == b then
      a :: a :: b :: match rest with
        | c :: rest => (if c = a then ' ' else c) :: rest
        | [] => []
    else '\n' :: a :: b :: rest
  | seen => '\n' :: seen

/-- Looks at the end of a line. -/
def lineEnd? (l : Layout) : Option Layout :=
  let l := { l with inComment := false }
  if l.key.isSome then none
  else if l.isLong then some { l with seen := seenInLong l.seen }
  else if l.mark.isSome then none
  else if l.lists ≠ 0 then some (l.see ' ')
  else some { l.see '\n' with isFresh := true }

/-- Looks at a character, of which the next may be known, `none` when it cannot be there. -/
def look? (l : Layout) (c : Char) (next : Option Char) : Option Layout :=
  if c = '\n' then l.lineEnd?
  else
    match l.key with
    | some place => (l.keyLetter? place c next).map (·.see c)
    | none =>
      if l.inComment || (c == '#' && l.mark.isNone && l.header.isNone) then
        some { l.see ' ' with inComment := true }
      else
        let looked :=
          if isMark c && l.mark.all (· == c) then l.markLetter c else l.otherLetter c next
        (looked.openKey? c).map (·.see c)

/-- Looks over a text. -/
def over? (l : Layout) : List Char → Option Layout
  | [] => some l
  | c :: text =>
    match l.look? c text.head? with
    | some l => l.over? text
    | none => none

/-- The letters of a text up to the end of its line. -/
def lineOf (l : Layout) : List Char → List Char
  | [] => l.seen.reverse
  | c :: text =>
    match l.look? c text.head? with
    | some looked => if looked.isFresh then l.seen.reverse else looked.lineOf text
    | none => l.seen.reverse

end Layout

/-- Whether a look over a document finds nothing amiss. -/
def isLaidOut (text : List Char) : Bool :=
  (Layout.over? {} text).any fun l => l.key.isNone && l.mark.isNone

/-- The rest of a line from its value on, with blanks for comments and for line ends in lists. -/
def logicalLine (text : List Char) : List Char := Layout.lineOf { isFresh := false } text

end CompileDb.Toml
