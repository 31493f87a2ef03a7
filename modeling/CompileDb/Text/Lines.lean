/-!
# Lines of a text

A position counts the characters in front of it, the lines and the columns; lines and columns
count from one. `Position.after` is the position behind a text. Lines end with a line feed;
`unifyLineEnds` makes one of every other line end.
-/

namespace CompileDb.Text

/-- A place in a text. -/
structure Position where
  /-- The line, from one. -/
  line : Nat := 1
  /-- The column in its line, from one. -/
  column : Nat := 1
  /-- The number of characters in front. -/
  offset : Nat := 0
  deriving DecidableEq

namespace Position

/-- The position behind one more character. -/
def step (p : Position) (c : Char) : Position :=
  if c = '\n' then ⟨p.line + 1, 1, p.offset + 1⟩ else ⟨p.line, p.column + 1, p.offset + 1⟩

def after (text : List Char) : Position := text.foldl step {}

def describe (p : Position) : String :=
  "line " ++ toString p.line ++ " column " ++ toString p.column ++
    " (char " ++ toString p.offset ++ ")"

end Position

/-- A text with a line feed for each line end, which is a carriage return, a line feed, or both. -/
def unifyLineEnds : List Char → List Char
  | '\r' :: '\n' :: rest => '\n' :: unifyLineEnds rest
  | '\r' :: rest => '\n' :: unifyLineEnds rest
  | c :: rest => c :: unifyLineEnds rest
  | [] => []

end CompileDb.Text
