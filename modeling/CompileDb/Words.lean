import CompileDb.Text.Blank

/-!
# Words of a command line

A command line is cut into words at spaces, tabs and line ends. Apostrophes and quotation marks
quote: between two of the same mark every letter stands for itself, separators and the other
mark included, and the marks are dropped. Nothing else is special, so a backslash is an ordinary
letter. A mark may open in the middle of a word, and two marks with nothing between them are
enough to make a word.

`split?` is this reading, `none` for a text that ends inside a quotation; `split`, which is
`split_command`, then falls back to the stretches between blanks. `join` writes words so that `split?`
reads them back.
-/

namespace CompileDb.Words

/-- Whether a letter ends a word, outside quotation. -/
def isSeparator (a : Letter) : Bool := a == ' ' || a == '\t' || a == '\r' || a == '\n'

/-- Whether a letter opens a quotation. -/
def isMark (a : Letter) : Bool := a == '\'' || a == '"'

/-- How far the reading of a command line has come. -/
structure Reading where
  /-- The finished words, the latest first. -/
  finished : List Text := []
  /-- The letters of the word under way, the latest first; `none` between words. -/
  word : Option Text := none
  /-- The mark of the open quotation. -/
  mark : Option Letter := none
  deriving DecidableEq

namespace Reading

/-- One more letter of the word under way. -/
def push (r : Reading) (a : Letter) : Reading := { r with word := some (a :: r.word.getD []) }

/-- The word under way, if there is one, is finished. -/
def finish (r : Reading) : Reading :=
  match r.word with
  | none => r
  | some word => { r with finished := word.reverse :: r.finished, word := none }

/-- The reading of one letter. -/
def step (r : Reading) (a : Letter) : Reading :=
  match r.mark with
  | some m => if a = m then { r with mark := none } else r.push a
  | none =>
    if isSeparator a then r.finish
    else if isMark a then { r with word := some (r.word.getD []), mark := some a }
    else r.push a

/-- The words read so far, `none` while a quotation is open. -/
def words? (r : Reading) : Option (List Text) :=
  match r.mark with
  | some _ => none
  | none => some r.finish.finished.reverse

end Reading

def read (text : Text) : Reading := text.foldl Reading.step {}

/-- The words of a command line, `none` when it ends inside a quotation. -/
def split? (command : Text) : Option (List Text) := (read command).words?

/-- The words of a command line; one that ends inside a quotation is cut at blanks instead. -/
def split (command : Text) : List Text := (split? command).getD (Text.blankWords command)

/-- Whether a letter needs no quotation. -/
def isPlain (a : Letter) : Bool := a.isIn fun c => c.isAlphanum || "_@%+=:,./-".toList.contains c

/-- A letter between apostrophes; an apostrophe itself closes the quotation, stands between
quotation marks and opens the next quotation. -/
def quotedLetter (a : Letter) : Text := if a = '\'' then "'\"'\"'" else [a]

/-- A word as it is written in a command line. -/
def quote (word : Text) : Text :=
  if word ≠ "" ∧ word.all isPlain then word else "'" ++ word.flatMap quotedLetter ++ "'"

/-- The command line that consists of the given words. -/
def join (words : List Text) : Text := List.intercalate " " (words.map quote)

end CompileDb.Words
