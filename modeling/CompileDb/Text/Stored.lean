import CompileDb.Text.Quoted

/-!
# Texts as names of files

The name of a file is a row of bytes, none of which is zero. A character is stored as its UTF-8
form, and the surrogates from U+DC80 to U+DCFF stand for the single bytes that are no part of such a
form; other surrogates cannot be stored. `unstorable?` finds the letters of a text that cannot.
-/

namespace CompileDb.Text

/-- The letter that is in the name of no file. -/
def nul : Letter := '\x00'

/-- The number of bytes that a letter is stored as. -/
def letterSize? : Letter → Option Nat
  | .char c => some c.utf8Size
  | .lone s => if 0xDC80 ≤ s.code ∧ s.code ≤ 0xDCFF then some 1 else none

/-- The number of bytes that a text is stored as. -/
def storedSize? : Text → Option Nat
  | [] => some 0
  | a :: text => (letterSize? a).bind fun size => (storedSize? text).map (size + ·)

/-- Whether a text is stored as more bytes than it may have. -/
def isLonger (limit : Nat) (text : Text) : Bool :=
  (storedSize? text).any fun size => decide (limit < size)

/-- Letters that cannot be stored: from the first of them to the end of its row of surrogates. -/
structure Unstorable where
  /-- The number of letters in front. -/
  offset : Nat
  /-- The number of letters. -/
  count : Nat
  /-- The first of them. -/
  first : Letter
  deriving DecidableEq

/-- What is wrong with letters that cannot be stored: a single one is named, several are only
located. -/
def Unstorable.message (u : Unstorable) : Text :=
  let place : Text :=
    if u.count = 1 then
      "character '" ++ escapedCode u.first.code ++ "' in position " ++ toString u.offset
    else "characters in position " ++ toString u.offset ++ "-" ++ toString (u.offset + u.count - 1)
  "'utf-8' codec can't encode " ++ place ++ ": surrogates not allowed"

/-- The first letters of a text that cannot be stored; `offset` counts the letters in front. -/
def unstorable? (offset : Nat) : Text → Option Unstorable
  | [] => none
  | a :: text =>
    if (letterSize? a).isSome then unstorable? (offset + 1) text
    else some ⟨offset, 1 + (text.takeWhile fun b => !b.isIn fun _ => true).length, a⟩

end CompileDb.Text
