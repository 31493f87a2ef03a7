import CompileDb.Text.Digits
import CompileDb.Text.Hidden

/-!
# Text in quotation marks

`quoted` writes a text between quotation marks so that every letter of it can be seen: the mark
itself, the backslash and the letters that cannot be shown are written as escapes. The mark is the
apostrophe unless the text holds apostrophes and no quotation mark.
-/

namespace CompileDb.Text

/-- The mark that a text is quoted with. -/
def quotationMark (text : Text) : Char :=
  if ('\'' : Letter) ∈ text ∧ ('"' : Letter) ∉ text then '"' else '\''

/-- The escape of a code point; its digits are as many as the size of the code point needs. -/
def escapedCode (n : Nat) : Text :=
  if n ≤ 0xFF then "\\x" ++ ofChars (hexDigits 2 n)
  else if n ≤ 0xFFFF then "\\u" ++ ofChars (hexDigits 4 n)
  else "\\U" ++ ofChars (hexDigits 8 n)

/-- A letter as it stands between two marks. -/
def quotedLetter (mark : Char) (a : Letter) : Text :=
  if a = mark ∨ a = '\\' then ['\\', a]
  else if a = '\n' then "\\n"
  else if a = '\r' then "\\r"
  else if a = '\t' then "\\t"
  else if isHidden a then escapedCode a.code
  else [a]

def quoted (text : Text) : Text :=
  let mark := quotationMark text
  .char mark :: text.flatMap (quotedLetter mark) ++ [.char mark]

end CompileDb.Text
