import CompileDb.Text

/-!
# Markup

Text for the console is markup: a group in square brackets that begins with a small letter or with
`#`, `/` or `@` is a tag, unless an odd number of backslashes stands in front of it; two backslashes
in front of a group stand for one. `escape`, the console's own, writes a text so that none of its groups is a tag, and
`plain` reads markup as the text that is shown.

A group runs from its opening bracket to the first closing bracket; one that holds another opening
bracket is none.
-/

namespace CompileDb.Markup

/-- Whether a letter can begin a tag. -/
def beginsTag (a : Letter) : Bool := a.isIn fun c => c.isLower || "#/@".toList.contains c

/-- The letter that takes the meaning from a bracket behind it. -/
def backslash : Letter := '\\'

/-- The letter that opens a group. -/
def opening : Letter := '['

/-- The letter that closes a group. -/
def closing : Letter := ']'

/-- What stands before the next bracket and behind it, if that is a closing bracket. -/
def toClosing? : Text → Option (Text × Text)
  | [] => none
  | a :: rest =>
    if a = closing then some ([], rest)
    else if a = opening then none
    else (toClosing? rest).map fun found => (a :: found.1, found.2)

/-- The inside of a group whose opening bracket stands in front of a text, and what follows it. -/
def group? : Text → Option (Text × Text)
  | [] => none
  | a :: rest =>
    if beginsTag a then (toClosing? rest).map fun found => (a :: found.1, found.2) else none

/-- The escaped form of a text behind `slashes` backslashes. -/
def escapeFrom (slashes : Nat) : Text → Text
  | [] => List.replicate slashes backslash
  | a :: rest =>
    if a = backslash then escapeFrom (slashes + 1) rest
    else if a = opening ∧ (group? rest).isSome then
      List.replicate (2 * slashes + 1) backslash ++ opening :: escapeFrom 0 rest
    else List.replicate slashes backslash ++ a :: escapeFrom 0 rest

/-- Whether a text ends with a backslash that has none in front of it. -/
def endsInLoneSlash (text : Text) : Bool :=
  match text.reverse with
  | .char '\\' :: .char '\\' :: _ => false
  | .char '\\' :: _ => true
  | _ => false

/-- Markup that shows a text as it is; a lone backslash at its end is doubled. -/
def escape (text : Text) : Text :=
  let escaped := escapeFrom 0 text
  if endsInLoneSlash escaped then escaped ++ [backslash] else escaped

/-- A stretch of blanks. -/
def blanks (count : Nat) : Text := List.replicate count ' '

/-- A text set in the middle of a field of `width` letters; an odd blank goes to the right. -/
def centred (width : Nat) (text : Text) : Text :=
  let free := width - text.length
  let left := free / 2
  blanks left ++ text ++ blanks (free - left)

/-- A text set at the left of a field of `width` letters. -/
def padded (width : Nat) (text : Text) : Text := text ++ blanks (width - text.length)

/-- The text that is shown for markup, read on behind `slashes` backslashes; `skip` counts the
letters of a tag that are still to be passed over. -/
def plainFrom (slashes skip : Nat) : Text → Text
  | [] => List.replicate slashes backslash
  | a :: rest =>
    if 0 < skip then plainFrom 0 (skip - 1) rest
    else if a = backslash then plainFrom (slashes + 1) 0 rest
    else
      match if a = opening then group? rest else none with
      | some (inside, _) =>
        if slashes % 2 = 0 then
          List.replicate (slashes / 2) backslash ++ plainFrom 0 (inside.length + 1) rest
        else List.replicate (slashes / 2) backslash ++ a :: plainFrom 0 0 rest
      | none => List.replicate slashes backslash ++ a :: plainFrom 0 0 rest

/-- The text that is shown for markup. -/
def plain (markup : Text) : Text := plainFrom 0 0 markup

end CompileDb.Markup
