import CompileDb.Text.Blank

/-!
# Paths

A path is an anchor and a list of parts. Its text is cut at slashes; empty parts and the part `.`
are dropped, while `..` is kept, for the directory that it leads to depends on links. A text that
begins with exactly two slashes has an anchor of its own; one slash, or three and more, is the
root. The path without anchor and parts is written `.`.

Every path satisfies the invariant that its parts are parts: not empty, not `.`, without slash.
-/

namespace CompileDb

/-- What a path starts from. -/
inductive Anchor where
  | relative
  | root
  | doubleRoot
  deriving DecidableEq

namespace Anchor

def text : Anchor → Text
  | relative => ""
  | root => "/"
  | doubleRoot => "//"

/-- The anchor of a text, told by its leading slashes. -/
def ofText : Text → Anchor
  | .char '/' :: .char '/' :: .char '/' :: _ => root
  | .char '/' :: .char '/' :: _ => doubleRoot
  | .char '/' :: _ => root
  | _ => relative

end Anchor

/-- The letter between the parts of a path. -/
def slash : Letter := '/'

/-- A name that can stand between the slashes of a path. -/
def IsPart (name : Text) : Prop := name ≠ "" ∧ name ≠ "." ∧ slash ∉ name

instance (name : Text) : Decidable (IsPart name) := inferInstanceAs (Decidable (_ ∧ _))

/-- A path in normal form. -/
structure Path where
  /-- What the path starts from. -/
  anchor : Anchor
  /-- The names between the slashes. -/
  parts : List Text
  isPart_of_mem : ∀ name ∈ parts, IsPart name
  deriving DecidableEq

namespace Path

/-- The path that leads nowhere else, written `.`. -/
def here : Path := ⟨.relative, [], by simp⟩

/-- The names between the slashes of a text, without those that lead nowhere else. -/
def partsOf (text : Text) : List Text :=
  (text.splitOnP (· == slash)).filter fun name => name != "" && name != "."

/-- What stands between the slashes of a text, the empty and the `.` left out, are parts of a path. -/
theorem isPart_of_mem_partsOf {text name : Text} (h : name ∈ partsOf text) : IsPart name := by
  obtain ⟨hpiece, hkeep⟩ := List.mem_filter.1 h
  simp only [Bool.and_eq_true, bne_iff_ne] at hkeep
  refine ⟨hkeep.1, hkeep.2, fun hslash => ?_⟩
  have := Text.not_of_mem_splitOnP hpiece slash hslash
  simp at this

/-- The path that a text names. -/
def ofText (text : Text) : Path :=
  ⟨Anchor.ofText text, partsOf text, fun _ => isPart_of_mem_partsOf⟩

def text (p : Path) : Text :=
  let text := p.anchor.text ++ List.intercalate [slash] p.parts
  if text = "" then "." else text

/-- Whether a path has an anchor. -/
def isAbsolute (p : Path) : Bool := p.anchor != .relative

/-- The last part of a path, empty when there is none. -/
def name (p : Path) : Text := p.parts.getLast?.getD ""

/-- The path `q` seen from `p`: `q` itself when it has an anchor. -/
def join (p q : Path) : Path :=
  if q.isAbsolute then q
  else ⟨p.anchor, p.parts ++ q.parts, fun name h =>
    (List.mem_append.1 h).elim (p.isPart_of_mem name) (q.isPart_of_mem name)⟩

instance : Div Path := ⟨join⟩

end Path

end CompileDb
