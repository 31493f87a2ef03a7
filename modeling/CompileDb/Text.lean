/-!
# Text

A data file can name any code point in an escape, one half of a surrogate pair among them, and such
a half need not meet its partner. A text is therefore a list of letters, where a letter is a
character or a surrogate that stands alone. A letter is told by its code point (`code_injective`),
and every code point is the code point of a letter (`ofCode?_eq_some_iff`).

Characters and strings are texts by coercion, so that literals can be written as usual.
-/

namespace CompileDb

/-- Half of a pair of code points that stands for one character. -/
structure Surrogate where
  code : Nat
  bounds : 0xD800 ≤ code ∧ code < 0xE000
  deriving DecidableEq

/-- What texts are made of. -/
inductive Letter where
  | char (c : Char)
  /-- A surrogate without its partner. -/
  | lone (s : Surrogate)
  deriving DecidableEq

instance : Coe Char Letter := ⟨.char⟩

namespace Letter

def code : Letter → Nat
  | char c => c.toNat
  | lone s => s.code

/-- The letter of a code point. -/
def ofCode? (n : Nat) : Option Letter :=
  if h : n.isValidChar then some (.char (Char.ofNatAux n h))
  else if h : 0xD800 ≤ n ∧ n < 0xE000 then some (.lone ⟨n, h⟩)
  else none

/-- Whether a letter is a character of a class. -/
def isIn (p : Char → Bool) : Letter → Bool
  | char c => p c
  | lone _ => false

/-- The character that is shown for a letter. -/
def shown : Letter → Char
  | char c => c
  | lone _ => '\uFFFD'

/-- No character has the code of a surrogate. -/
theorem toNat_ne_code (c : Char) (s : Surrogate) : c.toNat ≠ s.code := by
  intro h
  have hs := s.bounds
  rcases c.valid with hc | hc
  · have : c.toNat < 0xD800 := hc
    omega
  · have : 0xDFFF < c.toNat := hc.1
    omega

/-- A letter is known by its code. -/
theorem code_injective {a b : Letter} (h : a.code = b.code) : a = b := by
  match a, b, h with
  | char a, char b, h => rw [Char.toNat_inj.1 h]
  | char a, lone b, h => exact absurd h (toNat_ne_code a b)
  | lone a, char b, h => exact absurd h.symm (toNat_ne_code b a)
  | lone ⟨a, _⟩, lone ⟨b, _⟩, h =>
    obtain rfl : a = b := h
    rfl

/-- `ofCode?` finds the letter of a code, and only that one. -/
theorem ofCode?_eq_some_iff {n : Nat} {a : Letter} : ofCode? n = some a ↔ a.code = n := by
  have code_of : ∀ b, ofCode? n = some b → b.code = n := by
    intro b h
    unfold ofCode? at h
    by_cases hchar : n.isValidChar
    · rw [dif_pos hchar] at h
      obtain rfl := Option.some.inj h
      rfl
    · rw [dif_neg hchar] at h
      by_cases hlone : 0xD800 ≤ n ∧ n < 0xE000
      · rw [dif_pos hlone] at h
        obtain rfl := Option.some.inj h
        rfl
      · rw [dif_neg hlone] at h
        cases h
  refine ⟨code_of a, ?_⟩
  rintro rfl
  cases hb : ofCode? a.code with
  | some b => rw [code_injective (code_of b hb)]
  | none =>
    unfold ofCode? at hb
    by_cases hchar : a.code.isValidChar
    · rw [dif_pos hchar] at hb
      cases hb
    · rw [dif_neg hchar] at hb
      by_cases hlone : 0xD800 ≤ a.code ∧ a.code < 0xE000
      · rw [dif_pos hlone] at hb
        cases hb
      · cases a with
        | char c => exact absurd c.valid hchar
        | lone s => exact absurd s.bounds hlone

end Letter

/-- A text. -/
abbrev Text := List Letter

namespace Text

def ofChars (cs : List Char) : Text := cs.map .char

def ofString (s : String) : Text := ofChars s.toList

instance : Coe String Text := ⟨ofString⟩

/-- The string that is shown for a text. -/
def shown (t : Text) : String := String.ofList (t.map Letter.shown)

end Text

end CompileDb
