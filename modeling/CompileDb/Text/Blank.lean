import CompileDb.Text.Ranges

/-!
# White space of Unicode, and words between blanks

`isBlank` is the class of letters that Unicode counts as white space or as a separator of lines,
together with the four information separators U+001C to U+001F. `blankWords` cuts a text
at every blank and keeps the stretches that are not empty, as `str.split` does without a separator.
-/

namespace CompileDb.Text

/-- The code points of white space. -/
def blankRanges : List (Nat × Nat) :=
  [(0x0009, 0x000D), (0x001C, 0x0020), (0x0085, 0x0085), (0x00A0, 0x00A0), (0x1680, 0x1680),
   (0x2000, 0x200A), (0x2028, 0x2029), (0x202F, 0x202F), (0x205F, 0x205F), (0x3000, 0x3000)]

/-- Whether a letter is white space. -/
def isBlank (a : Letter) : Bool := inRanges blankRanges a

/-- The maximal stretches of a text that hold no blank, in order. -/
def blankWords (text : Text) : List Text :=
  (text.splitOnP isBlank).filter fun word => !word.isEmpty

/-- A piece between separators holds no separator. -/
theorem not_of_mem_splitOnP {α : Type} {p : α → Bool} {xs piece : List α}
    (h : piece ∈ xs.splitOnP p) : ∀ x ∈ piece, p x = false := by
  induction xs generalizing piece with
  | nil => simp_all
  | cons a as ih =>
    rw [List.splitOnP_cons_eq_if_modifyHead] at h
    cases ha : p a with
    | true =>
      simp only [ha, if_true, List.mem_cons] at h
      rcases h with rfl | h
      · simp
      · exact ih h
    | false =>
      simp only [ha, Bool.false_eq_true, if_false] at h
      cases hs : as.splitOnP p with
      | nil => exact absurd hs (List.splitOnP_ne_nil p as)
      | cons first rest =>
        simp only [hs, List.modifyHead_cons, List.mem_cons] at h
        rcases h with rfl | h
        · intro x hx
          rcases List.mem_cons.1 hx with rfl | hx
          · exact ha
          · exact ih (by simp [hs]) x hx
        · exact ih (by simp [hs, h])

end CompileDb.Text
