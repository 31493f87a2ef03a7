import CompileDb.Proofs.Words.Quotation

/-!
# Command lines without quotation marks

Without a mark nothing is quoted, and the words of a command line are its pieces between separators
(`split?_of_unmarked`). The cut at blanks makes pieces of the same kind at another class of letters. Every
separator is a blank; a blank that is none stays in a word of the one cut and is gone in the other. So the two
cuts agree exactly when no such blank occurs (`split_eq_blankWords_iff`).
-/

namespace CompileDb

namespace Text

/-- The pieces of a text between letters of a class, in order, without the empty ones. -/
def piecesBetween (p : Letter → Bool) (text : Text) : List Text :=
  (text.splitOnP p).filter fun piece => !piece.isEmpty

section Pieces

variable {p q : Letter → Bool} {text : Text}

/-- A text is cut at a separator into the pieces on either side. -/
theorem piecesBetween_append_cons {a : Letter} (ends : p a = true) (before behind : Text) :
    piecesBetween p (before ++ a :: behind) = piecesBetween p before ++ piecesBetween p behind := by
  rw [piecesBetween, List.splitOnP_append_cons before behind ends, List.filter_append]
  rfl

theorem piecesBetween_of_forall (free : ∀ a ∈ text, p a = false) :
    piecesBetween p text = if text = [] then [] else [text] := by
  rw [piecesBetween, List.splitOnP_eq_singleton free]
  cases text <;> rfl

/-- Only the letters of the class are lost between the pieces. -/
theorem flatten_piecesBetween (p : Letter → Bool) (text : Text) :
    (piecesBetween p text).flatten = text.filter fun a => !p a := by
  have pieces : (text.splitOnP p).flatten = text.filter fun a => !p a := by
    induction text with
    | nil => rfl
    | cons a text ih =>
      rw [List.splitOnP_cons_eq_if_modifyHead, List.filter_cons, ← ih]
      cases ends : p a with
      | true => rfl
      | false =>
        obtain ⟨piece, rest, cut⟩ := List.exists_cons_of_ne_nil (List.splitOnP_ne_nil p text)
        rw [cut]
        rfl
  rw [piecesBetween, List.flatten_filter_not_isEmpty, pieces]

/-- Only the letters of the text decide where it is cut. -/
theorem piecesBetween_congr (same : ∀ a ∈ text, p a = q a) : piecesBetween p text = piecesBetween q text := by
  have pieces : text.splitOnP p = text.splitOnP q := by
    induction text with
    | nil => rfl
    | cons a text ih =>
      rw [List.splitOnP_cons_eq_if_modifyHead, List.splitOnP_cons_eq_if_modifyHead, same a List.mem_cons_self,
        ih fun b listed => same b (List.mem_cons_of_mem a listed)]
  rw [piecesBetween, pieces]
  rfl

end Pieces

end Text

namespace Words

open Text (piecesBetween piecesBetween_append_cons piecesBetween_of_forall)

theorem isBlank_of_isSeparator {a : Letter} (separates : isSeparator a = true) : Text.isBlank a = true := by
  unfold isSeparator at separates
  simp only [Bool.or_eq_true, beq_iff_eq] at separates
  rcases separates with ((rfl | rfl) | rfl) | rfl <;> decide

/-- The reading of a line without marks, with the letters of the word under way in front of it. -/
theorem words?_foldl_step {text : Text} (unmarked : ∀ a ∈ text, isMark a = false) (word : Text)
    (whole : ∀ a ∈ word, isSeparator a = false) (finished : List Text) :
    (text.foldl Reading.step
        { finished := finished, word := if word = [] then none else some word.reverse }).words? =
      some (finished.reverse ++ piecesBetween isSeparator (word ++ text)) := by
  induction text generalizing word finished with
  | nil =>
    rw [List.append_nil, piecesBetween_of_forall whole]
    by_cases fresh : word = [] <;> simp [Reading.words?, Reading.finish, fresh]
  | cons a text ih =>
    have later : ∀ b ∈ text, isMark b = false := fun b listed => unmarked b (List.mem_cons_of_mem a listed)
    rw [List.foldl_cons]
    cases separates : isSeparator a with
    | true =>
      -- The word under way ends here, and the next one begins with nothing.
      have next := ih later [] (by simp) ((if word = [] then [] else [word]) ++ finished)
      have step : Reading.step { finished := finished, word := if word = [] then none else some word.reverse } a =
          { finished := (if word = [] then [] else [word]) ++ finished } := by
        by_cases fresh : word = [] <;> simp [Reading.step, Reading.finish, separates, fresh]
      have order : ((if word = [] then [] else [word]) ++ finished).reverse =
          finished.reverse ++ piecesBetween isSeparator word := by
        rw [piecesBetween_of_forall whole]
        by_cases fresh : word = [] <;> simp [fresh]
      rw [step, piecesBetween_append_cons separates, ← List.append_assoc, ← order]
      exact next
    | false =>
      have longer : ∀ b ∈ word ++ [a], isSeparator b = false := by
        intro b listed
        rcases List.mem_append.1 listed with before | last
        · exact whole b before
        · rw [List.mem_singleton.1 last]
          exact separates
      have next := ih later (word ++ [a]) longer finished
      have step : Reading.step { finished := finished, word := if word = [] then none else some word.reverse } a =
          { finished := finished, word := some (word ++ [a]).reverse } := by
        by_cases fresh : word = [] <;>
          simp [Reading.step, Reading.push, separates, unmarked a List.mem_cons_self, fresh]
      rw [if_neg (by simp), List.append_assoc] at next
      rw [step]
      exact next

/-- Without marks, words are the pieces between separators. -/
theorem split?_of_unmarked {command : Text} (unmarked : ∀ a ∈ command, isMark a = false) :
    split? command = some (piecesBetween isSeparator command) :=
  words?_foldl_step unmarked [] (by simp) []

/-- **A command line without quotation marks is cut like any text, at separators instead of blanks.** It never falls
back to blanks, and the fallback would cut it in the same way exactly when its blanks are all separators. -/
theorem split_eq_blankWords_iff {command : Text} (unmarked : ∀ a ∈ command, isMark a = false) :
    split? command ≠ none ∧
    (split command = Text.blankWords command ↔ ∀ a ∈ command, Text.isBlank a = true → isSeparator a = true) := by
  have cut := split?_of_unmarked unmarked
  have words : split command = piecesBetween isSeparator command := by rw [split, cut, Option.getD_some]
  have blanks : Text.blankWords command = piecesBetween Text.isBlank command := rfl
  refine ⟨by simp [cut], ?_⟩
  rw [words, blanks]
  constructor
  · intro same a listed blank
    have letters := congrArg List.flatten same
    rw [Text.flatten_piecesBetween, Text.flatten_piecesBetween] at letters
    cases inWord : isSeparator a with
    | true => rfl
    | false =>
      have kept : a ∈ command.filter fun b => !isSeparator b := List.mem_filter.2 ⟨listed, by simp [inWord]⟩
      rw [letters] at kept
      simp [blank] at kept
  · intro allSeparate
    apply Text.piecesBetween_congr
    intro a listed
    rw [Bool.eq_iff_iff]
    exact ⟨isBlank_of_isSeparator, allSeparate a listed⟩

/-- A line feed separates; a form feed is a blank that does not. -/
theorem split_eq_blankWords_iff_samples :
    let lines : Text := "-Ia\n-Ib"
    let pages : Text := "-Ia\x0c-Ib"
    (∀ a ∈ lines, isMark a = false) ∧ split lines = Text.blankWords lines ∧
      (∀ a ∈ pages, isMark a = false) ∧ split? pages ≠ none ∧ split pages ≠ Text.blankWords pages := by
  intro lines pages
  have linesUnmarked : ∀ a ∈ lines, isMark a = false := by decide
  have pagesUnmarked : ∀ a ∈ pages, isMark a = false := by decide
  refine ⟨linesUnmarked, (split_eq_blankWords_iff linesUnmarked).2.2 (by decide), pagesUnmarked,
    (split_eq_blankWords_iff pagesUnmarked).1, fun same => ?_⟩
  have separates := (split_eq_blankWords_iff pagesUnmarked).2.1 same (.char '\x0c') (by decide) (by decide)
  revert separates
  decide

end Words

end CompileDb
