import CompileDb.Proofs.Text.Control
import CompileDb.Proofs.Words.RoundTrip

/-!
# Lines of words as they are shown

A line of words is shown without control sequences. The delimiters of a quotation are in no control
sequence, so sequences are left out word by word, whatever the words are made of
(`withoutSequences_flatMap_quotedLetter`). Lines that are shown one behind the other are therefore cut
into the words of all of them, each without its control sequences (`split?_shownLines`).
-/

namespace CompileDb.Words

open Text (withoutSequences isInSequence)

/-- The letter that quotations are opened and closed with. -/
def apostrophe : Letter := '\''

theorem flatMap_quotedLetter_eq_self {word : Text} (free : apostrophe ∉ word) : word.flatMap quotedLetter = word := by
  induction word with
  | nil => rfl
  | cons a word ih =>
    rw [List.mem_cons, not_or] at free
    have letter : quotedLetter a = [a] := if_neg (Ne.symm free.1)
    rw [List.flatMap_cons, letter, ih free.2, List.singleton_append]

/-- **Control sequences are left out of quoted letters as out of the letters themselves.** -/
theorem withoutSequences_flatMap_quotedLetter (word : Text) :
    withoutSequences (word.flatMap quotedLetter) = (withoutSequences word).flatMap quotedLetter := by
  -- Between two apostrophes a word is quoted by itself, so it is taken apart at the first of them.
  by_cases listed : apostrophe ∈ word
  · obtain ⟨front, back, rfl, free⟩ := List.eq_append_cons_of_mem listed
    have free' : apostrophe ∉ withoutSequences front := fun inside =>
      free ((Text.withoutSequences_sublist front).subset inside)
    have foreign : ∀ a ∈ quotedLetter apostrophe, isInSequence a = false := by decide
    have shorter : back.length < (front ++ apostrophe :: back).length := by
      rw [List.length_append, List.length_cons]
      omega
    have rest := withoutSequences_flatMap_quotedLetter back
    rw [List.flatMap_append, List.flatMap_cons, flatMap_quotedLetter_eq_self free,
      Text.withoutSequences_append foreign (by decide), rest, Text.withoutSequences_append_cons (by decide),
      List.flatMap_append, List.flatMap_cons, flatMap_quotedLetter_eq_self free']
  · have free' : apostrophe ∉ withoutSequences word := fun inside =>
      listed ((Text.withoutSequences_sublist word).subset inside)
    rw [flatMap_quotedLetter_eq_self listed, flatMap_quotedLetter_eq_self free']
termination_by word.length

/-- A plain word is shown whole. -/
theorem withoutSequences_of_all_isPlain {word : Text} (plain : word.all isPlain = true) :
    withoutSequences word = word := by
  apply Text.withoutSequences_eq_self
  intro listed
  have escape := List.all_eq_true.1 plain _ listed
  exact absurd escape (by decide)

/-- A word is shown as it is when it is plain, and in quotation otherwise. -/
theorem withoutSequences_quote (word : Text) :
    (word ≠ [] ∧ word.all isPlain = true ∧ withoutSequences (quote word) = word) ∨
      withoutSequences (quote word) = apostrophe :: ((withoutSequences word).flatMap quotedLetter ++ [apostrophe]) := by
  by_cases plain : word ≠ [] ∧ word.all isPlain
  · have bare : quote word = word := if_pos plain
    rw [bare, withoutSequences_of_all_isPlain plain.2]
    exact .inl ⟨plain.1, plain.2, rfl⟩
  · have quoted : quote word = [] ++ apostrophe :: (word.flatMap quotedLetter ++ apostrophe :: []) :=
      (if_neg plain).trans (List.append_assoc _ _ _)
    have delimiter : isInSequence apostrophe = false := by decide
    rw [quoted, Text.withoutSequences_append_cons delimiter, Text.withoutSequences_append_cons delimiter,
      Text.withoutSequences_nil, withoutSequences_flatMap_quotedLetter]
    exact .inr rfl

/-- A quoted word without its control sequences spells the word without them. -/
theorem spells_withoutSequences_quote (word : Text) :
    Spells none none (withoutSequences (quote word)) (withoutSequences word) := by
  rcases withoutSequences_quote word with ⟨-, plain, bare⟩ | quoted
  · rw [bare, withoutSequences_of_all_isPlain plain]
    exact spells_of_all_isPlain plain
  · have opening : Spells none (some apostrophe) [apostrophe] [] := ⟨⟨rfl, trivial⟩, rfl, rfl⟩
    have closing : Spells (some apostrophe) none [apostrophe] [] := ⟨⟨rfl, trivial⟩, rfl, rfl⟩
    rw [quoted]
    simpa using (opening.append (spells_flatMap_quotedLetter (withoutSequences word))).append closing

theorem withoutSequences_quote_ne_nil (word : Text) : withoutSequences (quote word) ≠ [] := by
  rcases withoutSequences_quote word with ⟨nonempty, -, bare⟩ | quoted
  · rwa [bare]
  · rw [quoted]
    exact List.cons_ne_nil _ _

/-- The reading of a quoted word as it is shown, and of the separator behind it. -/
theorem foldl_step_shownWord (finished : List Text) (word : Text) {a : Letter} (separates : isSeparator a = true)
    (foreign : isInSequence a = false) (rest : Text) :
    (withoutSequences (quote word ++ a :: rest)).foldl Reading.step { finished := finished } =
      (withoutSequences rest).foldl Reading.step { finished := withoutSequences word :: finished } := by
  have first := Reading.foldl_step_spells finished (spells_withoutSequences_quote word)
    (withoutSequences_quote_ne_nil word)
  have gap : Reading.step { finished := finished, word := some (withoutSequences word).reverse } a =
      { finished := withoutSequences word :: finished } := by
    rw [Reading.step_of_breaks (show breaks none a = true from separates)]
    simp [Reading.finish]
  rw [Text.withoutSequences_append_cons foreign, List.foldl_append, first, List.foldl_cons, gap]

/-- The line that a list of words is written in. -/
def line (words : List Text) : Text := join words ++ "\n"

theorem line_cons_cons (word next : Text) (rest : List Text) :
    line (word :: next :: rest) = quote word ++ (' ' : Letter) :: line (next :: rest) := by
  simp [line, join, List.intercalate_cons_cons, Text.ofString, Text.ofChars]

theorem line_singleton (word : Text) : line [word] = quote word ++ ('\n' : Letter) :: [] := by
  simp [line, join, Text.ofString, Text.ofChars]

/-- A line as it is shown adds its words, without their control sequences, to those read before. -/
theorem foldl_step_shownLine (finished words : List Text) :
    (withoutSequences (line words)).foldl Reading.step { finished := finished } =
      { finished := (words.map withoutSequences).reverse ++ finished } := by
  induction words generalizing finished with
  | nil =>
    have shown : withoutSequences (line []) = [('\n' : Letter)] := by
      have alone := Text.withoutSequences_append_cons (a := '\n') (by decide) [] []
      rwa [List.nil_append, Text.withoutSequences_nil, List.nil_append] at alone
    rw [shown]
    rfl
  | cons word rest ih =>
    cases rest with
    | nil =>
      rw [line_singleton, foldl_step_shownWord finished word (by decide) (by decide), Text.withoutSequences_nil]
      simp
    | cons next rest =>
      rw [line_cons_cons, foldl_step_shownWord finished word (by decide) (by decide), ih]
      simp

/-- Shown lines are read back list by list, behind the words finished before. -/
theorem foldl_step_shownLines (finished : List Text) (lists : List (List Text)) :
    (lists.flatMap fun words => withoutSequences (line words)).foldl Reading.step { finished := finished } =
      { finished := (lists.flatMap fun words => words.map withoutSequences).reverse ++ finished } := by
  induction lists generalizing finished with
  | nil => rfl
  | cons words rest ih =>
    rw [List.flatMap_cons, List.foldl_append, foldl_step_shownLine, ih, List.flatMap_cons, List.reverse_append,
      List.append_assoc]

/-- **Lines that are shown are cut into their words.** -/
theorem split?_shownLines (lists : List (List Text)) :
    split? (lists.flatMap fun words => withoutSequences (line words)) =
      some (lists.flatMap fun words => words.map withoutSequences) := by
  rw [split?, read, foldl_step_shownLines]
  simp [Reading.words?, Reading.finish]

end CompileDb.Words
