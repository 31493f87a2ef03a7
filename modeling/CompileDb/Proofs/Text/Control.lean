import CompileDb.Text.Control
import Mathlib.Data.List.Basic

/-!
# Text around control sequences

A letter that no control sequence is made of keeps sequences apart: what stands in front of it and what
follows are written as if each stood alone (`withoutSequences_append_cons`). Leaving sequences out only
takes letters away (`withoutSequences_sublist`).
-/

namespace CompileDb.Text

/-- Whether a letter can be part of a control sequence. -/
def isInSequence (a : Letter) : Bool :=
  a == escapeCharacter || a == '[' || isParameter a || a.isIn Char.isAlpha

/-- A control sequence does not reach beyond a letter that is in none. -/
theorem afterSequence?_append_cons {a : Letter} (foreign : isInSequence a = false) (text rest : Text) :
    afterSequence? (text ++ a :: rest) = (afterSequence? text).map (· ++ a :: rest) := by
  simp only [isInSequence, Bool.or_eq_false_iff, beq_eq_false_iff_ne] at foreign
  obtain ⟨⟨⟨noEscape, noBracket⟩, noParameter⟩, noFinal⟩ := foreign
  match text with
  | [] => exact afterSequence?_eq_none noEscape
  | [first] => simp [afterSequence?, sequenceOpening, after?, noBracket.symm]
  | first :: second :: text =>
    by_cases opens : (escapeCharacter : Letter) = first ∧ ('[' : Letter) = second
    · obtain ⟨rfl, rfl⟩ := opens
      have drop : (text ++ a :: rest).dropWhile isParameter =
          if (text.dropWhile isParameter).isEmpty then (a :: rest).dropWhile isParameter
          else text.dropWhile isParameter ++ a :: rest := List.dropWhile_append
      cases behind : text.dropWhile isParameter with
      | nil =>
        rw [behind, List.isEmpty_nil, if_pos rfl, List.dropWhile_cons_of_neg (by simp [noParameter])] at drop
        simp [afterSequence?, sequenceOpening, after?, behind, drop, noFinal]
      | cons final tail =>
        rw [behind, List.isEmpty_cons, if_neg (by simp)] at drop
        simp only [afterSequence?, sequenceOpening, after?, List.cons_append, behind, drop, if_true]
        split <;> rfl
    · have closed : ∀ text, afterSequence? (first :: second :: text) = none := by
        intro text
        have unopened : after? sequenceOpening (first :: second :: text) = none := by
          rw [Classical.not_and_iff_not_or_not] at opens
          rcases opens with other | other <;> simp [sequenceOpening, after?, other]
        rw [afterSequence?, unopened]
      simp [closed]

theorem withoutSequences_nil : withoutSequences [] = [] := by rw [withoutSequences]

theorem withoutSequences_of_none {a : Letter} {text : Text} (ordinary : afterSequence? (a :: text) = none) :
    withoutSequences (a :: text) = a :: withoutSequences text := by
  rw [withoutSequences]
  split
  · next found => rw [ordinary] at found; cases found
  · rfl

/-- A sequence is left out. -/
theorem withoutSequences_of_some {text rest : Text} (sequence : afterSequence? text = some rest) :
    withoutSequences text = withoutSequences rest := by
  cases text with
  | nil => cases sequence
  | cons a text =>
    rw [withoutSequences]
    split
    · next found => rw [Option.some.inj (found.symm.trans sequence)]
    · next found => rw [sequence] at found; cases found

/-- **Letters that are in no control sequence keep sequences apart.** -/
theorem withoutSequences_append_cons {a : Letter} (foreign : isInSequence a = false) (text rest : Text) :
    withoutSequences (text ++ a :: rest) = withoutSequences text ++ a :: withoutSequences rest := by
  fun_induction withoutSequences text with
  | case1 =>
    have ordinary : afterSequence? (a :: rest) = none := afterSequence?_append_cons foreign [] rest
    rw [List.nil_append, withoutSequences_of_none ordinary, List.nil_append]
  | case2 b text behind sequence ih =>
    have whole := afterSequence?_append_cons foreign (b :: text) rest
    rw [sequence, Option.map_some] at whole
    rw [withoutSequences_of_some whole, ih]
  | case3 b text ordinary ih =>
    have whole := afterSequence?_append_cons foreign (b :: text) rest
    rw [ordinary, Option.map_none, List.cons_append] at whole
    rw [List.cons_append, withoutSequences_of_none whole, ih, List.cons_append]

/-- Letters that stand in no sequence keep those on either side apart. -/
theorem withoutSequences_append {middle : Text} (foreign : ∀ a ∈ middle, isInSequence a = false)
    (nonempty : middle ≠ []) (text rest : Text) :
    withoutSequences (text ++ (middle ++ rest)) = withoutSequences text ++ (middle ++ withoutSequences rest) := by
  induction middle generalizing text with
  | nil => exact absurd rfl nonempty
  | cons a middle ih =>
    rw [List.cons_append, withoutSequences_append_cons (foreign a (by simp))]
    by_cases last : middle = []
    · subst last
      rfl
    · have inner := ih (fun b listed => foreign b (List.mem_cons_of_mem a listed)) last []
      rw [List.nil_append, withoutSequences_nil, List.nil_append] at inner
      rw [inner, List.cons_append]

/-- What follows a control sequence is the end of the text that it stands in. -/
theorem suffix_of_afterSequence? {text rest : Text} (sequence : afterSequence? text = some rest) : rest <:+ text := by
  unfold afterSequence? at sequence
  split at sequence
  · cases sequence
  · next behind opened =>
    rw [after?_eq_some_iff] at opened
    have dropped := List.dropWhile_suffix isParameter (l := behind)
    split at sequence
    · next final tail tailed =>
      split at sequence
      · obtain rfl := Option.some.inj sequence
        rw [tailed] at dropped
        exact ((List.suffix_cons final tail).trans dropped).trans (opened ▸ List.suffix_append _ behind)
      · cases sequence
    · cases sequence

/-- What is left stands in the text, in its order. -/
theorem withoutSequences_sublist (text : Text) : (withoutSequences text).Sublist text := by
  fun_induction withoutSequences text with
  | case1 => exact List.Sublist.refl []
  | case2 a text rest sequence ih => exact ih.trans (suffix_of_afterSequence? sequence).sublist
  | case3 a text ordinary ih => exact ih.cons_cons a

end CompileDb.Text
