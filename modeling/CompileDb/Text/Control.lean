import CompileDb.Text
import CompileDb.Text.Literal

/-!
# Control sequences of terminals

A control sequence is an escape character, an opening bracket, parameters that are digits,
semicolons and question marks, and an ASCII letter. A text that does not go to a terminal is written
without its control sequences. It is read once from left to right, so what comes together around a
sequence that is left out is not looked at again. A text without escape character has no control
sequence and stays as it is (`withoutSequences_eq_self`).
-/

namespace CompileDb.Text

/-- The character that opens a control sequence. -/
def escapeCharacter : Char := '\x1b'

/-- What a control sequence begins with. -/
def sequenceOpening : Text := [escapeCharacter, '[']

/-- Whether a letter can be part of the parameters of a control sequence. -/
def isParameter (a : Letter) : Bool := a.isIn fun c => c.isDigit || c == ';' || c == '?'

/-- What follows the control sequence at the beginning of a text. -/
def afterSequence? (text : Text) : Option Text :=
  match after? sequenceOpening text with
  | none => none
  | some rest =>
    match rest.dropWhile isParameter with
    | final :: rest => if final.isIn Char.isAlpha then some rest else none
    | [] => none

/-- A sequence has at least one letter, so what follows it is shorter: the removal ends. -/
theorem length_lt_of_afterSequence? {text rest : Text} (h : afterSequence? text = some rest) :
    rest.length < text.length := by
  unfold afterSequence? at h
  split at h
  · simp at h
  · next behind hbehind =>
    rw [after?_eq_some_iff] at hbehind
    have hdrop := (List.dropWhile_suffix isParameter (l := behind)).length_le
    split at h
    · next final tail htail =>
      split at h
      · obtain rfl := Option.some.inj h
        rw [htail] at hdrop
        simp only [List.length_cons] at hdrop
        simp only [hbehind, sequenceOpening, List.length_append, List.length_cons, List.length_nil]
        omega
      · simp at h
    · simp at h

/-- A text without its control sequences. -/
def withoutSequences : Text → Text
  | [] => []
  | a :: text =>
    match _h : afterSequence? (a :: text) with
    | some rest => withoutSequences rest
    | none => a :: withoutSequences text
termination_by text => text.length
decreasing_by
  · exact length_lt_of_afterSequence? _h
  · exact Nat.lt_succ_self _

/-- Every sequence opens with the escape character. -/
theorem afterSequence?_eq_none {a : Letter} {text : Text} (h : a ≠ escapeCharacter) :
    afterSequence? (a :: text) = none := by
  simp [afterSequence?, sequenceOpening, after?, Ne.symm h]

/-- A text without the escape character keeps all its letters. -/
theorem withoutSequences_eq_self {text : Text} (h : (escapeCharacter : Letter) ∉ text) :
    withoutSequences text = text := by
  induction text with
  | nil => simp [withoutSequences]
  | cons a text ih =>
    rw [List.mem_cons, not_or] at h
    rw [withoutSequences]
    split
    · next hrest => simp [afterSequence?_eq_none (Ne.symm h.1)] at hrest
    · rw [ih h.2]

end CompileDb.Text
