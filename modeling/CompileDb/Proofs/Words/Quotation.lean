import CompileDb.Words

/-!
# Quotation along a command line

Three functions say what a letter does, given the mark of the quotation that is open in front of it:
`markAfter` is the mark behind the letter, `delimits` tells whether the letter opens or closes a
quotation, `breaks` whether it ends a word. None of them knows of words or of a reading.

The reading of a command line is then two equations for one letter (`step_of_breaks`,
`step_of_not_breaks`) and one for a text that no letter breaks (`foldl_step_unbroken`): such a text
adds to the word under way what is left of it without delimiters.
-/

namespace CompileDb.Words

/-- The mark of the open quotation behind a letter. -/
def markAfter (mark : Option Letter) (a : Letter) : Option Letter :=
  match mark with
  | none => if isMark a then some a else none
  | some m => if a = m then none else some m

/-- Whether a letter opens or closes a quotation. -/
def delimits (mark : Option Letter) (a : Letter) : Bool :=
  match mark with
  | none => isMark a
  | some m => a == m

/-- Whether a letter ends a word. -/
def breaks (mark : Option Letter) (a : Letter) : Bool :=
  match mark with
  | none => isSeparator a
  | some _ => false

/-- The letters of a text that neither open nor close a quotation. -/
def unquoted (mark : Option Letter) : Text → Text
  | [] => []
  | a :: rest => (if delimits mark a then [] else [a]) ++ unquoted (markAfter mark a) rest

/-- No letter of a text ends a word. -/
def Unbroken (mark : Option Letter) : Text → Prop
  | [] => True
  | a :: rest => breaks mark a = false ∧ Unbroken (markAfter mark a) rest

/-- No letter both separates and quotes. -/
theorem isMark_of_isSeparator {a : Letter} (separates : isSeparator a = true) : isMark a = false := by
  simp only [isSeparator, Bool.or_eq_true, beq_iff_eq] at separates
  rcases separates with ((rfl | rfl) | rfl) | rfl <;> decide

/-- Words end outside quotations only. -/
theorem markAfter_of_breaks {mark : Option Letter} {a : Letter} (ends : breaks mark a = true) :
    mark = none ∧ markAfter mark a = none := by
  cases mark with
  | some m => simp [breaks] at ends
  | none => simp [markAfter, isMark_of_isSeparator (show isSeparator a = true from ends)]

/-- Quotation marks are left out of two texts in a row, the second read on from the first. -/
theorem unquoted_append (mark : Option Letter) (s t : Text) :
    unquoted mark (s ++ t) = unquoted mark s ++ unquoted (s.foldl markAfter mark) t := by
  induction s generalizing mark with
  | nil => rfl
  | cons a s ih => simp only [List.cons_append, unquoted, ih, List.foldl_cons, List.append_assoc]

theorem unquoted_singleton (mark : Option Letter) (a : Letter) :
    unquoted mark [a] = if delimits mark a then [] else [a] := by
  rw [unquoted, unquoted, List.append_nil]

theorem reverse_unquoted_singleton (mark : Option Letter) (a : Letter) :
    (unquoted mark [a]).reverse = unquoted mark [a] := by
  rw [unquoted_singleton]
  split <;> rfl

/-- A text is unbroken when both its halves are. -/
theorem unbroken_append {mark : Option Letter} {s t : Text} :
    Unbroken mark (s ++ t) ↔ Unbroken mark s ∧ Unbroken (s.foldl markAfter mark) t := by
  induction s generalizing mark with
  | nil => simp [Unbroken]
  | cons a s ih => simp only [List.cons_append, Unbroken, ih, List.foldl_cons, and_assoc]

/-- A text that belongs to one word and adds its content to it: `before` and `after` are the marks
in front of it and behind it. -/
structure Spells (before after : Option Letter) (text content : Text) : Prop where
  unbroken : Unbroken before text
  content : unquoted before text = content
  mark : text.foldl markAfter before = after

theorem Spells.nil (mark : Option Letter) : Spells mark mark [] [] := ⟨trivial, rfl, rfl⟩

/-- Texts that spell words one after the other spell their concatenation. -/
theorem Spells.append {m m' m'' : Option Letter} {s t v w : Text} (first : Spells m m' s v)
    (second : Spells m' m'' t w) : Spells m m'' (s ++ t) (v ++ w) := by
  constructor
  · rw [unbroken_append, first.mark]
    exact ⟨first.unbroken, second.unbroken⟩
  · rw [unquoted_append, first.mark, first.content, second.content]
  · rw [List.foldl_append, first.mark, second.mark]

namespace Reading

@[simp] theorem mark_finish (r : Reading) : r.finish.mark = r.mark := by
  unfold finish
  split <;> rfl

/-- At a break the word read so far is finished. -/
theorem step_of_breaks {r : Reading} {a : Letter} (ends : breaks r.mark a = true) : r.step a = r.finish := by
  have outside := (markAfter_of_breaks ends).1
  rw [outside] at ends
  simp [step, outside, show isSeparator a = true from ends]

/-- A letter that ends no word adds itself to the word under way, unless it delimits a quotation. A
quotation is never open between words. -/
theorem step_of_not_breaks {r : Reading} {a : Letter} (goesOn : breaks r.mark a = false)
    (sound : r.mark.isSome → r.word.isSome) :
    r.step a = { r with
      word := some (unquoted r.mark [a] ++ r.word.getD [])
      mark := markAfter r.mark a } := by
  rw [unquoted_singleton]
  obtain ⟨finished, word, mark⟩ := r
  cases mark with
  | none =>
    have letter : isSeparator a = false := goesOn
    cases quotes : isMark a <;> simp [step, push, delimits, markAfter, letter, quotes]
  | some m =>
    obtain ⟨w, rfl⟩ := Option.isSome_iff_exists.1 (sound rfl)
    by_cases closes : a = m <;> simp [step, push, delimits, markAfter, closes]

@[simp] theorem mark_step (r : Reading) (a : Letter) : (r.step a).mark = markAfter r.mark a := by
  obtain ⟨finished, word, mark⟩ := r
  cases mark with
  | none =>
    cases ends : isSeparator a with
    | true => simp [step, ends, markAfter, isMark_of_isSeparator ends]
    | false => cases quotes : isMark a <;> simp [step, push, markAfter, ends, quotes]
  | some m => by_cases closes : a = m <;> simp [step, push, markAfter, closes]

@[simp] theorem mark_foldl_step (r : Reading) (text : Text) :
    (text.foldl step r).mark = text.foldl markAfter r.mark := by
  induction text generalizing r with
  | nil => rfl
  | cons a text ih => rw [List.foldl_cons, ih, mark_step, List.foldl_cons]

/-- A text that no letter breaks belongs to one word. -/
theorem foldl_step_unbroken {r : Reading} {text : Text} (unbroken : Unbroken r.mark text)
    (sound : r.mark.isSome → r.word.isSome) (nonempty : text ≠ []) :
    text.foldl step r = { r with
      word := some ((unquoted r.mark text).reverse ++ r.word.getD [])
      mark := text.foldl markAfter r.mark } := by
  induction text generalizing r with
  | nil => exact absurd rfl nonempty
  | cons a text ih =>
    have first := step_of_not_breaks unbroken.1 sound
    have split : unquoted r.mark (a :: text) = unquoted r.mark [a] ++ unquoted (markAfter r.mark a) text :=
      unquoted_append r.mark [a] text
    rw [List.foldl_cons, first, split, List.reverse_append, reverse_unquoted_singleton, List.append_assoc]
    by_cases last : text = []
    · subst last
      simp [unquoted]
    · rw [ih unbroken.2 (fun _ => rfl) last]
      simp

/-- A text that spells a word, read between words. -/
theorem foldl_step_spells (finished : List Text) {text word : Text} (spells : Spells none none text word)
    (nonempty : text ≠ []) :
    text.foldl step { finished := finished } = { finished := finished, word := some word.reverse } := by
  rw [foldl_step_unbroken spells.unbroken (by simp) nonempty, spells.content, spells.mark]
  simp

end Reading

theorem mark_read (text : Text) : (read text).mark = text.foldl markAfter none :=
  Reading.mark_foldl_step {} text

/-- A command is split unless a quotation is open at its end. -/
theorem split?_eq_none_iff {command : Text} : split? command = none ↔ command.foldl markAfter none ≠ none := by
  rw [split?, Reading.words?, mark_read]
  cases command.foldl markAfter none <;> simp

end CompileDb.Words
