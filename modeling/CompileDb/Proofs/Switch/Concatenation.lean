import CompileDb.Proofs.Switch.Positions
import CompileDb.Proofs.Words.RoundTrip

/-!
# Commands put one behind the other

Two layers carry something over the place where two commands meet. The reading of words carries the open
quotation and the word under way. A separator outside quotation ends that word, so behind it a reading goes on
as one that has only just begun (`split?_append`). The scan carries a flag that waits for its value. Whether
one waits is told by the number of flags that the first command ends with: after an even number the second
command is scanned on its own (`Seam.free`), after an odd number its first word is a value
(`Seam.waiting`).
-/

namespace CompileDb

namespace Words

namespace Reading

/-- A reading that comes after words which were finished before it. -/
def behind (r : Reading) (before : List Text) : Reading := { r with finished := r.finished ++ before }

theorem finish_behind (r : Reading) (before : List Text) : (r.behind before).finish = r.finish.behind before := by
  obtain ⟨finished, word, mark⟩ := r
  cases word <;> rfl

/-- What was finished before has no influence on what a letter does. -/
theorem step_behind (r : Reading) (before : List Text) (a : Letter) :
    (r.behind before).step a = (r.step a).behind before := by
  have mark : (r.behind before).mark = r.mark := rfl
  unfold step
  rw [mark]
  split
  · split <;> rfl
  · split
    · exact finish_behind r before
    · split <;> rfl

/-- Words read earlier stay in front and change nothing of what is read after them. -/
theorem foldl_step_behind (r : Reading) (before : List Text) (text : Text) :
    text.foldl step (r.behind before) = (text.foldl step r).behind before := by
  induction text generalizing r with
  | nil => rfl
  | cons a text ih => rw [List.foldl_cons, step_behind, ih, List.foldl_cons]

/-- The words read earlier come first. -/
theorem words?_behind (r : Reading) (before : List Text) :
    (r.behind before).words? = r.words?.map (before.reverse ++ ·) := by
  have mark : (r.behind before).mark = r.mark := rfl
  have finished : (r.finish.behind before).finished = r.finish.finished ++ before := rfl
  unfold words?
  rw [mark, finish_behind, finished, List.reverse_append]
  cases r.mark <;> rfl

theorem finish_finish (r : Reading) : r.finish.finish = r.finish := by
  obtain ⟨finished, word, mark⟩ := r
  cases word <;> rfl

/-- Separators outside quotation finish the word under way, however many there are. -/
theorem foldl_step_separators {separators : Text} (separates : ∀ a ∈ separators, isSeparator a = true)
    (nonempty : separators ≠ []) {r : Reading} (outside : r.mark = none) : separators.foldl step r = r.finish := by
  induction separators generalizing r with
  | nil => exact absurd rfl nonempty
  | cons a rest ih =>
    have ends : breaks r.mark a = true := by
      rw [outside]
      exact separates a (List.mem_cons_self ..)
    rw [List.foldl_cons, step_of_breaks ends]
    by_cases last : rest = []
    · rw [last, List.foldl_nil]
    · have later : ∀ b ∈ rest, isSeparator b = true := fun b listed => separates b (List.mem_cons_of_mem a listed)
      rw [ih later last (by rw [mark_finish, outside]), finish_finish]

/-- A reading between words has nothing to carry over but the words that are finished. -/
theorem finish_eq_behind {r : Reading} (outside : r.mark = none) :
    r.finish = ({} : Reading).behind r.finish.finished := by
  obtain ⟨finished, word, mark⟩ := r
  obtain rfl : mark = none := outside
  cases word <;> rfl

end Reading

/-- A command whose quotes are closed is split without falling back. -/
theorem split?_of_closed {command : Text} (closed : command.foldl markAfter none = none) :
    split? command = some (split command) := by
  cases cut : split? command with
  | none => exact absurd closed (split?_eq_none_iff.1 cut)
  | some words => rw [split, cut, Option.getD_some]

/-- **Words are cut on each side of a separator by themselves**, when the quotations in front of it are closed. -/
theorem split?_append {first separators : Text} (closed : first.foldl markAfter none = none)
    (separates : ∀ a ∈ separators, isSeparator a = true) (nonempty : separators ≠ []) (second : Text) :
    split? (first ++ separators ++ second) = (split? second).map (split first ++ ·) := by
  have outside : (read first).mark = none := (mark_read first).trans closed
  have words : some (split first) = some (read first).finish.finished.reverse := by
    rw [← split?_of_closed closed, split?, Reading.words?, outside]
  have seam : (first ++ separators).foldl Reading.step {} = ({} : Reading).behind (read first).finish.finished := by
    rw [List.foldl_append, ← Reading.finish_eq_behind outside]
    exact Reading.foldl_step_separators separates nonempty outside
  rw [split?, read, List.foldl_append, seam, Reading.foldl_step_behind, Reading.words?_behind, Option.some.inj words]
  rfl

end Words

namespace Switch

/-- How many flags a list of words ends with. -/
def flagsAtEnd (tokens : List Text) : Nat := (tokens.reverse.takeWhile (· == flag)).length

/-- A list of words ends with a flag that still waits for its value. -/
def Waits (tokens : List Text) : Prop := IsValue tokens tokens.length

/-- A value is awaited when an odd number of flags stands at the end. -/
theorem waits_iff {tokens : List Text} : Waits tokens ↔ flagsAtEnd tokens % 2 = 1 := by
  rw [Waits, IsValue, flagsBefore, List.take_length, flagsAtEnd]

/-- Behind a word a flag waits iff the word is one and none waits in front of it. -/
theorem waits_snoc {tokens : List Text} {token : Text} :
    Waits (tokens ++ [token]) ↔ token = flag ∧ ¬ Waits tokens := by
  have here : (tokens ++ [token])[tokens.length]? = some token := by simp
  have before : IsValue (tokens ++ [token]) tokens.length ↔ Waits tokens := by
    rw [Waits, IsValue, IsValue, flagsBefore, flagsBefore, List.take_left', List.take_length]
    rfl
  rw [Waits, List.length_append, List.length_singleton, isValue_succ here, before]

/-- Only the bare flag changes how the next word is read. -/
theorem scan_cons_of_ne_flag {token : Text} (other : token ≠ flag) (rest : List Text) :
    scan (token :: rest) = scan [token] ++ scan rest := by
  cases known : Rule.firstVerdict Rule.all token with
  | none => simp [scan, scanWith, known]
  | some verdict =>
    cases verdict with
    | reads switch => simp [scan, scanWith, known]
    | awaitsValue => exact absurd (firstVerdict_eq_awaitsValue_iff.1 known) other

/-- How a scan goes on where a list of words ends. When no flag waits there, the words behind are scanned on their
own; when one does, the first of them is its value. -/
structure Seam (tokens : List Text) : Prop where
  free : ¬ Waits tokens → ∀ rest, scan (tokens ++ rest) = scan tokens ++ scan rest
  waiting : Waits tokens → ∀ value rest,
    scan (tokens ++ value :: rest) = scan tokens ++ ofSystemValue value :: scan rest

/-- One more word in front. -/
theorem Seam.snoc {tokens : List Text} (before : Seam tokens) (token : Text) : Seam (tokens ++ [token]) := by
  by_cases waits : Waits tokens
  · -- the word is the value of the flag in front of it
    have alone : scan (tokens ++ [token]) = scan tokens ++ [ofSystemValue token] := before.waiting waits token []
    constructor
    · intro _ rest
      rw [List.append_assoc, List.singleton_append, before.waiting waits, alone, List.append_assoc,
        List.singleton_append]
    · intro waits'
      exact absurd waits (waits_snoc.1 waits').2
  · have alone : scan (tokens ++ [token]) = scan tokens ++ scan [token] := before.free waits [token]
    constructor
    · intro free rest
      have other : token ≠ flag := fun bare => free (waits_snoc.2 ⟨bare, waits⟩)
      rw [List.append_assoc, List.singleton_append, before.free waits, scan_cons_of_ne_flag other, alone,
        List.append_assoc]
    · intro waits' value rest
      obtain ⟨rfl, -⟩ := waits_snoc.1 waits'
      have nothing : scan [flag] = [] := rfl
      rw [List.append_assoc, List.singleton_append, before.free waits, scan_flag_cons, alone, nothing,
        List.append_nil]

theorem seam (tokens : List Text) : Seam tokens := by
  induction tokens using List.reverseRecOn with
  | nil => exact ⟨fun _ rest => rfl, fun waits => absurd waits (not_isValue_zero [])⟩
  | append_singleton tokens token before => exact before.snoc token

/-- The switches of a command, category by category. -/
@[ext] structure Categories where
  definitions : List (Text × Text) := []
  includeDirs : List Path := []
  systemDirs : List Path := []
  warnings : List Text := []
  standards : List Text := []
  deriving DecidableEq

namespace Categories

/-- Switches sorted into their categories. -/
def sort (switches : List Switch) : Categories where
  definitions := switches.filterMap definition?
  includeDirs := switches.filterMap includeDir?
  systemDirs := switches.filterMap systemDir?
  warnings := switches.filterMap warning?
  standards := switches.filterMap standard?

/-- The categories of a command line. -/
def ofCommand (command : Text) : Categories := sort (Switch.ofCommand command)

/-- Categories are put one behind the other each by itself. -/
instance : Append Categories where
  append c d := ⟨c.definitions ++ d.definitions, c.includeDirs ++ d.includeDirs, c.systemDirs ++ d.systemDirs,
    c.warnings ++ d.warnings, c.standards ++ d.standards⟩

theorem append_assoc (c d e : Categories) : c ++ d ++ e = c ++ (d ++ e) := by
  ext1 <;> exact List.append_assoc ..

theorem sort_append (first second : List Switch) : sort (first ++ second) = sort first ++ sort second := by
  ext1 <;> exact List.filterMap_append

/-- What is kept of the value of a flag. -/
theorem sort_ofSystemValue (value : Text) :
    sort [ofSystemValue value] = { systemDirs := if value = [] then [] else [.ofText value] } := by
  by_cases empty : value = []
  · rw [if_pos empty, empty]
    rfl
  · have named : ¬ value = (("" : String) : Text) := empty
    rw [if_neg empty, ofSystemValue, if_neg named]
    rfl

/-- **Commands are read one behind the other.** Let the quotations of two commands be closed, and let there be
separators between the two. Then the words of the whole are those of the first command and those of the second.
When the first command ends with an even number of flags, so are the switches in every category. When it ends
with an odd number, the first word of the second command is a directory for system headers, unless it is empty,
and only the words behind it are read as a command. -/
theorem ofCommand_append_of_closed {first separators second : Text} (closed : first.foldl Words.markAfter none = none)
    (closed' : second.foldl Words.markAfter none = none) (nonempty : separators ≠ [])
    (separates : ∀ a ∈ separators, Words.isSeparator a = true) :
    Words.split (first ++ separators ++ second) = Words.split first ++ Words.split second ∧
    (flagsAtEnd (Words.split first) % 2 = 0 →
      ofCommand (first ++ separators ++ second) = ofCommand first ++ ofCommand second) ∧
    (flagsAtEnd (Words.split first) % 2 = 1 → ∀ value rest, Words.split second = value :: rest →
      ofCommand (first ++ separators ++ second) =
        ofCommand first ++ { systemDirs := if value = [] then [] else [.ofText value] } ++
          ofCommand (Words.join rest)) := by
  have words : Words.split (first ++ separators ++ second) = Words.split first ++ Words.split second := by
    rw [Words.split, Words.split?_append closed separates nonempty, Words.split?_of_closed closed']
    rfl
  refine ⟨words, ?_, ?_⟩
  · intro even
    have free : ¬ Waits (Words.split first) := by
      rw [waits_iff]
      omega
    rw [ofCommand, Switch.ofCommand, words, (seam _).free free, sort_append]
    rfl
  · intro odd value rest cut
    rw [ofCommand, Switch.ofCommand, words, cut, (seam _).waiting (waits_iff.2 odd), sort_append,
      ← List.singleton_append, sort_append, sort_ofSystemValue, ← append_assoc, ofCommand, ofCommand,
      Switch.ofCommand, Switch.ofCommand, Words.split_join]

/-- The same command behind one flag and behind two. -/
theorem ofCommand_append_of_closed_flags :
    let one : Text := "c++ -DA='x y' -isystem"
    let two : Text := "c++ -DA='x y' -isystem -isystem"
    let separators : Text := " \n"
    let second : Text := "-isystem -DX=1 -Wall"
    one.foldl Words.markAfter none = none ∧ two.foldl Words.markAfter none = none ∧
      second.foldl Words.markAfter none = none ∧ separators ≠ [] ∧
      (∀ a ∈ separators, Words.isSeparator a = true) ∧
      flagsAtEnd (Words.split one) % 2 = 1 ∧ Words.split second = "-isystem" :: ["-DX=1", "-Wall"] ∧
      ofCommand (one ++ separators ++ second) =
        { definitions := [("A", "x y"), ("X", "1")], systemDirs := [.ofText "-isystem"], warnings := ["all"] } ∧
      flagsAtEnd (Words.split two) % 2 = 0 ∧
      ofCommand (two ++ separators ++ second) =
        { definitions := [("A", "x y")]
          systemDirs := [.ofText "-isystem", .ofText "-DX=1"]
          warnings := ["all"] } := by
  intro one two separators second
  have closedOne : one.foldl Words.markAfter none = none := by decide
  have closedTwo : two.foldl Words.markAfter none = none := by decide
  have closed : second.foldl Words.markAfter none = none := by decide
  have nonempty : separators ≠ [] := by decide
  have separates : ∀ a ∈ separators, Words.isSeparator a = true := by decide
  have odd : flagsAtEnd (Words.split one) % 2 = 1 := by decide
  have even : flagsAtEnd (Words.split two) % 2 = 0 := by decide
  have cut : Words.split second = "-isystem" :: ["-DX=1", "-Wall"] := by decide
  obtain ⟨-, -, waiting⟩ := ofCommand_append_of_closed closedOne closed nonempty separates
  obtain ⟨-, free, -⟩ := ofCommand_append_of_closed closedTwo closed nonempty separates
  refine ⟨closedOne, closedTwo, closed, nonempty, separates, odd, cut, ?_, even, ?_⟩
  · rw [waiting odd _ _ cut]
    decide
  · rw [free even]
    decide

end Categories

end Switch

end CompileDb
