import CompileDb.Proofs.Entries
import CompileDb.Proofs.Words.Quotation
import CompileDb.Switch

/-!
# Joined words are cut apart again

A quoted word spells that word and nothing else (`spells_quote`), with a delimiter for every
apostrophe of it and around every letter that could break it. A line of quoted words is therefore
read word by word (`words?_read_join`), whatever the words are made of.
-/

namespace CompileDb.Words

/-- Letters that need no quotation neither separate nor quote. -/
theorem ordinary_of_isPlain {a : Letter} (plain : isPlain a = true) :
    isSeparator a = false ∧ isMark a = false := by
  constructor
  · by_contra separates
    simp only [isSeparator, Bool.not_eq_false, Bool.or_eq_true, beq_iff_eq] at separates
    rcases separates with ((rfl | rfl) | rfl) | rfl <;> exact absurd plain (by decide)
  · by_contra quotes
    simp only [isMark, Bool.not_eq_false, Bool.or_eq_true, beq_iff_eq] at quotes
    rcases quotes with rfl | rfl <;> exact absurd plain (by decide)

/-- A plain word spells itself. -/
theorem spells_of_all_isPlain {word : Text} (plain : word.all isPlain = true) :
    Spells none none word word := by
  induction word with
  | nil => exact .nil none
  | cons a word ih =>
    rw [List.all_cons, Bool.and_eq_true] at plain
    obtain ⟨letter, unmarked⟩ := ordinary_of_isPlain plain.1
    have rest := ih plain.2
    constructor
    · exact ⟨letter, by rw [markAfter, unmarked]; exact rest.unbroken⟩
    · simp [unquoted, delimits, markAfter, unmarked, rest.content]
    · simp [markAfter, unmarked, rest.mark]

/-- Between apostrophes a quoted letter spells the letter, an apostrophe too. -/
theorem spells_quotedLetter (a : Letter) : Spells (some '\'') (some '\'') (quotedLetter a) [a] := by
  by_cases apostrophe : a = '\''
  · subst apostrophe
    constructor
    · simp only [quotedLetter]
      exact ⟨rfl, rfl, rfl, rfl, rfl, trivial⟩
    · rfl
    · rfl
  · constructor <;> simp [quotedLetter, apostrophe, Unbroken, breaks, unquoted, delimits, markAfter]

theorem spells_flatMap_quotedLetter (word : Text) :
    Spells (some '\'') (some '\'') (word.flatMap quotedLetter) word := by
  induction word with
  | nil => exact .nil _
  | cons a word ih =>
    rw [List.flatMap_cons]
    exact (spells_quotedLetter a).append ih

/-- A quoted word spells the word, from outside quotations to outside. -/
theorem spells_quote (word : Text) : Spells none none (quote word) word := by
  unfold quote
  split
  · next plain => exact spells_of_all_isPlain plain.2
  · have opening : Spells none (some '\'') ("'" : Text) [] := ⟨⟨rfl, trivial⟩, rfl, rfl⟩
    have closing : Spells (some '\'') none ("'" : Text) [] := ⟨⟨rfl, trivial⟩, rfl, rfl⟩
    simpa using (opening.append (spells_flatMap_quotedLetter word)).append closing

theorem quote_ne_nil (word : Text) : quote word ≠ [] := by
  unfold quote
  split
  · next plain => exact plain.1
  · simp [Text.ofString, Text.ofChars]

/-- Joined words are read one by one behind those finished before. -/
theorem words?_read_join (finished words : List Text) :
    ((join words).foldl Reading.step { finished := finished }).words? = some (finished.reverse ++ words) := by
  induction words generalizing finished with
  | nil => simp [join, Reading.words?, Reading.finish]
  | cons word rest ih =>
    have first := Reading.foldl_step_spells finished (spells_quote word) (quote_ne_nil word)
    cases rest with
    | nil =>
      simp only [join, List.map_cons, List.map_nil, List.intercalate_singleton, first]
      simp [Reading.words?, Reading.finish]
    | cons next rest =>
      have line : join (word :: next :: rest) = quote word ++ (' ' : Letter) :: join (next :: rest) := by
        simp [join, List.intercalate_cons_cons, Text.ofString, Text.ofChars]
      rw [line, List.foldl_append, first, List.foldl_cons]
      have gap : Reading.step { finished := finished, word := some word.reverse } (' ' : Letter) =
          { finished := word :: finished } := by
        rw [Reading.step_of_breaks rfl]
        simp [Reading.finish]
      rw [gap, ih]
      simp

/-- Splitting undoes joining. -/
theorem split?_join (words : List Text) : split? (join words) = some words := words?_read_join [] words

theorem split_join (words : List Text) : split (join words) = words := by rw [split, split?_join, Option.getD_some]

/-- **Arguments survive the command line.** Whatever the arguments are, the line that joins them is
cut into these arguments, without a fallback and without a notice. So an entry that lists its
arguments has a command that is cut into them, and the switches found in it are those of the list. -/
theorem arguments_read_back :
    (∀ arguments : List Text, split? (join arguments) = some arguments ∧
      split (join arguments) = arguments ∧ notices (join arguments) = []) ∧
    ∀ (items : List Value) (entries : List Entry), Entry.allOfValue (.list items) = .ok entries →
      ∀ (i : Nat) (fields : Value.Fields) (arguments : List Text), items[i]? = some (.table fields) →
        Entry.ListsArguments fields arguments →
        ∃ entry, entries[i]? = some entry ∧ entry.command = join arguments ∧
          split entry.command = arguments ∧ Switch.ofCommand entry.command = Switch.scan arguments ∧
          Switch.notices entry.command = (Switch.scan arguments).filterMap Switch.notice? := by
  have cut : ∀ arguments : List Text, split (join arguments) = arguments := by
    intro arguments
    rw [split, split?_join, Option.getD_some]
  have quiet : ∀ arguments : List Text, notices (join arguments) = [] := by
    intro arguments
    rw [notices, split?_join]
  refine ⟨fun arguments => ⟨split?_join arguments, cut arguments, quiet arguments⟩, ?_⟩
  intro items entries accepted i fields arguments listed lists
  obtain ⟨entry, found, states⟩ := Entry.ofValue_of_allOfValue accepted listed
  have line := (Entry.command_of_ofValue states).symm.trans (Entry.commandLine_of_listsArguments lists)
  have command : entry.command = join arguments := Except.ok.inj line
  refine ⟨entry, found, command, ?_, ?_, ?_⟩
  · rw [command, cut]
  · rw [command, Switch.ofCommand, cut]
  · rw [command, Switch.notices, quiet, Switch.ofCommand, cut, List.nil_append]

theorem arguments_read_back_of_call :
    let fields : Value.Fields := [("directory", .text "/w"), ("file", .text "a b.cpp"), ("command", .null),
      ("arguments", .list [.text "c++", .text "-DS='a\"\\'", .text "", .text "-isystem", .text "-DX=1"])]
    let arguments : List Text := ["c++", "-DS='a\"\\'", "", "-isystem", "-DX=1"]
    let entries : List Entry := [⟨.ofText "/w", join arguments, .ofText "a b.cpp", .here⟩]
    Entry.allOfValue (.list [.table fields]) = .ok entries ∧ Entry.ListsArguments fields arguments ∧
      ∃ entry, entries[0]? = some entry ∧ entry.command = join arguments ∧
        split entry.command = arguments ∧ Switch.ofCommand entry.command = Switch.scan arguments ∧
        Switch.notices entry.command = (Switch.scan arguments).filterMap Switch.notice? := by
  intro fields arguments entries
  have accepted : Entry.allOfValue (.list [.table fields]) = .ok entries := rfl
  have lists : Entry.ListsArguments fields arguments := ⟨.inr rfl, rfl⟩
  exact ⟨accepted, lists, arguments_read_back.2 _ _ accepted 0 fields arguments rfl lists⟩

end CompileDb.Words
