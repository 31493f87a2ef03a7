import CompileDb.Entry
import Mathlib.Data.List.Forall2

/-!
# Entries and the items that state them

A compilation database is accepted exactly when each of its items states an entry, and the entries
are then those of the items, one by one.
-/

namespace CompileDb.Entry

/-- A list is accepted when each item is, by the entry it states. -/
theorem listFrom_eq_ok_iff {index : Nat} {items : List Value} {entries : List Entry} :
    listFrom index items = .ok entries ↔
      List.Forall₂ (fun item entry => ofValue item = .ok entry) items entries := by
  induction items generalizing index entries with
  | nil => simp [listFrom, eq_comm]
  | cons item rest ih =>
    have tail := @ih (index + 1)
    cases first : ofValue item with
    | error fault => cases entries <;> simp [listFrom, first]
    | ok entry =>
      cases others : listFrom (index + 1) rest with
      | error fault => cases entries <;> simp [listFrom, first, others, Except.map, ← tail]
      | ok later => cases entries <;> simp [listFrom, first, others, Except.map, ← tail]

/-- The item at a place states the entry at that place. -/
theorem ofValue_of_allOfValue {items : List Value} {entries : List Entry}
    (accepted : allOfValue (.list items) = .ok entries) {i : Nat} {item : Value}
    (listed : items[i]? = some item) : ∃ entry, entries[i]? = some entry ∧ ofValue item = .ok entry := by
  have fits := listFrom_eq_ok_iff.1 accepted
  obtain ⟨inside, rfl⟩ := List.getElem?_eq_some_iff.1 listed
  have inside' : i < entries.length := fits.length_eq ▸ inside
  exact ⟨entries[i], List.getElem?_eq_getElem inside', fits.get inside inside'⟩

/-- The fields of an item that lists arguments where others have a command. -/
structure ListsArguments (fields : Value.Fields) (arguments : List Text) : Prop where
  noCommand : Value.field? "command" fields = none ∨ Value.field? "command" fields = some .null
  listed : Value.field? "arguments" fields = some (.list (arguments.map .text))

/-- `texts?` takes lists of texts only. -/
theorem texts?_eq_some_iff {items : List Value} {texts : List Text} :
    Value.texts? items = some texts ↔ items = texts.map .text := by
  induction items generalizing texts with
  | nil => cases texts <;> simp [Value.texts?]
  | cons item items ih =>
    simp only [Value.texts?] at ih
    cases item with
    | text t => cases texts <;> simp [Value.texts?, List.mapM_cons, Value.text?, Option.bind_eq_some_iff, ih, and_comm]
    | _ => cases texts <;> simp [Value.texts?, List.mapM_cons, Value.text?]

section Parts

open Value (field?)

variable {fields : Value.Fields}

/-- Directory and file are accepted when both are texts. -/
theorem directoryAndFile_eq_ok_iff {places : Text × Text} : directoryAndFile fields = .ok places ↔
    field? "directory" fields = some (.text places.1) ∧ field? "file" fields = some (.text places.2) := by
  constructor
  · intro read
    unfold directoryAndFile at read
    split at read
    · next directory file =>
      obtain rfl := Except.ok.inj read
      exact ⟨directory, file⟩
    · cases read
  · rintro ⟨directory, file⟩
    rw [directoryAndFile, directory, file]

theorem commandOfArguments_eq_ok_iff {command : Text} : commandOfArguments fields = .ok command ↔
    ∃ arguments : List Text, field? "arguments" fields = some (.list (arguments.map .text)) ∧
      command = Words.join arguments := by
  constructor
  · intro read
    unfold commandOfArguments at read
    split at read
    · cases read
    · next items listed =>
      split at read
      · next arguments texts =>
        rw [texts?_eq_some_iff.1 texts] at listed
        exact ⟨arguments, listed, (Except.ok.inj read).symm⟩
      · cases read
    · cases read
  · rintro ⟨arguments, listed, rfl⟩
    have texts := texts?_eq_some_iff.2 (rfl : arguments.map Value.text = _)
    simp only [commandOfArguments, listed, texts]

/-- The command line is the `command`, or the `arguments` joined. -/
theorem commandLine_eq_ok_iff {command : Text} : commandLine fields = .ok command ↔
    field? "command" fields = some (.text command) ∨
      ∃ arguments, ListsArguments fields arguments ∧ command = Words.join arguments := by
  have lists : (∃ arguments, ListsArguments fields arguments ∧ command = Words.join arguments) ↔
      (field? "command" fields = none ∨ field? "command" fields = some .null) ∧
        commandOfArguments fields = .ok command := by
    rw [commandOfArguments_eq_ok_iff]
    constructor
    · rintro ⟨arguments, ⟨noCommand, listed⟩, same⟩
      exact ⟨noCommand, arguments, listed, same⟩
    · rintro ⟨noCommand, arguments, listed, same⟩
      exact ⟨arguments, ⟨noCommand, listed⟩, same⟩
  rw [lists]
  unfold commandLine
  split
  · next t given => simp [given]
  · next absent => simp [absent]
  · next null => simp [null]
  · next v isText isNull given =>
    have noText : ∀ t, v ≠ .text t := isText
    have noNull : v ≠ .null := isNull
    simp [given, noText, noNull]

/-- An absent output is the empty one, a present one a text. -/
theorem outputText_eq_ok_iff {output : Text} : outputText fields = .ok output ↔
    field? "output" fields = none ∧ output = "" ∨ field? "output" fields = some (.text output) := by
  unfold outputText
  split
  · next absent => simp [absent, eq_comm]
  · next t given => simp [given]
  · next v isText given =>
    have noText : ∀ t, v ≠ .text t := isText
    simp [given, noText]

end Parts

theorem commandLine_of_listsArguments {fields : Value.Fields} {arguments : List Text}
    (lists : ListsArguments fields arguments) : commandLine fields = .ok (Words.join arguments) :=
  commandLine_eq_ok_iff.2 (.inr ⟨arguments, lists, rfl⟩)

/-- An object is accepted exactly when each of its parts is. -/
theorem ofValue_table_eq_ok_iff {fields : Value.Fields} {entry : Entry} :
    ofValue (.table fields) = .ok entry ↔ ∃ places command output, directoryAndFile fields = .ok places ∧
      commandLine fields = .ok command ∧ outputText fields = .ok output ∧
      entry = ⟨.ofText places.1, command, .ofText places.2, .ofText output⟩ := by
  unfold ofValue
  cases read : directoryAndFile fields with
  | error fault => simp [read, bind, Except.bind]
  | ok places =>
    cases line : commandLine fields with
    | error fault => simp [read, line, bind, Except.bind]
    | ok command =>
      cases written : outputText fields with
      | error fault => simp [read, line, written, bind, Except.bind]
      | ok output =>
        simp only [read, line, written, bind, Except.bind, pure, Except.pure, Except.ok.injEq]
        constructor
        · rintro rfl
          exact ⟨places, command, output, rfl, rfl, rfl, rfl⟩
        · rintro ⟨_, _, _, rfl, rfl, rfl, same⟩
          exact same.symm

theorem command_of_ofValue {fields : Value.Fields} {entry : Entry}
    (states : ofValue (.table fields) = .ok entry) : commandLine fields = .ok entry.command := by
  obtain ⟨places, command, output, -, line, -, rfl⟩ := ofValue_table_eq_ok_iff.1 states
  exact line

end CompileDb.Entry
