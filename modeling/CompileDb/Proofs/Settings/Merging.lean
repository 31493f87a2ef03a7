import CompileDb.Proofs.Entries
import CompileDb.Proofs.Settings.Loading

/-!
# What a document sets

A setting is the one that a document gives, and that of the defaults where it gives none (`field?_process`,
`field?_clang`). Documents that give the same for a setting therefore come to the same as far as it goes
(`excludesTests_congr`, `chosenLibrary_congr`). The settings that hold lists of texts are told by `ListsTexts`.
-/

namespace CompileDb

namespace Value

variable {name key : Text} {v : Value} {fields : Fields}

/-- A key is not found when no field has it. -/
theorem field?_eq_none_iff : field? key fields = none ↔ key ∉ fields.map Prod.fst := by
  induction fields with
  | nil => simp [field?]
  | cons f rest ih =>
    by_cases here : f.1 = key
    · simp [field?, here]
    · simp [field?, ih, here, Ne.symm here]

theorem mem_names_setField :
    key ∈ (setField name v fields).map Prod.fst ↔ key = name ∨ key ∈ fields.map Prod.fst := by
  induction fields with
  | nil => simp [setField]
  | cons f rest ih =>
    rw [setField]
    split
    · next same => simp [← same]
    · rw [List.map_cons, List.map_cons, List.mem_cons, List.mem_cons, ih, or_left_comm]

theorem nodup_names_setField (distinct : (fields.map Prod.fst).Nodup) :
    ((setField name v fields).map Prod.fst).Nodup := by
  induction fields with
  | nil => simp [setField]
  | cons f rest ih =>
    rw [List.map_cons, List.nodup_cons] at distinct
    rw [setField]
    split
    · exact List.nodup_cons.2 distinct
    · next other =>
      refine List.nodup_cons.2 ⟨?_, ih distinct.2⟩
      rw [mem_names_setField, not_or]
      exact ⟨other, distinct.1⟩

/-- A field that is set has its new value, and the others keep theirs. The names have to differ, for the first
field of a name is set and the last one counts. -/
theorem field?_setField (distinct : (fields.map Prod.fst).Nodup) :
    field? key (setField name v fields) = if name = key then some v else field? key fields := by
  induction fields with
  | nil => rfl
  | cons f rest ih =>
    rw [List.map_cons, List.nodup_cons] at distinct
    rw [setField]
    split
    · next same =>
      have once : field? f.1 rest = none := field?_eq_none_iff.2 distinct.1
      subst same
      by_cases here : f.1 = key
      · subst here
        simp [field?, once]
      · simp [field?, here]
    · next other =>
      rw [field?, ih distinct.2, field?]
      split
      · next same => rfl
      · rfl

/-- Of fields and further ones the further ones count, and among them the last of a name. -/
theorem field?_updateFields (distinct : (fields.map Prod.fst).Nodup) (key : Text) (further : Fields) :
    field? key (updateFields fields further) = (field? key further).or (field? key fields) := by
  induction further generalizing fields with
  | nil => rfl
  | cons f rest ih =>
    rw [updateFields, List.foldl_cons, ← updateFields, ih (nodup_names_setField distinct), field?_setField distinct,
      field?, Option.or_assoc]
    split <;> rfl

/-- The field of a value that is a table. -/
def fieldIn? (name : Text) : Option Value → Option Value
  | some (.table fields) => field? name fields
  | _ => none

end Value

namespace Settings

open Value (field? fieldIn?)

variable {document : Value.Fields}

/-- What a document sets in one of its sections. -/
def setting? (group name : Text) (document : Value.Fields) : Option Value := fieldIn? name (field? group document)

/-- A merged section has what is given, and the defaults for the rest. -/
theorem field?_mergeSection {fields : Value.Fields} (distinct : (fields.map Prod.fst).Nodup) (name : Text)
    (given : Option Value) :
    field? name (mergeSection fields given) = (fieldIn? name given).or (field? name fields) := by
  rcases given with _ | v
  · rfl
  · cases v with
    | table loaded => exact Value.field?_updateFields distinct name loaded
    | _ => rfl

/-- A setting of `process` as given, or by default. -/
theorem field?_process (name : Text) (document : Value.Fields) :
    field? name (ofDocument document).process = (setting? "process" name document).or (field? name defaults.process) :=
  field?_mergeSection (by decide) name _

/-- A setting of `clang` as given, or by default. -/
theorem field?_clang (name : Text) (document : Value.Fields) :
    field? name (ofDocument document).clang = (setting? "clang" name document).or (field? name defaults.clang) :=
  field?_mergeSection (by decide) name _

/-- A setting lists texts; one that is not given lists none. -/
def ListsTexts (setting : Option Value) (texts : List Text) : Prop :=
  setting = some (.list (texts.map .text)) ∨ setting = none ∧ texts = []

/-- The texts that a setting lists, when it lists nothing else. -/
def textsOf? : Option Value → Option (List Text)
  | none => some []
  | some (.list items) => Value.texts? items
  | some _ => none

theorem listsTexts_iff {setting : Option Value} {texts : List Text} :
    ListsTexts setting texts ↔ textsOf? setting = some texts := by
  unfold ListsTexts
  cases setting with
  | none => simp [textsOf?, eq_comm]
  | some v => cases v <;> simp [textsOf?, Entry.texts?_eq_some_iff]

instance (setting : Option Value) (texts : List Text) : Decidable (ListsTexts setting texts) :=
  decidable_of_iff _ listsTexts_iff.symm

/-- The default of a setting that lists texts is to list none. -/
theorem ListsTexts.itemsOf {setting : Option Value} {texts : List Text} (lists : ListsTexts setting texts) :
    itemsOf (setting.or (some (.list []))) = .ok (texts.map .text) := by
  rcases lists with rfl | ⟨rfl, rfl⟩ <;> rfl

/-- What a document says of the kinds to ignore and of the directories to search. -/
structure States (document : Value.Fields) (kinds dirs : List Text) : Prop where
  kinds : ListsTexts (setting? "process" "ignore_kinds" document) kinds
  dirs : ListsTexts (setting? "process" "include_flags" document) dirs

instance (document : Value.Fields) (kinds dirs : List Text) : Decidable (States document kinds dirs) :=
  decidable_of_iff (ListsTexts (setting? "process" "ignore_kinds" document) kinds ∧
    ListsTexts (setting? "process" "include_flags" document) dirs) ⟨fun ⟨a, b⟩ => ⟨a, b⟩, fun ⟨a, b⟩ => ⟨a, b⟩⟩

section States

variable {kinds dirs : List Text} (states : States document kinds dirs)
include states

theorem States.ignoredKinds : (ofDocument document).ignoredKinds = .ok kinds := by
  have items : Settings.itemsOf (field? "ignore_kinds" (ofDocument document).process) = .ok (kinds.map .text) := by
    rw [field?_process]
    exact states.kinds.itemsOf
  have texts : (kinds.map Value.text).filterMap Value.text? = kinds := by
    rw [List.filterMap_map]
    exact List.filterMap_some
  simp [Settings.ignoredKinds, items, texts, bind, Except.bind, pure, Except.pure]

theorem States.includeDirs : (ofDocument document).includeDirs = .ok (some dirs) := by
  have items : Settings.itemsOf (field? "include_flags" (ofDocument document).process) = .ok (dirs.map .text) := by
    rw [field?_process]
    exact states.dirs.itemsOf
  rw [Settings.includeDirs, items]
  exact congrArg Except.ok (Entry.texts?_eq_some_iff.2 rfl)

end States

/-- Whether tests are excluded depends on that setting alone. -/
theorem excludesTests_congr {document' : Value.Fields}
    (same : setting? "process" "exclude_tests" document' = setting? "process" "exclude_tests" document) :
    (ofDocument document').excludesTests = (ofDocument document).excludesTests := by
  rw [excludesTests, excludesTests, field?_process, field?_process, same]

theorem configuredLibrary_document (s : Settings) :
    configuredLibrary s.document = .ok ((field? "library_file" s.clang).filter Value.isTruthy) := rfl

/-- The library chosen depends on its setting and the environment alone. -/
theorem chosenLibrary_congr {document' : Value.Fields}
    (same : setting? "clang" "library_file" document' = setting? "clang" "library_file" document)
    (environment : Option Text) :
    chosenLibrary environment (ofDocument document').document =
      chosenLibrary environment (ofDocument document).document := by
  unfold chosenLibrary
  rw [configuredLibrary_document, configuredLibrary_document, field?_clang, field?_clang, same]

/-- The document that is read from a settings file: the one that its text states to the reader, and an empty one when
there is no such file. -/
inductive Reads (reader : Reader) (disk : Disk) (path : Path) : Value.Fields → Prop
  | file {text : List Char} {document : Value.Fields} (found : disk.look path = .file (.bytes (Text.Utf8.encode text)))
    (read : documentOf reader text = .ok document) : Reads reader disk path document
  | missing (absent : disk.look path = .absent) : Reads reader disk path []

/-- The document of a text, which is empty when the text states none. -/
def documentOrEmpty (reader : Reader) (text : List Char) : Value.Fields := (documentOf reader text).toOption.getD []

section Reads

variable {reader : Reader} {disk : Disk} {path : Path}

theorem reads_of_isOk {text : List Char} (found : disk.look path = .file (.bytes (Text.Utf8.encode text)))
    (accepted : (documentOf reader text).isOk = true) : Reads reader disk path (documentOrEmpty reader text) := by
  apply Reads.file found
  unfold documentOrEmpty
  cases read : documentOf reader text with
  | ok document => rfl
  | error refusal =>
    rw [read] at accepted
    cases accepted

/-- The settings that are loaded are those of the document. -/
theorem Reads.load (reads : Reads reader disk path document) : load reader disk path = pure (ofDocument document) := by
  cases reads with
  | file found read => rw [load_of_text found rfl, read]
  | missing absent =>
    rw [Settings.load, absent]
    rfl

end Reads

end Settings

end CompileDb
