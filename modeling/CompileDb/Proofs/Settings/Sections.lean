import CompileDb.Proofs.Settings.Merging
import CompileDb.Proofs.Toml.Names

/-!
# Sections of merged settings

What a document says is laid over the defaults section by section, and only the tables that it gives to known
sections count (`ofDocument_congr`). Laying fields over fields is settled by lookup as far as order goes, since names
are distinct (`perm_updateFields`), and laying the outcome over the same fields again gives it back
((`updateFields_updateFields`). That the names of a document are distinct, in each of its tables, is asked of its
reader (`Reader.NamesOnce`), and the reader that the program runs with sees to it (`Reader.namesOnce_toml`).
-/

namespace CompileDb

namespace Value

variable {key name : Text} {v : Value} {fields further : Fields}

/-- The last field of a name counts. -/
theorem field?_append (front back : Fields) : field? key (front ++ back) = (field? key back).or (field? key front) := by
  induction front with
  | nil => simp [field?]
  | cons f rest ih => rw [List.cons_append, field?, ih, field?, Option.or_assoc]

/-- With distinct names a key has the value it is listed with. -/
theorem field?_eq_some_iff (distinct : (fields.map Prod.fst).Nodup) :
    field? key fields = some v ↔ (key, v) ∈ fields := by
  induction fields with
  | nil => simp [field?]
  | cons f rest ih =>
    obtain ⟨n, old⟩ := f
    obtain ⟨new, distinct⟩ := List.nodup_cons.1 distinct
    rw [field?, List.mem_cons, Prod.mk.injEq]
    by_cases here : n = key
    · subst here
      have once : field? n rest = none := field?_eq_none_iff.2 new
      have elsewhere : (n, v) ∉ rest := fun listed => new (List.mem_map.2 ⟨_, listed, rfl⟩)
      simp [once, elsewhere, eq_comm]
    · rw [if_neg here, Option.or_none, ih distinct]
      simp [Ne.symm here]

/-- Fields with distinct names are told by what is found under the names, up to their order. -/
theorem perm_of_field?_eq (distinct : (fields.map Prod.fst).Nodup) (distinct' : (further.map Prod.fst).Nodup)
    (same : ∀ key, field? key fields = field? key further) : fields.Perm further := by
  rw [List.perm_ext_iff_of_nodup distinct.of_map distinct'.of_map]
  rintro ⟨key, v⟩
  rw [← field?_eq_some_iff distinct, ← field?_eq_some_iff distinct', same]

/-- With distinct names the order of the fields does not count. -/
theorem field?_perm (distinct : (fields.map Prod.fst).Nodup) (perm : fields.Perm further) (key : Text) :
    field? key further = field? key fields := by
  have distinct' : (further.map Prod.fst).Nodup := (perm.map _).nodup_iff.1 distinct
  apply Option.ext
  intro v
  rw [field?_eq_some_iff distinct, field?_eq_some_iff distinct', perm.mem_iff]

theorem mem_names_updateFields :
    key ∈ (updateFields fields further).map Prod.fst ↔ key ∈ fields.map Prod.fst ∨ key ∈ further.map Prod.fst := by
  induction further generalizing fields with
  | nil => simp [updateFields]
  | cons f rest ih =>
    rw [updateFields, List.foldl_cons, ← updateFields, ih, mem_names_setField, List.map_cons, List.mem_cons,
      or_left_comm, or_assoc]

theorem nodup_names_updateFields (distinct : (fields.map Prod.fst).Nodup) (further : Fields) :
    ((updateFields fields further).map Prod.fst).Nodup := by
  induction further generalizing fields with
  | nil => exact distinct
  | cons f rest ih => exact ih (nodup_names_setField distinct)

/-- The order of further fields makes no difference but for the order of the outcome. -/
theorem perm_updateFields {other : Fields} (distinct : (fields.map Prod.fst).Nodup)
    (distinct' : (further.map Prod.fst).Nodup) (perm : further.Perm other) :
    (updateFields fields further).Perm (updateFields fields other) := by
  refine perm_of_field?_eq (nodup_names_updateFields distinct _) (nodup_names_updateFields distinct _) ?_
  intro key
  rw [field?_updateFields distinct, field?_updateFields distinct, field?_perm distinct' perm]

theorem names_prefix_setField : fields.map Prod.fst <+: (setField name v fields).map Prod.fst := by
  induction fields with
  | nil => exact List.nil_prefix
  | cons f rest ih =>
    rw [setField]
    split
    · exact List.prefix_rfl
    · exact (List.prefix_cons_inj _).2 ih

/-- Updating keeps the names there are in place and appends the new ones. -/
theorem names_prefix_updateFields : fields.map Prod.fst <+: (updateFields fields further).map Prod.fst := by
  induction further generalizing fields with
  | nil => exact List.prefix_rfl
  | cons f rest ih => exact names_prefix_setField.trans ih

theorem setField_append (absent : name ∉ fields.map Prod.fst) (rest : Fields) :
    setField name v (fields ++ rest) = fields ++ setField name v rest := by
  induction fields with
  | nil => rfl
  | cons f front ih =>
    rw [List.map_cons, List.mem_cons, not_or] at absent
    rw [List.cons_append, setField, if_neg (Ne.symm absent.1), ih absent.2]
    rfl

/-- Fields whose first names are those of the fields below take their place, one after the other. -/
theorem updateFields_of_leading {settled : Fields} (begins : fields.map Prod.fst <+: further.map Prod.fst)
    (distinct : ((settled ++ further).map Prod.fst).Nodup) :
    updateFields (settled ++ fields) further = settled ++ further := by
  induction further generalizing settled fields with
  | nil =>
    obtain rfl : fields = [] := by simpa using begins
    rfl
  | cons f rest ih =>
    have new : f.1 ∉ settled.map Prod.fst := by
      rw [List.map_append, List.nodup_append] at distinct
      exact fun listed => distinct.2.2 _ listed _ List.mem_cons_self rfl
    have placed : ∃ others, others.map Prod.fst <+: rest.map Prod.fst ∧ setField f.1 f.2 fields = f :: others := by
      cases fields with
      | nil => exact ⟨[], List.nil_prefix, rfl⟩
      | cons old others =>
        obtain ⟨same, begins⟩ := List.cons_prefix_cons.1 begins
        refine ⟨others, begins, ?_⟩
        rw [setField, if_pos same, same]
    obtain ⟨others, begins, first⟩ := placed
    have one : setField f.1 f.2 (settled ++ fields) = (settled ++ [f]) ++ others := by
      rw [setField_append new, first, List.append_assoc, List.singleton_append]
    rw [updateFields, List.foldl_cons, ← updateFields, one, ih begins (by simpa using distinct), List.append_assoc,
      List.singleton_append]

/-- Updating twice by the same fields is updating once. -/
theorem updateFields_updateFields (distinct : (fields.map Prod.fst).Nodup) (further : Fields) :
    updateFields fields (updateFields fields further) = updateFields fields further :=
  @updateFields_of_leading fields _ [] names_prefix_updateFields (nodup_names_updateFields distinct further)

end Value

namespace Settings

open Value (field?)

/-- The sections that settings have. -/
def sectionNames : List Text := ["clang", "process"]

/-- The fields of what a name stands for, none when that is no table. -/
def fieldsOf : Option Value → Value.Fields
  | some (.table fields) => fields
  | _ => []

/-- The fields that a document gives to a section. -/
def sectionOf (name : Text) (document : Value.Fields) : Value.Fields := fieldsOf (field? name document)

variable {document document' : Value.Fields} {name : Text} {v : Value}

/-- Merging a section is updating the defaults by what is given. -/
theorem mergeSection_eq (fields : Value.Fields) (given : Option Value) :
    mergeSection fields given = Value.updateFields fields (fieldsOf given) := by
  rcases given with _ | v
  · rfl
  · cases v <;> rfl

/-- The sections of a document are laid over those of the defaults. -/
theorem sectionOf_ofDocument (known : name ∈ sectionNames) : sectionOf name (ofDocument document).document =
    Value.updateFields (sectionOf name defaults.document) (sectionOf name document) := by
  simp only [sectionNames, List.mem_cons, List.not_mem_nil, or_false] at known
  rcases known with rfl | rfl
  · exact mergeSection_eq defaults.clang _
  · exact mergeSection_eq defaults.process _

/-- Nothing else of a document counts. -/
theorem ofDocument_congr (same : ∀ name ∈ sectionNames, sectionOf name document' = sectionOf name document) :
    ofDocument document' = ofDocument document := by
  have clang : fieldsOf (field? "clang" document') = fieldsOf (field? "clang" document) := same _ (by decide)
  have process : fieldsOf (field? "process" document') = fieldsOf (field? "process" document) := same _ (by decide)
  simp only [ofDocument, mergeSection_eq, clang, process]

/-- The sections of settings are tables. -/
theorem field?_document (known : name ∈ sectionNames) (s : Settings) :
    field? name s.document = some (.table (sectionOf name s.document)) := by
  simp only [sectionNames, List.mem_cons, List.not_mem_nil, or_false] at known
  rcases known with rfl | rfl <;> rfl

/-- Merging a merged section once more changes nothing. -/
theorem mergeSection_again {fields : Value.Fields} (distinct : (fields.map Prod.fst).Nodup) (given : Option Value) :
    mergeSection fields (some (.table (mergeSection fields given))) = mergeSection fields given := by
  rw [mergeSection_eq fields given]
  exact Value.updateFields_updateFields distinct (fieldsOf given)

/-- Settings are read back from the document they are written as. -/
theorem ofDocument_document (document : Value.Fields) :
    ofDocument (ofDocument document).document = ofDocument document :=
  congrArg₂ Settings.mk (mergeSection_again (by decide) _) (mergeSection_again (by decide) _)

theorem nodup_names_defaults (known : name ∈ sectionNames) :
    ((sectionOf name defaults.document).map Prod.fst).Nodup := by
  simp only [sectionNames, List.mem_cons, List.not_mem_nil, or_false] at known
  rcases known with rfl | rfl <;> decide

/-- In a document that names nothing twice no section does. -/
theorem nodup_names_sectionOf (once : (Value.table document).NamesOnce) (name : Text) :
    ((sectionOf name document).map Prod.fst).Nodup := by
  cases once with
  | table distinct inside =>
    rw [sectionOf]
    cases found : field? name document with
    | none => exact .nil
    | some v =>
      have listed := inside _ ((Value.field?_eq_some_iff distinct).1 found)
      cases listed with
      | table distinct' => exact distinct'
      | _ => exact .nil

/-- A field that is no section, or no table, can be left out. -/
theorem ofDocument_of_idle {before after : Value.Fields}
    (distinct : ((before ++ (name, v) :: after).map Prod.fst).Nodup)
    (idle : name ∉ sectionNames ∨ ∀ fields, v ≠ .table fields) :
    ofDocument (before ++ after) = ofDocument (before ++ (name, v) :: after) := by
  apply ofDocument_congr
  intro known listed
  rw [sectionOf, sectionOf, Value.field?_append, Value.field?_append, field?]
  by_cases here : name = known
  · subst here
    have simple := idle.resolve_left (not_not.2 listed)
    rw [List.map_append, List.nodup_append] at distinct
    have absent : field? name before = none := Value.field?_eq_none_iff.2 fun inside =>
      distinct.2.2 _ inside _ List.mem_cons_self rfl
    have absent' : field? name after = none := Value.field?_eq_none_iff.2 (List.nodup_cons.1 distinct.2.1).1
    rw [absent, absent']
    cases v with
    | table fields => exact absurd rfl (simple fields)
    | _ => simp [fieldsOf]
  · rw [if_neg here, Option.or_none]

/-- The same value, or a table with the same fields in any order. -/
inductive SameKeys : Value → Value → Prop
  | same (v : Value) : SameKeys v v
  | reordered {fields fields' : Value.Fields} (perm : fields.Perm fields') : SameKeys (.table fields) (.table fields')

/-- The same sections in any order, each with the same keys in any order. -/
def Reorders (document document' : Value.Fields) : Prop :=
  ∃ sections, document.Perm sections ∧
    List.Forall₂ (fun f g => f.1 = g.1 ∧ SameKeys f.2 g.2) sections document'

theorem SameKeys.fieldsOf {given given' : Option Value} (same : Option.Rel SameKeys given given') :
    (fieldsOf given).Perm (fieldsOf given') := by
  cases same with
  | none => exact .nil
  | some same =>
    cases same with
    | same v => exact .refl _
    | reordered perm => exact perm

theorem rel_or {a a' b b' : Option Value} (first : Option.Rel SameKeys a a') (second : Option.Rel SameKeys b b') :
    Option.Rel SameKeys (a.or b) (a'.or b') := by
  cases first with
  | none => exact second
  | some same => exact .some same

theorem rel_field?_of_forall₂
    (each : List.Forall₂ (fun f g : Text × Value => f.1 = g.1 ∧ SameKeys f.2 g.2) document document') (name : Text) :
    Option.Rel SameKeys (field? name document) (field? name document') := by
  induction each with
  | nil => exact .none
  | @cons f g _ _ first _ ih =>
    rw [field?, field?, ← first.1]
    refine rel_or ih ?_
    split
    · exact .some first.2
    · exact .none

/-- Reordering a document reorders its sections. -/
theorem perm_sectionOf (distinct : (document.map Prod.fst).Nodup) (reorders : Reorders document document')
    (name : Text) : (sectionOf name document).Perm (sectionOf name document') := by
  obtain ⟨sections, perm, each⟩ := reorders
  rw [sectionOf, ← Value.field?_perm distinct perm]
  exact SameKeys.fieldsOf (rel_field?_of_forall₂ each name)

/-- Every document that a reader gives names nothing twice, in any of its tables. -/
def Reader.NamesOnce (reader : Reader) : Prop :=
  ∀ text document, reader.read text = .ok document → (Value.table document).NamesOnce

/-- What a reader of tables without repetitions returns names nothing twice. -/
theorem Reads.namesOnce {reader : Reader} (once : reader.NamesOnce) {disk : Disk} {path : Path}
    (reads : Reads reader disk path document) : (Value.table document).NamesOnce := by
  cases reads with
  | file found read => exact once _ _ read
  | missing absent => exact .table .nil (by simp)

/-- The reader that the program runs with names nothing twice. -/
theorem Reader.namesOnce_toml : Reader.toml.NamesOnce := by
  intro text document read
  cases given : Toml.read limits text with
  | ok fields =>
    simp only [Reader.toml, given] at read
    cases read
    exact Toml.namesOnce_of_read given
  | error refusal =>
    simp only [Reader.toml, given] at read
    cases refusal <;> cases read

/-- **What a document says is laid over the defaults, key by key.** The settings that are loaded have the two known
sections and no other. In each, the names are those of the defaults and those of the section of the document, if it
is a table; what the document gives to a name takes the place of the default. Sections that are not known, or no
tables, have no effect, and neither has the order of sections and of the keys in them. Settings that are laid over
the defaults once more stay as they are. -/
theorem load_merges_sections {reader : Reader} (once : reader.NamesOnce) {disk : Disk} {path : Path}
    (reads : Reads reader disk path document) :
    load reader disk path = pure (ofDocument document) ∧
    let merged := (ofDocument document).document
    merged.map Prod.fst = sectionNames ∧
    (∀ name ∈ sectionNames,
      field? name merged = some (.table (sectionOf name merged)) ∧
      ((sectionOf name merged).map Prod.fst).Nodup ∧
      ∀ key,
        (key ∈ (sectionOf name merged).map Prod.fst ↔
          key ∈ (sectionOf name defaults.document).map Prod.fst ∨ key ∈ (sectionOf name document).map Prod.fst) ∧
        field? key (sectionOf name merged) =
          (field? key (sectionOf name document)).or (field? key (sectionOf name defaults.document))) ∧
    (∀ before name v after, document = before ++ (name, v) :: after →
      (name ∉ sectionNames ∨ ∀ fields, v ≠ .table fields) → ofDocument (before ++ after) = ofDocument document) ∧
    (∀ document', Reorders document document' → ∀ name ∈ sectionNames,
      (sectionOf name merged).Perm (sectionOf name (ofDocument document').document)) ∧
    ofDocument merged = ofDocument document := by
  have once := reads.namesOnce once
  have distinct : (document.map Prod.fst).Nodup := by
    cases once with
    | table distinct _ => exact distinct
  refine ⟨reads.load, rfl, ?_, ?_, ?_, ofDocument_document document⟩
  · intro name known
    have initial := nodup_names_defaults known
    refine ⟨field?_document known _, ?_⟩
    rw [sectionOf_ofDocument known]
    exact ⟨Value.nodup_names_updateFields initial _,
      fun key => ⟨Value.mem_names_updateFields, Value.field?_updateFields initial key _⟩⟩
  · rintro before name v after rfl idle
    exact ofDocument_of_idle distinct idle
  · intro document' reorders name known
    rw [sectionOf_ofDocument known, sectionOf_ofDocument known]
    exact Value.perm_updateFields (nodup_names_defaults known) (nodup_names_sectionOf once name)
      (perm_sectionOf distinct reorders name)

/-- A file with a section that is no table, one that is not known, and a key of its own. -/
theorem load_merges_sections_mixed :
    let text := "process=1\n[clang]\nextra=true\nlibrary_file=\"a\"\n[other]\nexclude_tests=false".toList
    let path : Path := .ofText "config.toml"
    let disk := Database.onlyFile path (Text.Utf8.encode text)
    let document := documentOrEmpty .toml text
    let merged := (ofDocument document).document
    Reads .toml disk path document ∧ load .toml disk path = pure (ofDocument document) ∧
      (sectionOf "clang" merged).map Prod.fst = ["library_file", "extra"] ∧
      (field? "library_file" (sectionOf "clang" merged)).bind Value.text? = some "a" ∧
      (field? "exclude_tests" (sectionOf "process" merged)).map Value.isTruthy = some true ∧
      (sectionOf "clang" merged).Perm (sectionOf "clang" (ofDocument document.reverse).document) ∧
      ofDocument merged = ofDocument document := by
  intro text path disk document merged
  have accepted : (documentOf .toml text).isOk = true := by decide +kernel
  have reads : Reads .toml disk path document := reads_of_isOk (Database.look_onlyFile path _) accepted
  obtain ⟨loaded, -, sections, -, order, again⟩ := load_merges_sections Reader.namesOnce_toml reads
  have reversed : Reorders document document.reverse :=
    ⟨document.reverse, (List.reverse_perm _).symm, List.forall₂_same.2 fun f _ => ⟨rfl, .same f.2⟩⟩
  obtain ⟨-, -, clang⟩ := sections "clang" (by decide)
  obtain ⟨-, -, process⟩ := sections "process" (by decide)
  refine ⟨reads, loaded, by decide +kernel, ?_, ?_, order _ reversed "clang" (by decide), again⟩
  · rw [(clang "library_file").2]
    decide +kernel
  · rw [(process "exclude_tests").2]
    decide +kernel

end Settings

end CompileDb
