import CompileDb.Proofs.Database.Contents
import CompileDb.Proofs.Database.History
import CompileDb.Proofs.Entries

/-!
# Databases and the documents that state them

A database is loaded from a document, whose items state its entries one by one. `Lists` is the relation
between a place on the disk and the items that are found there.
-/

namespace CompileDb

/-- The source of an entry is the file that its item names. -/
theorem Entry.file_of_ofValue {fields : Value.Fields} {entry : Entry} {file : Text}
    (states : ofValue (.table fields) = .ok entry) (named : Value.field? "file" fields = some (.text file)) :
    entry.file = .ofText file := by
  obtain ⟨places, command, output, read, -, -, rfl⟩ := ofValue_table_eq_ok_iff.1 states
  have file := (directoryAndFile_eq_ok_iff.1 read).2
  rw [named] at file
  rw [Value.text.inj (Option.some.inj file)]

namespace Database

variable {disk : Disk} {path : Path} {items : List Value} {d : Database}

/-- What is loaded from a path is a document that lists items. -/
def Lists (disk : Disk) (path : Path) (items : List Value) : Prop :=
  ∃ bytes text, disk.look (Source.anywhere.target disk path) = .file (.bytes bytes) ∧
    Text.Utf8.decode bytes = .ok text ∧ Json.read limits (Text.unifyLineEnds text) = .ok (.list items)

/-- A path lists items when the file it leads to does. -/
theorem lists_iff : Lists disk path items ↔
    ∃ bytes, disk.look (Source.anywhere.target disk path) = .file (.bytes bytes) ∧ ListsItems bytes items := by
  simp only [Lists, ListsItems, Text.Utf8.decode_eq_ok_iff, exists_and_left]
  rfl

/-- A document lists its items in one way only. -/
theorem Lists.unique {items' : List Value} (lists : Lists disk path items) (lists' : Lists disk path items') :
    items = items' := by
  obtain ⟨bytes, found, listed⟩ := lists_iff.1 lists
  obtain ⟨bytes', found', listed'⟩ := lists_iff.1 lists'
  obtain rfl := Contents.bytes.inj (Item.file.inj (found.symm.trans found'))
  exact listed.unique listed'

/-- A database is accepted exactly when its document lists items that all state entries; it is made of these. -/
theorem result_load_eq_ok_iff : (load disk path).result = .ok d ↔ ∃ items entries, Lists disk path items ∧
    Entry.allOfValue (.list items) = .ok entries ∧ d = ⟨entries.map Recipe.ofEntry⟩ := by
  rw [show load disk path = loadFrom .anywhere disk path from rfl, result_loadFrom_eq_ok_iff]
  constructor
  · rintro ⟨entries, ⟨-, contents, found, stated⟩, made⟩
    obtain ⟨bytes, rfl, items, listed, accepted⟩ := entriesOf_eq_ok_iff.1 stated
    exact ⟨items, entries, lists_iff.2 ⟨bytes, found, listed⟩, accepted, made⟩
  · rintro ⟨items, entries, lists, accepted, made⟩
    obtain ⟨bytes, found, listed⟩ := lists_iff.1 lists
    exact ⟨entries, ⟨nofun, .bytes bytes, found, entriesOf_eq_ok_iff.2 ⟨bytes, rfl, items, listed, accepted⟩⟩, made⟩

/-- The item at a place gives the recipe at that place, with the source that it names. -/
theorem exists_recipe_of_lists (lists : Lists disk path items) (loaded : (load disk path).result = .ok d) {i : Nat}
    {fields : Value.Fields} {file : Text} (listed : items[i]? = some (.table fields))
    (named : Value.field? "file" fields = some (.text file)) :
    ∃ r, d.recipes[i]? = some r ∧ r.source = .ofText file := by
  obtain ⟨items', entries, lists', accepted, rfl⟩ := result_load_eq_ok_iff.1 loaded
  obtain rfl := lists.unique lists'
  obtain ⟨entry, stated, states⟩ := Entry.ofValue_of_allOfValue accepted listed
  exact ⟨Recipe.ofEntry entry, by rw [List.getElem?_map, stated]; rfl, Entry.file_of_ofValue states named⟩

/-- The disk that holds a single file. -/
def onlyFile (path : Path) (bytes : List UInt8) : Disk :=
  ⟨fun other => if other = path then .file (.bytes bytes) else .absent⟩

theorem look_onlyFile (path : Path) (bytes : List UInt8) : (onlyFile path bytes).look path = .file (.bytes bytes) :=
  if_pos rfl

theorem target_onlyFile (path : Path) (bytes : List UInt8) :
    Source.anywhere.target (onlyFile path bytes) path = path := by
  have isFile : (onlyFile path bytes).look path ≠ .directory := by
    rw [look_onlyFile]
    exact Item.noConfusion
  exact if_neg isFile

/-- Where a list of objects is all there is, it is what is loaded. -/
theorem lists_onlyFile (path : Path) (objects : List (List (String × String))) :
    Lists (onlyFile path (Text.Utf8.encode (Json.objectList objects))) path
      (objects.map fun fields => .table (fields.map Json.fieldOf)) :=
  lists_iff.2 ⟨_, by rw [target_onlyFile, look_onlyFile], listsItems_objectList objects⟩

end Database

end CompileDb
