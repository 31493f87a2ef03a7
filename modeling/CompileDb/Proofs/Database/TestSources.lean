import CompileDb.Proofs.Database.Documents
import CompileDb.Proofs.Entries.Checks
import CompileDb.Proofs.Paths

/-!
# Taking the test sources out of a database

A source is taken for a test by the text of its path, which is in normal form. The document lists sources letter for
letter. Both hold the marker of a test or neither does (`isTest_ofEntry`), so the recipes that are left are those of
the items whose source does not speak of a test, as it is written (`map_some_filter`).
-/

namespace CompileDb

namespace Database

/-- What the sources of tests hold. -/
def testMarker : Text := "test"

/-- The source that an item lists speaks of a test, letter for letter. -/
def ListsTest (item : Value) : Prop :=
  ∃ file, Value.field? "file" item.fields = some (.text file) ∧ testMarker <:+: file

instance (item : Value) : Decidable (ListsTest item) :=
  decidable_of_iff (((Value.field? "file" item.fields).bind Value.text?).any (Text.holds testMarker)) <| by
    have texts : ∀ v file, Value.text? v = some file ↔ v = .text file := by
      intro v file
      cases v <;> simp [Value.text?]
    simp [ListsTest, Option.any_eq_true, Option.bind_eq_some_iff, Text.holds_iff, texts]

/-- The recipe that an item states. -/
def recipe? (item : Value) : Option Recipe := (Entry.ofValue item).toOption.map Recipe.ofEntry

/-- What is said when test sources have been taken out. -/
def discardReport (toConsole : Bool) (removed remaining : Nat) : Trace where
  notices := [.testsDiscarded removed remaining]
  events :=
    if toConsole then
      [.printed ("🧹 discarded " ++ toString removed ++ " test file(s), " ++ toString remaining ++ " remaining")]
    else []

/-- A recipe is a test when the item it comes from lists a test source. -/
theorem isTest_ofEntry {item : Value} {entry : Entry} (states : Entry.States item entry) :
    isTest (Recipe.ofEntry entry) = decide (ListsTest item) := by
  obtain ⟨file, listed, named⟩ := states.file
  have only : ListsTest item ↔ testMarker <:+: file := by
    constructor
    · rintro ⟨file', listed', inside⟩
      rw [listed] at listed'
      cases listed'
      exact inside
    · intro inside
      exact ⟨file, listed, inside⟩
  have isPart : IsPart testMarker := by decide
  have source : (Recipe.ofEntry entry).source = .ofText file := named
  rw [Bool.eq_iff_iff, decide_eq_true_iff, only, isTest, source, Text.holds_iff]
  exact Path.infix_text_ofText_iff isPart file

/-- The recipes of stated items, item by item. -/
theorem map_some_recipes {items : List Value} {entries : List Entry}
    (stated : List.Forall₂ (fun item entry => Entry.ofValue item = .ok entry) items entries) :
    (entries.map Recipe.ofEntry).map some = items.map recipe? := by
  induction stated with
  | nil => rfl
  | cons first others ih =>
    rw [List.map_cons, List.map_cons, ih, List.map_cons, recipe?, first]
    rfl

/-- The recipes that are no tests are those of the items that list no tests. -/
theorem map_some_filter {items : List Value} {entries : List Entry}
    (stated : List.Forall₂ (fun item entry => Entry.ofValue item = .ok entry) items entries) :
    ((entries.map Recipe.ofEntry).filter fun r => !isTest r).map some =
      (items.filter fun item => ¬ ListsTest item).map recipe? := by
  have agree : ∀ {item entry}, Entry.ofValue item = .ok entry →
      ((decide (¬ ListsTest item) = true) ↔ (!isTest (Recipe.ofEntry entry)) = true) := by
    intro item entry states
    rw [isTest_ofEntry (Entry.ofValue_eq_ok_iff.1 states), decide_not]
  rw [List.filter_map]
  exact map_some_recipes (List.rel_filter (fun _ _ states => agree states) stated)

/-- Dropping the tests at once: the recipes kept, how many went, and the report of both. -/
theorem dropTests_eq (d : Database) (toConsole : Bool) :
    d.dropTests toConsole =
      ⟨discardReport toConsole (d.removedBy fun r => !isTest r) (d.keep fun r => !isTest r).size,
        .ok (d.keep fun r => !isTest r, d.removedBy fun r => !isTest r)⟩ := rfl

/-- Once taken out, tests are not found again. -/
theorem keep_keep (d : Database) (test : Recipe → Bool) : (d.keep test).keep test = d.keep test := by
  simp [keep]

/-- **Taking out tests leaves the recipes of the items that list none**, in their order. As many as are missing are
returned, and told; a second time none are found. -/
theorem dropTests_of_loadFile {disk : Disk} {path : Path} {d : Database}
    (loaded : (loadFile disk path).result = .ok d) :
    ∃ bytes items, disk.look path = .file (.bytes bytes) ∧ ListsItems bytes items ∧
      d.recipes.map some = items.map recipe? ∧
      ∀ toConsole, ∃ left removed,
        d.dropTests toConsole = ⟨discardReport toConsole removed left.size, .ok (left, removed)⟩ ∧
        left.recipes.map some = (items.filter fun item => ¬ ListsTest item).map recipe? ∧
        removed + left.size = items.length ∧
        ∀ again, left.dropTests again = ⟨discardReport again 0 left.size, .ok (left, 0)⟩ := by
  obtain ⟨contents, entries, found, contains, rfl⟩ := result_loadFile_eq_ok_iff.1 loaded
  obtain ⟨bytes, rfl, items, listed, accepted⟩ := entriesOf_eq_ok_iff.1 contains
  have stated := Entry.listFrom_eq_ok_iff.1 accepted
  refine ⟨bytes, items, found, listed, map_some_recipes stated, ?_⟩
  intro toConsole
  refine ⟨_, _, dropTests_eq _ toConsole, map_some_filter stated, ?_, ?_⟩
  · rw [removedBy_add_size, size, List.length_map, stated.length_eq]
  · intro again
    rw [dropTests_eq, removedBy, keep_keep, Nat.sub_self]

/-- A database with two sources: one whose name is cut by a slash, and one below a directory of tests. -/
def testSample : List (List (String × String)) :=
  [[("directory", "/"), ("file", "te/st.c"), ("command", "c")],
   [("directory", "/"), ("file", ".//test/a.c"), ("command", "c")]]

/-- Only the source below the directory of tests goes, and it goes once. -/
theorem dropTests_of_loadFile_sample :
    let disk := onlyFile (.ofText "db") (Text.Utf8.encode (Json.objectList testSample))
    let kept : Recipe := { directory := .ofText "/", source := .ofText "te/st.c" }
    let tested : Recipe := { directory := .ofText "/", source := .ofText "test/a.c" }
    (loadFile disk (.ofText "db")).result = .ok ⟨[kept, tested]⟩ ∧
      (mk [kept, tested]).dropTests true = ⟨discardReport true 1 1, .ok (⟨[kept]⟩, 1)⟩ ∧
      (mk [kept]).dropTests false = ⟨discardReport false 0 1, .ok (⟨[kept]⟩, 0)⟩ := by
  intro disk kept tested
  let items : List Value := testSample.map fun fields => .table (fields.map Json.fieldOf)
  have lists : ListsItems _ items := listsItems_objectList testSample
  have accepted : Entry.allOfValue (.list items) = .ok [⟨.ofText "/", "c", .ofText "te/st.c", .here⟩,
      ⟨.ofText "/", "c", .ofText "test/a.c", .here⟩] := by
    decide +kernel
  have loaded : (loadFile disk (.ofText "db")).result = .ok ⟨[kept, tested]⟩ :=
    result_loadFile_eq_ok_iff.2 ⟨_, _, look_onlyFile _ _, entriesOf_eq_ok_iff.2 ⟨_, rfl, items, lists, accepted⟩,
      by decide +kernel⟩
  obtain ⟨bytes, items', found, lists', -, drops⟩ := dropTests_of_loadFile loaded
  obtain rfl := Contents.bytes.inj (Item.file.inj ((look_onlyFile _ _).symm.trans found))
  obtain rfl := lists.unique lists'
  obtain ⟨⟨left⟩, removed, dropped, leaves, counted, again⟩ := drops true
  have kept' : (items.filter fun item => ¬ ListsTest item).map recipe? = [kept].map some := by decide +kernel
  obtain rfl := (List.map_inj_right fun _ _ => Option.some.inj).1 (leaves.trans kept')
  obtain rfl : removed = 1 := Nat.add_right_cancel counted
  exact ⟨loaded, dropped, again false⟩

end Database

end CompileDb
