import CompileDb.Toml.Document
import Mathlib.Data.List.Nodup

/-!
# Documents name nothing twice

A document that gives a name twice in one table is refused. So in the tables of a document that is read, however
deep they lie, each name stands once (`namesOnce_of_read`). What carries this through the reading is the outline
under way: a change of one entry leaves the names of its table distinct (`NamesOnceIn.alter`), headers and dotted
keys are such changes along a path, and a line is one of these (`NamesOnceIn.line`).
-/

namespace CompileDb

/-- In every table of a value, however deep, no name stands twice. -/
inductive Value.NamesOnce : Value → Prop
  | null : NamesOnce .null
  | bool (b : Bool) : NamesOnce (.bool b)
  | number (n : Numeral) : NamesOnce (.number n)
  | text (t : Text) : NamesOnce (.text t)
  | moment (m : Moment) : NamesOnce (.moment m)
  | list {items : List Value} (inside : ∀ v ∈ items, NamesOnce v) : NamesOnce (.list items)
  | table {fields : Fields} (once : (fields.map Prod.fst).Nodup) (inside : ∀ f ∈ fields, NamesOnce f.2) :
      NamesOnce (.table fields)

namespace Toml

mutual

/-- In every table of a part under way, no name stands twice. -/
inductive Outline.NamesOnce : Outline → Prop
  | value {v : Value} (once : v.NamesOnce) : Outline.NamesOnce (.value v)
  | table {origin : Origin} {entries : Entries} (inside : NamesOnceIn entries) :
      Outline.NamesOnce (.table origin entries)
  | tables {latest : Entries} {earlier : List Entries} (last : NamesOnceIn latest)
      (others : ∀ entries ∈ earlier, NamesOnceIn entries) : Outline.NamesOnce (.tables latest earlier)

/-- No name stands twice among entries and in any of them. -/
inductive NamesOnceIn : Entries → Prop
  | intro {entries : Entries} (once : (entries.map Prod.fst).Nodup) (inside : ∀ e ∈ entries, Outline.NamesOnce e.2) :
      NamesOnceIn entries

end

namespace NamesOnceIn

variable {entries result : Entries} {name key : Text}

theorem once (h : NamesOnceIn entries) : (entries.map Prod.fst).Nodup := by
  cases h
  assumption

theorem inside (h : NamesOnceIn entries) : ∀ e ∈ entries, e.2.NamesOnce := by
  cases h
  assumption

theorem nil : NamesOnceIn [] := .intro .nil (by simp)

theorem cons_iff {o : Outline} :
    NamesOnceIn ((name, o) :: entries) ↔ name ∉ entries.map Prod.fst ∧ o.NamesOnce ∧ NamesOnceIn entries := by
  constructor
  · intro h
    obtain ⟨new, once⟩ := List.nodup_cons.1 h.once
    exact ⟨new, h.inside _ List.mem_cons_self, once, fun e listed => h.inside e (List.mem_cons_of_mem _ listed)⟩
  · rintro ⟨new, first, rest⟩
    exact ⟨List.nodup_cons.2 ⟨new, rest.once⟩, List.forall_mem_cons.2 ⟨first, rest.inside⟩⟩

/-- A change of an entry that brings no name in twice. -/
def Keeps (change : Option Outline → Option Outline) : Prop :=
  ∀ old new, (∀ o ∈ old, o.NamesOnce) → change old = some new → new.NamesOnce

/-- Altering an entry adds its name and no other. -/
theorem mem_names_alter {change : Option Outline → Option Outline} (altered : alter name change entries = some result) :
    key ∈ result.map Prod.fst ↔ key = name ∨ key ∈ entries.map Prod.fst := by
  induction entries generalizing result with
  | nil =>
    obtain ⟨o, -, rfl⟩ := Option.map_eq_some_iff.1 altered
    simp
  | cons e rest ih =>
    rw [alter] at altered
    split at altered
    · next same =>
      obtain ⟨o, -, rfl⟩ := Option.map_eq_some_iff.1 altered
      simp [← same]
    · obtain ⟨rest', altered', rfl⟩ := Option.map_eq_some_iff.1 altered
      rw [List.map_cons, List.mem_cons, ih altered', List.map_cons, List.mem_cons, or_left_comm]

/-- One entry is changed, or one more is added at the end. -/
theorem alter {change : Option Outline → Option Outline} (h : NamesOnceIn entries) (keeps : Keeps change)
    (altered : alter name change entries = some result) : NamesOnceIn result := by
  induction entries generalizing result with
  | nil =>
    obtain ⟨o, changed, rfl⟩ := Option.map_eq_some_iff.1 altered
    exact cons_iff.2 ⟨by simp, keeps _ _ (by simp) changed, nil⟩
  | cons e rest ih =>
    obtain ⟨n, old⟩ := e
    obtain ⟨new, first, others⟩ := cons_iff.1 h
    rw [Toml.alter] at altered
    split at altered
    · obtain ⟨o, changed, rfl⟩ := Option.map_eq_some_iff.1 altered
      exact cons_iff.2 ⟨new, keeps _ _ (by simpa using first) changed, others⟩
    · next other =>
      obtain ⟨rest', altered', rfl⟩ := Option.map_eq_some_iff.1 altered
      refine cons_iff.2 ⟨?_, first, ih others altered'⟩
      rw [mem_names_alter altered', not_or]
      exact ⟨other, new⟩

/-- A header changes the entry at the end of its path, through the tables on the way. -/
theorem onHeader {change : Option Outline → Option Outline} (keeps : Keeps change) {path : List Text}
    (h : NamesOnceIn entries) (changed : Toml.onHeader change path entries = some result) : NamesOnceIn result := by
  induction path generalizing entries result with
  | nil => cases changed
  | cons name path ih =>
    cases path with
    | nil => exact h.alter keeps changed
    | cons next path =>
      refine h.alter ?_ changed
      intro old new holds changed
      rcases old with _ | v | ⟨origin, inner⟩ | ⟨latest, earlier⟩
      · obtain ⟨inner, opened, rfl⟩ := Option.map_eq_some_iff.1 changed
        exact .table (ih nil opened)
      · cases changed
      · obtain ⟨inner', opened, rfl⟩ := Option.map_eq_some_iff.1 changed
        cases holds _ rfl with
        | table inside => exact .table (ih inside opened)
      · obtain ⟨latest', opened, rfl⟩ := Option.map_eq_some_iff.1 changed
        cases holds _ rfl with
        | tables last others => exact .tables (ih last opened) others

/-- Opening a table names nothing twice. -/
theorem openTable {path : List Text} (h : NamesOnceIn entries)
    (opened : Toml.openTable path entries = some result) : NamesOnceIn result := by
  refine h.onHeader ?_ opened
  intro old new holds changed
  rcases old with _ | v | ⟨_ | _ | _, inner⟩ | ⟨latest, earlier⟩
  · obtain rfl := Option.some.inj changed
    exact .table nil
  · cases changed
  · cases changed
  · obtain rfl := Option.some.inj changed
    cases holds _ rfl with
    | table inside => exact .table inside
  · cases changed
  · cases changed

/-- Opening a listed table names nothing twice. -/
theorem openListed {path : List Text} (h : NamesOnceIn entries)
    (opened : Toml.openListed path entries = some result) : NamesOnceIn result := by
  refine h.onHeader ?_ opened
  intro old new holds changed
  rcases old with _ | v | ⟨origin, inner⟩ | ⟨latest, earlier⟩
  · obtain rfl := Option.some.inj changed
    exact .tables nil (by simp)
  · cases changed
  · cases changed
  · obtain rfl := Option.some.inj changed
    cases holds _ rfl with
    | tables last others => exact .tables nil (List.forall_mem_cons.2 ⟨last, others⟩)

/-- The table that a header names is changed as a whole. -/
theorem within {change : Entries → Option Entries}
    (keeps : ∀ inner inner', NamesOnceIn inner → change inner = some inner' → NamesOnceIn inner')
    {path : List Text} (h : NamesOnceIn entries) (changed : Toml.within change path entries = some result) :
    NamesOnceIn result := by
  induction path generalizing entries result with
  | nil => exact keeps _ _ h changed
  | cons name path ih =>
    refine h.alter ?_ changed
    intro old new holds changed
    rcases old with _ | v | ⟨origin, inner⟩ | ⟨latest, earlier⟩
    · cases changed
    · cases changed
    · obtain ⟨inner', opened, rfl⟩ := Option.map_eq_some_iff.1 changed
      cases holds _ rfl with
      | table inside => exact .table (ih inside opened)
    · obtain ⟨latest', opened, rfl⟩ := Option.map_eq_some_iff.1 changed
      cases holds _ rfl with
      | tables last others => exact .tables (ih last opened) others

/-- A value is added under a dotted key. -/
theorem assign {v : Value} (once : v.NamesOnce) {path : List Text} (h : NamesOnceIn entries)
    (added : Toml.assign v path entries = some result) : NamesOnceIn result := by
  induction path generalizing entries result with
  | nil => cases added
  | cons name path ih =>
    cases path with
    | nil =>
      refine h.alter ?_ added
      intro old new _ changed
      cases old with
      | none =>
        obtain rfl := Option.some.inj changed
        exact .value once
      | some o => cases changed
    | cons next path =>
      refine h.alter ?_ added
      intro old new holds changed
      rcases old with _ | v | ⟨_ | _ | _, inner⟩ | ⟨latest, earlier⟩
      · obtain ⟨inner, opened, rfl⟩ := Option.map_eq_some_iff.1 changed
        exact .table (ih nil opened)
      · cases changed
      · cases changed
      · obtain ⟨inner', opened, rfl⟩ := Option.map_eq_some_iff.1 changed
        cases holds _ rfl with
        | table inside => exact .table (ih inside opened)
      · obtain ⟨inner', opened, rfl⟩ := Option.map_eq_some_iff.1 changed
        cases holds _ rfl with
        | table inside => exact .table (ih inside opened)
      · cases changed

end NamesOnceIn

theorem map_fst_closeEntries (entries : Entries) : (closeEntries entries).map Prod.fst = entries.map Prod.fst := by
  induction entries with
  | nil => rfl
  | cons e rest ih => rw [closeEntries, List.map_cons, List.map_cons, ih]

mutual

/-- A part whose document is read to its end has the names that it had under way. -/
theorem Outline.NamesOnce.close : ∀ {o : Outline}, o.NamesOnce → o.close.NamesOnce
  | .value _, .value once => once
  | .table _ entries, .table inside =>
    .table (map_fst_closeEntries entries ▸ inside.once) (namesOnce_of_mem_closeEntries entries inside.inside)
  | .tables latest earlier, .tables last others => by
    apply Value.NamesOnce.list
    intro v listed
    rcases List.mem_cons.1 (List.mem_reverse.1 listed) with rfl | listed
    · exact .table (map_fst_closeEntries latest ▸ last.once) (namesOnce_of_mem_closeEntries latest last.inside)
    · exact namesOnce_of_mem_closeAll earlier others v listed

theorem namesOnce_of_mem_closeEntries : ∀ entries : Entries, (∀ e ∈ entries, e.2.NamesOnce) →
    ∀ f ∈ closeEntries entries, f.2.NamesOnce
  | [], _, f, listed => by cases listed
  | (name, o) :: rest, inside, f, listed => by
    rcases List.mem_cons.1 listed with rfl | listed
    · exact Outline.NamesOnce.close (o := o) (inside _ List.mem_cons_self)
    · exact namesOnce_of_mem_closeEntries rest (fun e h => inside e (List.mem_cons_of_mem _ h)) f listed

theorem namesOnce_of_mem_closeAll : ∀ tables : List Entries, (∀ entries ∈ tables, NamesOnceIn entries) →
    ∀ v ∈ closeAll tables, v.NamesOnce
  | [], _, v, listed => by cases listed
  | entries :: rest, each, v, listed => by
    rcases List.mem_cons.1 listed with rfl | listed
    · have first := each entries List.mem_cons_self
      exact .table (map_fst_closeEntries entries ▸ first.once) (namesOnce_of_mem_closeEntries entries first.inside)
    · exact namesOnce_of_mem_closeAll rest (fun e h => each e (List.mem_cons_of_mem _ h)) v listed

end

/-- Closing entries leaves a table that names nothing twice. -/
theorem NamesOnceIn.closeEntries {entries : Entries} (h : NamesOnceIn entries) :
    (Value.table (Toml.closeEntries entries)).NamesOnce :=
  .table (map_fst_closeEntries entries ▸ h.once) (namesOnce_of_mem_closeEntries entries h.inside)

section Reading

variable {limits : Limits} {fuel room : Nat} {text rest : List Char} {v : Value}

theorem orMalformed_eq_ok_iff {α : Type} {found : Option α} {a : α} : orMalformed found = .ok a ↔ found = some a := by
  cases found <;> simp [orMalformed]

theorem namesOnce_of_bare? (read : bare? limits text = some (v, rest)) : v.NamesOnce := by
  rw [bare?] at read
  generalize bareWord text = cut at read
  obtain ⟨word, behind⟩ := cut
  dsimp only at read
  split at read
  · cases read
    exact .bool true
  · split at read
    · cases read
      exact .bool false
    · split at read
      · cases read
        exact .moment _
      · obtain ⟨n, -, same⟩ := Option.map_eq_some_iff.1 read
        cases same
        exact .number n

theorem namesOnce_of_scalar? (read : scalar? limits fuel text = some (v, rest)) : v.NamesOnce := by
  unfold scalar? at read
  split at read
  · obtain ⟨found, -, same⟩ := Option.map_eq_some_iff.1 read
    cases same
    exact .text _
  · obtain ⟨found, -, same⟩ := Option.map_eq_some_iff.1 read
    cases same
    exact .text _
  · exact namesOnce_of_bare? read

/-- With so much fuel, what is read of values names nothing twice, as long as what was read before does not. -/
structure ReadsNamesOnce (limits : Limits) (fuel : Nat) : Prop where
  value {room : Nat} {text rest : List Char} {v : Value} (read : value limits fuel room text = .ok (v, rest)) :
    v.NamesOnce
  items {room : Nat} {front : List Value} {text rest : List Char} {v : Value} (inside : ∀ w ∈ front, w.NamesOnce)
    (read : items limits fuel room front text = .ok (v, rest)) : v.NamesOnce
  fields {room : Nat} {front : Entries} {text rest : List Char} {v : Value} (inside : NamesOnceIn front)
    (read : fields limits fuel room front text = .ok (v, rest)) : v.NamesOnce

namespace ReadsNamesOnce

variable (inner : ReadsNamesOnce limits fuel)
include inner

theorem value_succ (read : Toml.value limits (fuel + 1) room text = .ok (v, rest)) : v.NamesOnce := by
  unfold Toml.value at read
  split at read
  · split at read
    · cases read
    · exact inner.items (by simp) read
  · split at read
    · cases read
    · split at read
      · cases read
        exact .table .nil (by simp)
      · exact inner.fields .nil read
  · exact namesOnce_of_scalar? (orMalformed_eq_ok_iff.1 read)

theorem items_succ {front : List Value} (inside : ∀ w ∈ front, w.NamesOnce)
    (read : Toml.items limits (fuel + 1) room front text = .ok (v, rest)) : v.NamesOnce := by
  rw [Toml.items] at read
  split at read
  · cases read
  · cases read
    exact .list fun w listed => inside w (List.mem_reverse.1 listed)
  · split at read
    · cases read
    · next item _ found =>
      have further : ∀ w ∈ item :: front, w.NamesOnce := List.forall_mem_cons.2 ⟨inner.value found, inside⟩
      split at read
      · exact inner.items further read
      · cases read
        exact .list fun w listed => further w (List.mem_reverse.1 listed)
      · cases read

theorem fields_succ {front : Entries} (inside : NamesOnceIn front)
    (read : Toml.fields limits (fuel + 1) room front text = .ok (v, rest)) : v.NamesOnce := by
  rw [Toml.fields] at read
  split at read
  · split at read
    · cases read
    · next found =>
      split at read
      · next added _ =>
        cases read
        exact (inside.assign (inner.value found) added).closeEntries
      · next added _ => exact inner.fields (inside.assign (inner.value found) added) read
      · cases read
  · cases read

end ReadsNamesOnce

/-- Values, items and inline tables name nothing twice, by induction on the fuel. -/
theorem readsNamesOnce (limits : Limits) (fuel : Nat) : ReadsNamesOnce limits fuel := by
  induction fuel with
  | zero => exact ⟨fun read => (by cases read), fun _ read => (by cases read), fun _ read => (by cases read)⟩
  | succ fuel inner => exact ⟨inner.value_succ, inner.items_succ, inner.fields_succ⟩

/-- A header keeps the draft free of repetitions. -/
theorem NamesOnceIn.header? {draft draft' : Draft} {listed : Bool} (h : NamesOnceIn draft.root)
    (read : draft.header? fuel listed text = some (draft', rest)) : NamesOnceIn draft'.root := by
  unfold Draft.header? at read
  split at read
  · cases read
  · dsimp only at read
    split at read
    · next opened _ =>
      cases read
      cases listed with
      | false => exact h.openTable opened
      | true => exact h.openListed opened
    · cases read

theorem NamesOnceIn.assignment {draft draft' : Draft} (h : NamesOnceIn draft.root)
    (read : draft.assignment limits fuel text = .ok (draft', rest)) : NamesOnceIn draft'.root := by
  unfold Draft.assignment at read
  split at read
  · split at read
    · cases read
    · cases read
    · next v _ found =>
      obtain ⟨root, placed, same⟩ := Option.map_eq_some_iff.1 (orMalformed_eq_ok_iff.1 read)
      cases same
      refine h.within ?_ placed
      intro inner inner' inside added
      exact inside.assign ((readsNamesOnce limits fuel).value found) added
  · cases read

/-- One line more. -/
theorem NamesOnceIn.line {draft draft' : Draft} (h : NamesOnceIn draft.root)
    (read : draft.line limits fuel text = .ok (draft', rest)) : NamesOnceIn draft'.root := by
  unfold Draft.line at read
  split at read
  · cases read
    exact h
  · cases read
    exact h
  · cases read
    exact h
  · exact h.header? (orMalformed_eq_ok_iff.1 read)
  · exact h.header? (orMalformed_eq_ok_iff.1 read)
  · exact h.assignment read

/-- Line by line. -/
theorem NamesOnceIn.lines {count : Nat} {draft draft' : Draft} (h : NamesOnceIn draft.root)
    (read : draft.lines limits fuel count text = .ok draft') : NamesOnceIn draft'.root := by
  induction count generalizing draft text with
  | zero => cases read
  | succ count ih =>
    cases text with
    | nil =>
      cases read
      exact h
    | cons c text =>
      simp only [Draft.lines] at read
      split at read
      · cases read
      · next found =>
        split at read
        · cases read
        · exact ih (h.line found) read

/-- **A document names nothing twice**, in no table of it. -/
theorem namesOnce_of_read {document : Value.Fields} (read : Toml.read limits text = .ok document) :
    (Value.table document).NamesOnce := by
  unfold Toml.read at read
  split at read
  · next found =>
    cases read
    exact (NamesOnceIn.nil.lines found).closeEntries
  · cases read
  · split at read
    · cases read
    · cases read

end Reading

end Toml

end CompileDb
