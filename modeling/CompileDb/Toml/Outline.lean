import CompileDb.Value

/-!
# Outlines of TOML documents

While a document is read, its tables are open to further fields under rules that depend on how each
came about: a header may give fields to a table that was only implied so far, but none to one that
has had its header; a dotted key may go on through tables made by dotted keys and through those that
were only implied, which then count as made by it; and a value, an inline table among them, is
closed. An `Outline` keeps that knowledge. Every function answers `none` when the rules forbid what
it is asked to do.
-/

namespace CompileDb.Toml

/-- How a table came about. -/
inductive Origin where
  /-- Its own header. -/
  | header
  /-- The header of a table inside of it. -/
  | implied
  /-- A dotted key. -/
  | dotted
  deriving DecidableEq

/-- A part of a document under way. -/
inductive Outline where
  /-- A value, which is closed. -/
  | value (v : Value)
  /-- A table. -/
  | table (origin : Origin) (entries : List (Text × Outline))
  /-- A list of tables, the latest apart and those in front of it in reverse. -/
  | tables (latest : List (Text × Outline)) (earlier : List (List (Text × Outline)))

/-- The entries of a table under way. -/
abbrev Entries := List (Text × Outline)

/-- Changes the entry of a name, or adds one at the end. -/
def alter (name : Text) (change : Option Outline → Option Outline) : Entries → Option Entries
  | [] => (change none).map fun o => [(name, o)]
  | (n, o) :: rest =>
    if n = name then (change (some o)).map fun o => (n, o) :: rest
    else (alter name change rest).map ((n, o) :: ·)

/-- Changes the entry that a header names, through the tables on the way to it. -/
def onHeader (change : Option Outline → Option Outline) : List Text → Entries → Option Entries
  | [], _ => none
  | [name], entries => alter name change entries
  | name :: next :: path, entries =>
    alter name (fun
      | none => (onHeader change (next :: path) []).map (.table .implied)
      | some (.table origin inner) =>
        (onHeader change (next :: path) inner).map (.table origin)
      | some (.tables latest earlier) =>
        (onHeader change (next :: path) latest).map fun latest => .tables latest earlier
      | some (.value _) => none) entries

/-- Opens the table of a header. -/
def openTable (path : List Text) (entries : Entries) : Option Entries :=
  onHeader (fun
    | none => some (.table .header [])
    | some (.table .implied inner) => some (.table .header inner)
    | _ => none) path entries

/-- Opens one more table in the list of tables of a header. -/
def openListed (path : List Text) (entries : Entries) : Option Entries :=
  onHeader (fun
    | none => some (.tables [] [])
    | some (.tables latest earlier) => some (.tables [] (latest :: earlier))
    | _ => none) path entries

/-- Changes the entries of the table that was opened last, which a header names. -/
def within (change : Entries → Option Entries) : List Text → Entries → Option Entries
  | [], entries => change entries
  | name :: path, entries =>
    alter name (fun
      | some (.table origin inner) => (within change path inner).map (.table origin)
      | some (.tables latest earlier) =>
        (within change path latest).map fun latest => .tables latest earlier
      | _ => none) entries

/-- Adds a value under a dotted key. -/
def assign (v : Value) : List Text → Entries → Option Entries
  | [], _ => none
  | [name], entries =>
    alter name (fun
      | none => some (.value v)
      | some _ => none) entries
  | name :: next :: path, entries =>
    alter name (fun
      | none => (assign v (next :: path) []).map (.table .dotted)
      | some (.table .header _) => none
      | some (.table _ inner) => (assign v (next :: path) inner).map (.table .dotted)
      | _ => none) entries

mutual

/-- The value of a part whose document is read to its end. -/
def Outline.close : Outline → Value
  | .value v => v
  | .table _ entries => .table (closeEntries entries)
  | .tables latest earlier => .list (.table (closeEntries latest) :: closeAll earlier).reverse

/-- The fields of a table whose document is read to its end. -/
def closeEntries : List (Text × Outline) → Value.Fields
  | [] => []
  | (name, o) :: rest => (name, o.close) :: closeEntries rest

/-- The values of tables whose document is read to its end. -/
def closeAll : List (List (Text × Outline)) → List Value
  | [] => []
  | entries :: rest => .table (closeEntries entries) :: closeAll rest

end

end CompileDb.Toml
