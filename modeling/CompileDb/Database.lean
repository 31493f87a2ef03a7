import CompileDb.Disk
import CompileDb.Outcome
import CompileDb.Recipe

/-!
# Compilation databases

A database is the list of recipes for the sources of a project (`CompileOptionSet`). It is loaded from a
file (`loadFile`, which is `from_file`), or from the file `compile_commands.json` of a build
directory (`loadDirectory`, which is `from_dir`), or from whichever of both a path leads to (`load`, which
is `from_path`), as a whole or not at all. Afterwards it can only be narrowed: `keep` with `removedBy` is
`retain`, and `dropTests` is `exclude_tests`. `table` is `render_table`.

Loading asks a disk once what is there. That a file changes between the question whether it exists and its
reading is left out.
-/

namespace CompileDb

/-- The recipes of a project, in the order of its compilation database. -/
structure Database where
  recipes : List Recipe := []
  deriving DecidableEq

namespace Database

/-- The file of a build directory that holds its compilation database. -/
def fileName : Text := "compile_commands.json"

/-- The compilation database of a build directory. -/
def fileIn (directory : Path) : Path := directory / .ofText fileName

/-- The limits of the reader of databases. -/
def limits : Limits := {}

/-- The entries that the contents of a file state. -/
def entriesOf (path : Path) : Contents → Except Failure (List Entry)
  | .refused reason => .error (.unreadable path reason)
  | .bytes bytes =>
    match Text.Utf8.decode bytes with
    | .error fault => .error (.fault (.malformed (.undecodable path fault)))
    | .ok text =>
      match Json.read limits (Text.unifyLineEnds text) with
      | .error (.fault fault) => .error (.fault (.malformed (.notADocument path fault)))
      | .error (.excess excess) => .error (.excessive excess)
      | .ok document =>
        match Entry.allOfValue document with
        | .error fault => .error (.fault (.malformed (.misshapen fault)))
        | .ok entries => .ok entries

/-- The database of a list of entries. -/
def ofEntries (entries : List Entry) : Outcome Database :=
  ⟨{ notices := entries.flatMap fun entry => Switch.notices entry.command },
    .ok ⟨entries.map Recipe.ofEntry⟩⟩

/-- The database that the contents of a file state. -/
def ofContents (path : Path) (contents : Contents) : Outcome Database := do
  Outcome.notify [.readingDatabase path]
  let entries ← Outcome.ofExcept (entriesOf path contents)
  let database ← ofEntries entries
  Outcome.notify [.databaseRead database.recipes.length path]
  return database

/-- Loads a database from a file. -/
def loadFile (disk : Disk) (path : Path) : Outcome Database :=
  match disk.look path with
  | .outOfReach => Outcome.fail (.outOfReach path)
  | .absent => Outcome.fail (.fault (.notFound path .file))
  | .directory | .special _ => Outcome.fail (.fault (.notAFile path))
  | .file contents => ofContents path contents

/-- Loads the database of a build directory. -/
def loadDirectory (disk : Disk) (path : Path) : Outcome Database :=
  match disk.look path with
  | .outOfReach => Outcome.fail (.outOfReach path)
  | .absent => Outcome.fail (.fault (.notFound path .directory))
  | .file _ | .special _ => Outcome.fail (.fault (.notADirectory path))
  | .directory => loadFile disk (fileIn path)

/-- Loads a database from a build directory or a file, whichever is there. -/
def load (disk : Disk) (path : Path) : Outcome Database :=
  match disk.look path with
  | .outOfReach => Outcome.fail (.outOfReach path)
  | .directory => loadFile disk (fileIn path)
  | _ => loadFile disk path

def size (d : Database) : Nat := d.recipes.length

/-- The database without the recipes that fail a test. -/
def keep (d : Database) (test : Recipe → Bool) : Database := ⟨d.recipes.filter test⟩

/-- How many recipes fail a test. -/
def removedBy (d : Database) (test : Recipe → Bool) : Nat := d.size - (d.keep test).size

/-- Whether the source of a recipe is taken for a test, for its path speaks of one. -/
def isTest (r : Recipe) : Bool := Text.holds "test" r.source.text

/-- Takes the test sources out of a database and tells how many there were. The console is told as
well, when there is one. -/
def dropTests (d : Database) (toConsole : Bool) : Outcome (Database × Nat) :=
  let left := d.keep fun r => !isTest r
  let removed := d.removedBy fun r => !isTest r
  let shown : Event := .printed
    ("🧹 discarded " ++ toString removed ++ " test file(s), " ++ toString left.size ++ " remaining")
  ⟨{ notices := [.testsDiscarded removed left.size]
     events := if toConsole then [shown] else [] }, .ok (left, removed)⟩

/-- The cell for the warnings of a recipe. -/
def warningsCell (r : Recipe) : Text :=
  let names := List.intercalate ", " r.warnings
  if r.warningsAsErrors then
    if names = "" then "[red](as errors)[/red]" else names ++ " [red](as errors)[/red]"
  else if names = "" then "-"
  else names

def row (r : Recipe) : List Text :=
  [r.source.text, r.standard, toString r.definitions.length, toString r.includeDirs.length,
   toString r.systemDirs.length, warningsCell r]

/-- A table with a row for each recipe. -/
def table (d : Database) : Table where
  title := "Compile options (" ++ toString d.size ++ ")"
  columns :=
    [{ header := "Source", style := "magenta" }, { header := "Std", style := "cyan" },
     { header := "Defs", justify := .right }, { header := "Includes", justify := .right },
     { header := "System", justify := .right }, { header := "Warnings" }]
  rows := d.recipes.map row

end Database

end CompileDb
