import CompileDb.Database

/-!
# Steps on a database

A database in use is loaded, narrowed and looked at, in any order and any number of times, and each
step that does not fail has an answer; the steps are the methods of `CompileOptionSet`. A step that fails
leaves the database as it was, and so does one that only looks. The disk can change between two steps, so
a `Move` is a step with the disk it finds.
-/

namespace CompileDb.Database

/-- Where a database is loaded from. -/
inductive Source where
  /-- A build directory or a file, whichever is there. -/
  | anywhere
  /-- A build directory. -/
  | directory
  /-- A file. -/
  | file
  deriving DecidableEq

/-- Loads a database from a source. -/
def loadFrom : Source → Disk → Path → Outcome Database
  | .anywhere => load
  | .directory => loadDirectory
  | .file => loadFile

/-- What can be looked at in a database. -/
inductive View where
  /-- The number of recipes. -/
  | size
  /-- The source of each recipe. -/
  | sources
  /-- The recipes. -/
  | recipes
  /-- The arguments of each recipe for the categories in a selector. -/
  | arguments (selector : Selector)
  /-- The table of the recipes. -/
  | table
  deriving DecidableEq

/-- What a step has to say. -/
inductive Answer where
  /-- How many recipes there are. -/
  | count (recipes : Nat)
  /-- How many recipes were taken out. -/
  | removed (recipes : Nat)
  | sources (paths : List Path)
  | recipes (recipes : List Recipe)
  | arguments (lists : List (List Text))
  | table (table : Table)
  deriving DecidableEq

/-- What is seen of a database. -/
def view (d : Database) : View → Answer
  | .size => .count d.size
  | .sources => .sources (d.recipes.map Recipe.source)
  | .recipes => .recipes d.recipes
  | .arguments selector => .arguments (d.recipes.map fun r => r.arguments selector)
  | .table => .table d.table

/-- One thing that is done with a database. -/
inductive Step where
  /-- Another database takes its place. -/
  | load (source : Source) (path : Path)
  /-- The recipes that fail a test are taken out. -/
  | keep (test : Recipe → Bool)
  /-- The test sources are taken out. -/
  | dropTests (toConsole : Bool)
  /-- It is looked at. -/
  | observe (view : View := .size)

/-- What a step comes to: the database it leaves, and how many recipes it took out. -/
def Step.outcome (disk : Disk) (d : Database) : Step → Outcome (Database × Nat)
  | load source path => do
    let loaded ← loadFrom source disk path
    return (loaded, 0)
  | keep test => pure (d.keep test, d.removedBy test)
  | dropTests toConsole => d.dropTests toConsole
  | observe _ => pure (d, 0)

/-- What a step says when it has left a database and taken out a number of recipes. -/
def Step.answer (left : Database) (removed : Nat) : Step → Answer
  | load .. => .count left.size
  | keep _ | dropTests _ => .removed removed
  | observe view => left.view view

/-- The database after a step. -/
def after (disk : Disk) (d : Database) (step : Step) : Database :=
  match (step.outcome disk d).result with
  | .ok (left, _) => left
  | .error _ => d

/-- A step and the disk that it finds. -/
structure Move where
  disk : Disk
  step : Step

/-- The database after moves, from a given one on. -/
def afterMoves (d : Database) (moves : List Move) : Database :=
  moves.foldl (fun d move => d.after move.disk move.step) d

/-- The database after moves, from a database without recipes on. -/
def afterAll (moves : List Move) : Database := afterMoves {} moves

/-- What the steps of moves come to in turn, from a given database on. -/
def outcomes (d : Database) : List Move → List (Outcome (Database × Nat))
  | [] => []
  | move :: rest => move.step.outcome move.disk d :: outcomes (d.after move.disk move.step) rest

end CompileDb.Database
