import CompileDb.CommandLine.Request
import CompileDb.Settings
import CompileDb.Survey
import CompileDb.Text.Control

/-!
# Sessions

`perform` carries out a command in a world, and `session` a whole command line: `tabulate` is the
command `show_options`, `echoArguments` is `show_arguments` and `surveyInput` is `process`. How a
session ends decides the exit code and what is written to the error stream (`Ending`).

Plain text goes to streams that are no terminals, so it is written without control sequences, and as
UTF-8. A surrogate without its partner has no bytes there. The output refuses a text that holds one
(`echo`), and ends the session with it; the error stream takes such a text and writes an escape for the
surrogate. Markup and tables are handed to a console, which lays them out by itself and is left out.
-/

namespace CompileDb.CommandLine

/-- What the program finds when it is started. -/
structure World where
  /-- What there is on the file system. -/
  disk : Disk
  /-- The parser. -/
  index : Index
  /-- The library that the parser comes from. -/
  library : Library := {}
  /-- The library file that the environment names. -/
  namedLibrary : Option Text := none
  /-- Where the settings are. -/
  settingsFile : Path
  /-- The reader of the settings. -/
  reader : Settings.Reader := .toml

def versionLine : Text := "cxt v0.1.0\n"

/-- Plain text as it is shown. -/
def echoed (text : Text) : Event := .echoed (Text.withoutSequences text)

/-- Writes plain text to the output, if there are bytes for it. -/
def echo (text : Text) : Outcome Unit :=
  if (Text.Utf8.encode? (Text.withoutSequences text)).isSome then Outcome.display (echoed text)
  else Outcome.fail (.unencodable (Text.withoutSequences text))

/-- Loads a database and takes the test sources out of it, unless they are to be kept. -/
def loadInput (disk : Disk) (input : Path) (keepTests : Bool) (settings : Settings) :
    Outcome Database := do
  let database ← Database.load disk input
  if !keepTests && settings.excludesTests then
    let (left, _) ← database.dropTests true
    return left
  else return database

/-- Shows the recipes of a database. -/
def tabulate (world : World) (input : Path) (keepTests : Bool) : Outcome Unit := do
  let settings ← Settings.load world.reader world.disk world.settingsFile
  let database ← loadInput world.disk input keepTests settings
  Outcome.display (.tabulated database.table)

/-- The recipes of a source: those whose source is written in this way, or else those whose source
has the same name. -/
def recipesOf (database : Database) (source : Text) : List Recipe :=
  let exact := database.recipes.filter fun r =>
    r.source.text == source || r.anchoredSource.text == source
  if exact.isEmpty then
    database.recipes.filter fun r => r.source.name == (Path.ofText source).name
  else exact

/-- The line with the arguments of a recipe. -/
def argumentsLine (selector : Selector) (r : Recipe) : Text :=
  Words.join (r.arguments selector) ++ "\n"

/-- Shows the arguments for a source. -/
def echoArguments (world : World) (input : Path) (source : Text) (all : Bool) : Outcome Unit := do
  let database ← Database.load world.disk input
  let recipes := recipesOf database source
  if recipes.isEmpty then
    Outcome.fail (.misuse (.rejected ("'" ++ source ++ "' is not in the compilation database.")))
  else
    let selector := if all then Selector.all else Selector.forIndexing
    recipes.forM fun r => echo (argumentsLine selector r)

/-- The visitor of a mode. -/
def visitorOf (mode : Text) : Outcome Ast.Visitor :=
  match Ast.Visitor.byName.lookup mode with
  | some visitor => pure visitor
  | none =>
    Outcome.fail (.misuse (.rejected
      ("Mode must be one of: " ++ List.intercalate ", " (Ast.Visitor.byName.map Prod.fst))))

/-- The line that sums up a survey. -/
def summaryLine (report : Survey.Report) : Text :=
  "Processed " ++ toString report.processed ++ " file(s), " ++ toString report.failed.length ++
    " failed. Nodes: " ++ toString report.nodes ++ " | Matched: " ++ toString report.matched ++ "\n"

/-- Makes the index, from the library file that the environment or the settings name. -/
def startIndex (world : World) (settings : Settings) : Outcome Unit := do
  let file ← Outcome.ofExcept (Settings.chosenLibrary world.namedLibrary settings.document)
  world.library.start file

/-- Surveys what is left of a database. -/
def survey (world : World) (settings : Settings) (plan : Survey.Plan) (database : Database) :
    Outcome Unit := do
  if database.recipes.isEmpty then echo "Nothing to process.\n"
  else
    startIndex world settings
    let report ← plan.run database.recipes
    echo (summaryLine report)

/-- Kinds to ignore; none of them is the same as none given. -/
def givenKinds (kinds : List Text) : Option (List Text) := if kinds.isEmpty then none else some kinds

/-- Surveys the sources of a database. -/
def surveyInput (world : World) (input : Path) (mode : Text) (ignoredKinds includeDirs : List Text)
    (keepTests showOptions : Bool) : Outcome Unit := do
  let visitor ← visitorOf mode
  let settings ← Settings.load world.reader world.disk world.settingsFile
  let configuredKinds ← Outcome.ofExcept settings.ignoredKinds
  let configuredDirs ← Outcome.ofExcept settings.includeDirs
  let database ← loadInput world.disk input keepTests settings
  if showOptions then Outcome.display (.tabulated database.table)
  let plan : Survey.Plan :=
    { disk := world.disk, index := world.index, visitor
      includeDirs := configuredDirs.map (· ++ includeDirs)
      ignored := givenKinds (configuredKinds ++ ignoredKinds) }
  survey world settings plan database

/-- Carries out a command. The help screen is the business of whoever owns the terminal. -/
def perform (world : World) : Command → Outcome Unit
  | .version => echo versionLine
  | .help => pure ()
  | .options input keepTests => tabulate world (.ofText input) keepTests
  | .arguments input source all => echoArguments world (.ofText input) source all
  | .process input mode kinds dirs keepTests showOptions =>
    surveyInput world (.ofText input) mode kinds dirs keepTests showOptions

/-- How a session ends. -/
inductive Ending where
  /-- All was done. -/
  | done
  /-- The user is told what was in the way. -/
  | fatal (fault : Fault)
  /-- The command line was wrong. -/
  | misused (misuse : Misuse)
  /-- Something nobody foresaw. -/
  | crashed (failure : Failure)
  deriving DecidableEq

namespace Ending

/-- The ending that a result means. -/
def ofResult : Except Failure Unit → Ending
  | .ok () => done
  | .error (.fault fault) => fatal fault
  | .error (.misuse misuse) => misused misuse
  | .error failure => crashed failure

/-- The exit code, where the program itself decides on it. -/
def exitCode? : Ending → Option Nat
  | done => some 0
  | fatal _ => some 1
  | misused _ => some 2
  | crashed _ => none

/-- What an ending writes to the error stream, where the notices of a session go as well. -/
def errorText : Ending → Text
  | fatal fault => Text.withoutSequences ("fatal error: " ++ fault.message ++ "\n")
  | _ => ""

end Ending

/-- What a session leaves behind. -/
structure Session where
  /-- The notices that are shown. -/
  notices : List Notice := []
  /-- What was done. -/
  trace : Trace := ∅
  /-- How it ended. -/
  ending : Ending
  deriving DecidableEq

/-- Whether a notice is shown. -/
def isShown (verbose : Bool) (notice : Notice) : Bool :=
  verbose || decide (Level.warning.rank ≤ notice.level.rank)

/-- The session of a request. -/
def Request.session (world : World) (request : Request) : Session :=
  let outcome := perform world request.command
  { notices := outcome.trace.notices.filter (isShown request.verbose)
    trace := outcome.trace
    ending := .ofResult outcome.result }

def session (world : World) (arguments : List Text) : Session :=
  match Request.parse arguments with
  | .error misuse => { ending := .misused misuse }
  | .ok request => request.session world

end CompileDb.CommandLine
