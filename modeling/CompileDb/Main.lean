import CompileDb.CommandLine.Session
import CompileDb.Settings.Home

/-!
# The program

The outer layer: it looks at the paths that a command line is about, runs the session on what it
saw, and writes out what the session leaves behind. No parser library is linked into the program,
so the index cannot be made; everything that does without it is complete.
-/

namespace CompileDb.Terminal

open CommandLine


/-- The code by which the system says that a name is too long. -/
def nameTooLongCode : UInt32 := 36

/-- What an error of the system says about a path that leads to nothing. -/
def itemOfError : IO.Error → Item
  | .permissionDenied .. => .outOfReach
  | .invalidArgument _ code _ | .otherError code _ => if code = nameTooLongCode then .outOfReach else .absent
  | _ => .absent

/-- What reading a file gives. -/
def contentsOf (path : String) : IO Contents := do
  match ← (IO.FS.readBinFile path).toBaseIO with
  | .ok bytes => return .bytes bytes.toList
  | .error e => return .refused (toString e)

/-- Looks at a path. What is no regular file is not read, for reading might never come to an end. -/
def lookAt (path : Path) : IO Item := do
  if !Tree.canBeStored path then return .absent
  match ← (IO.FS.realPath path.text.shown).toBaseIO with
  | .ok resolved =>
    match (← resolved.metadata).type with
    | .dir => return .directory
    | .file => return .file (← contentsOf path.text.shown)
    | _ => return .special (.refused "no regular file")
  | .error _ =>
    -- Resolving a path tells every error as a missing file, so the reason is asked for once more.
    match ← (IO.FS.readBinFile path.text.shown).toBaseIO with
    | .ok _ => return .absent
    | .error e => return itemOfError e

/-- A disk that knows the given paths. -/
def snapshot (paths : List Path) : IO Disk := do
  let seen ← paths.mapM fun path => return (path, ← lookAt path)
  return ⟨fun path => (seen.lookup path).getD .absent⟩

def inputOf : Command → Option Path
  | .options input _ | .arguments input _ _ | .process input _ _ _ _ _ => some (.ofText input)
  | .version | .help => none

/-- The paths that a command is about, apart from the sources of its database. -/
def pathsOf (settingsFile : Path) (command : Command) : List Path :=
  match inputOf command with
  | none => []
  | some input => [settingsFile, input, Database.fileIn input]

/-- The sources of the database that a command loads. -/
def sourcesOf (disk : Disk) (command : Command) : List Path :=
  match inputOf command with
  | none => []
  | some input =>
    match (Database.load disk input).result with
    | .ok database => database.recipes.map Recipe.anchoredSource
    | .error _ => []

/-- An index that can parse nothing. -/
def absentIndex : Index := ⟨fun _ _ => .refused "no parser is linked into this program"⟩

/-- A library that cannot be loaded. -/
def absentLibrary : Library :=
  { fault := some (.unavailable "no parser is linked into this program") }

def worldOf (settingsFile : Path) (command : Command) : IO World := do
  let paths := pathsOf settingsFile command
  let sources := sourcesOf (← snapshot paths) command
  return {
    disk := ← snapshot (paths ++ sources)
    index := absentIndex
    library := absentLibrary
    namedLibrary := (← IO.getEnv "CLANG_LIBRARY_FILE").map Text.ofString
    settingsFile }

/-- A cell in a column of the given width. -/
def cell (width : Nat) (justify : Justify) (text : String) : String :=
  let blanks := "".pushn ' ' (width - text.length)
  match justify with
  | .left => text ++ blanks
  | .right => blanks ++ text

def rowLine (columns : List (Column × Nat)) (row : List String) : String :=
  "  ".intercalate ((columns.zip row).map fun ((column, width), text) =>
    cell width column.justify text)

/-- A table as lines of text. -/
def tableLines (t : Table) : List String :=
  let header := t.columns.map fun column => column.header.shown
  let rows := t.rows.map fun row => row.map fun text => (Markup.plain text).shown
  let widths := t.columns.zipIdx.map fun (column, i) =>
    (column, ((header :: rows).map fun row => (row[i]?.getD "").length).foldl max 0)
  t.title.shown :: (header :: rows).map (rowLine widths)

def eventText : Event → String
  | .printed markup => (Markup.plain markup).shown ++ "\n"
  | .tabulated t => "\n".intercalate (tableLines t) ++ "\n"
  | .echoed text => text.shown
  | .seen name => (name.getD "").shown ++ "\n"

/-- The screen that explains the command line. -/
def helpText : String :=
  "Usage: cxt [--version] [--verbose] COMMAND\n\n" ++
  "  options INPUT [--keep-tests]\n" ++
  "  args INPUT SOURCE [--all]\n" ++
  "  process INPUT [--mode ast|functions] [--ignore-kind KIND] [--include DIR]\n" ++
  "                [--keep-tests] [--show-options]\n"

/-- The text of a mistake on the command line. -/
def misuseText : Misuse → String
  | .noArguments => helpText
  | .unexpected => "Error: unknown or missing command, or an unexpected argument\n"
  | .unknownOption => "Error: no such option\n"
  | .optionValue => "Error: an option lacks its value or takes none\n"
  | .missingArgument => "Error: missing argument\n"
  | .rejected message => "Error: Invalid value: " ++ message.shown ++ "\n"

/-- Writes out what a session leaves behind. -/
def report (s : Session) : IO UInt32 := do
  for notice in s.notices do
    IO.eprintln (notice.level.toString ++ " " ++ notice.message.shown)
  for event in s.trace.events do
    IO.print (eventText event)
  IO.eprint s.ending.errorText.shown
  match s.ending with
  | .misused misuse => IO.eprint (misuseText misuse)
  | .crashed _ => IO.eprintln "the program cannot go on"
  | _ => pure ()
  return UInt32.ofNat (s.ending.exitCode?.getD 1)

def runRequest (request : Request) : IO UInt32 := do
  let home := (← IO.getEnv "HOME").getD ""
  let chosen := (← IO.getEnv "CXT_HOME").map Text.ofString
  match Settings.directory? home [] chosen with
  | none =>
    IO.eprintln "the home directory cannot be determined"
    return 1
  | some directory =>
    if request.command = .help then IO.print helpText
    report (request.session (← worldOf (Settings.fileIn directory) request.command))

end CompileDb.Terminal

open CompileDb CompileDb.CommandLine CompileDb.Terminal in
def main (arguments : List String) : IO UInt32 :=
  match Request.parse (arguments.map Text.ofString) with
  | .error misuse => report { ending := .misused misuse }
  | .ok request => runRequest request
