import CompileDb.CommandLine.Options
import CompileDb.Text.Stored

/-!
# Requests

What a user can ask for: the commands `options` (`show_options`), `args` (`show_arguments`) and `process`,
and the version. `Request.parse` reads a request from the arguments of the program, or says what is wrong
with them. A request for help is told as such; its pages, and what completes a command line in a shell, are
left out.

The options of the program come in front of the command. What stands behind them is the name of a
command; a name that no command has is read once more as the beginning of those options, so that
one which looks like an option is answered for as an option.
-/

namespace CompileDb.CommandLine

/-- What is asked for. -/
inductive Command where
  /-- The version of the program. -/
  | version
  /-- The screen that explains the command line. -/
  | help
  /-- A table of the recipes of a database. -/
  | options (input : Text) (keepTests : Bool)
  /-- The arguments for one source. -/
  | arguments (input source : Text) (all : Bool)
  /-- A survey of the sources of a database. -/
  | process (input mode : Text) (ignoredKinds includeDirs : List Text)
      (keepTests showOptions : Bool)
  deriving DecidableEq

/-- What is asked for, and how much is to be said about it. -/
structure Request where
  command : Command
  verbose : Bool := false
  deriving DecidableEq

/-- The meanings of options. -/
inductive Key where
  | version
  | verbose
  | help
  | keepTests
  | all
  | mode
  | ignoreKind
  | includeDir
  | showOptions
  deriving DecidableEq

def helpOption : OptionSpec Key := { key := .help, names := ["--help"] }

def keepTestsOption : OptionSpec Key := { key := .keepTests, names := ["--keep-tests"] }

def rootOptions : List (OptionSpec Key) :=
  [{ key := .version, names := ["--version", "-v"] }, { key := .verbose, names := ["--verbose"] },
   helpOption]

def processOptions : List (OptionSpec Key) :=
  [{ key := .mode, names := ["--mode", "-m"], takesValue := true },
   { key := .ignoreKind, names := ["--ignore-kind", "-k"], takesValue := true },
   { key := .includeDir, names := ["--include", "-I"], takesValue := true },
   keepTestsOption, { key := .showOptions, names := ["--verbose", "--show-options"] }, helpOption]

def defaultMode : Text := "functions"

/-- Why a text is the name of nothing at all, for it cannot be stored or holds a NUL. -/
def impossibility? (input : Text) : Option Text :=
  match Text.unstorable? 0 input with
  | some letters => some letters.message
  | none => if input.contains Text.nul then some "embedded null byte" else none

/-- The mistake of an input that is the name of nothing at all. -/
def impossibleInput? (input : Text) : Option Misuse :=
  (impossibility? input).map fun reason => .rejected ("Value error, " ++ reason)

/-- Reads the arguments of a command. Help goes before all else, and an impossible input before what
is missing or too much. -/
def readCommand (options : List (OptionSpec Key)) (arguments : List Text)
    (build : Parsed Key → List Text → Except Misuse Command) : Except Misuse Command := do
  let parsed ← parse options true arguments
  if parsed.has .help then return .help
  match parsed.positional.head?.bind impossibleInput? with
  | some misuse => throw misuse
  | none => build parsed parsed.positional

/-- The command whose only argument is the input. -/
def buildOptions (parsed : Parsed Key) : List Text → Except Misuse Command
  | [] => .error .missingArgument
  | [input] => .ok (.options input (parsed.has .keepTests))
  | _ => .error .unexpected

/-- The command whose arguments are the input and a source. -/
def buildArguments (parsed : Parsed Key) : List Text → Except Misuse Command
  | [] | [_] => .error .missingArgument
  | [input, source] => .ok (.arguments input source (parsed.has .all))
  | _ => .error .unexpected

/-- The command that surveys an input. -/
def buildProcess (parsed : Parsed Key) : List Text → Except Misuse Command
  | [] => .error .missingArgument
  | [input] =>
    .ok (.process input ((parsed.values .mode).getLast?.getD defaultMode)
      (parsed.values .ignoreKind) (parsed.values .includeDir) (parsed.has .keepTests)
      (parsed.has .showOptions))
  | _ => .error .unexpected

/-- How the arguments of a command are read. -/
abbrev Reader := List Text → Except Misuse Command

def commands : List (Text × Reader) :=
  [("options", fun arguments => readCommand [keepTestsOption, helpOption] arguments buildOptions),
   ("args", fun arguments =>
     readCommand [{ key := .all, names := ["--all"] }, helpOption] arguments buildArguments),
   ("process", fun arguments => readCommand processOptions arguments buildProcess)]

/-- The command that an option in front of all commands asks for; of two the first one counts. -/
def eagerCommand? (parsed : Parsed Key) : Option Command :=
  parsed.given.findSome? fun g =>
    match g.key with
    | .version => some .version
    | .help => some .help
    | _ => none

/-- Reads a name that no command has, with what follows it, as options in front of a command. -/
def readUnknown (arguments : List Text) : Except Misuse Command := do
  match eagerCommand? (← parse rootOptions false arguments) with
  | some command => return command
  | none => throw .unexpected

/-- Reads a command and its arguments. -/
def readNamed : Reader
  | [] => .error .unexpected
  | name :: rest =>
    match commands.lookup name with
    | some read => read rest
    | none => readUnknown (name :: rest)

/-- Reads the arguments of the program. -/
def Request.parse (arguments : List Text) : Except Misuse Request := do
  if arguments.isEmpty then throw .noArguments
  let parsed ← CommandLine.parse rootOptions false arguments
  let verbose := parsed.has .verbose
  match eagerCommand? parsed with
  | some command => return { command, verbose }
  | none => return { command := ← readNamed parsed.positional, verbose }

end CompileDb.CommandLine
