import CompileDb.Entry
import CompileDb.Selector
import CompileDb.Switch

/-!
# Recipes

A recipe is what it takes to parse one source as its compiler saw it (`CompileOption`): the switches of
its command, sorted by category, and where the source is. `Recipe.ofEntry`, which is `reconstruct_option`,
makes one from an entry of a compilation database; `Recipe.arguments`, which is `build_arguments`, writes
the categories of a selector as arguments again. `Recipe.anchoredSource` is `resolved_source`.
-/

namespace CompileDb

/-- How one source is compiled. -/
structure Recipe where
  /-- The directory that relative paths start from. -/
  directory : Path := .here
  /-- Names and values of definitions. -/
  definitions : List (Text × Text) := []
  /-- Directories to search for headers. -/
  includeDirs : List Path := []
  /-- Directories to search for headers of the system. -/
  systemDirs : List Path := []
  /-- The language standard. -/
  standard : Text := "c++20"
  /-- The names of the warnings asked for. -/
  warnings : List Text := []
  /-- Whether warnings are errors. -/
  warningsAsErrors : Bool := false
  /-- The source. -/
  source : Path := .here
  /-- The file that is written. -/
  output : Path := .here
  deriving DecidableEq

namespace Recipe

/-- The name of the warning that makes errors of all warnings. -/
def errorWarning : Text := "error"

/-- The language standard of a command that names none. -/
def defaultStandard : Text := "c++20"

/-- The recipe of an entry. Of several equal warnings the first counts, of several standards the
first as well. -/
def ofEntry (entry : Entry) : Recipe :=
  let switches := Switch.ofCommand entry.command
  let named := switches.filterMap Switch.warning?
  { directory := entry.directory
    definitions := switches.filterMap Switch.definition?
    includeDirs := switches.filterMap Switch.includeDir?
    systemDirs := switches.filterMap Switch.systemDir?
    standard := (switches.filterMap Switch.standard?).head?.getD defaultStandard
    warnings := (named.filter (· != errorWarning)).eraseDups
    warningsAsErrors := named.contains errorWarning
    source := entry.file
    output := entry.output }

/-- The source as seen from where the directory is seen. -/
def anchoredSource (r : Recipe) : Path :=
  if r.source.isAbsolute then r.source else r.directory / r.source

/-- A switch in front of each value. -/
def pairs (switch : Text) (values : List Text) : List Text :=
  values.flatMap fun value => [switch, value]

/-- The arguments of one category. Source and output have none, for they are handed over apart. -/
def segment (r : Recipe) : Category → List Text
  | .standard => if r.standard = "" then [] else ["-std=" ++ r.standard]
  | .warnings => pairs "-W" r.warnings
  | .warningsAsErrors => if r.warningsAsErrors then ["-W", errorWarning] else []
  | .definitions => pairs "-D" (r.definitions.map fun d => d.1 ++ "=" ++ d.2)
  | .includeDirs => pairs "-I" (r.includeDirs.map Path.text)
  | .systemDirs => pairs "-isystem" (r.systemDirs.map Path.text)
  | .source | .output => []

/-- The arguments that every source is parsed with. -/
def leadingArguments : List Text := ["-x", "c++", "-g"]

/-- The order in which categories are written. -/
def writingOrder : List Category :=
  [.standard, .warnings, .warningsAsErrors, .definitions, .includeDirs, .systemDirs]

/-- The arguments of the categories in a selector. -/
def arguments (r : Recipe) (selector : Selector) : List Text :=
  leadingArguments ++ (writingOrder.filter selector.has).flatMap r.segment

end Recipe

end CompileDb
