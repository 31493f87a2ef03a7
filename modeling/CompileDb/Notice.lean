import CompileDb.Path
import CompileDb.Text.Quoted

/-!
# Notices

Whatever the program logs about its own course is a `Notice`. A notice has a level and a text; both are
functions of it, so that statements about a run speak of notices and not of texts. When it was logged, and
by which module, is left out.
-/

namespace CompileDb

/-- How much a notice matters. -/
inductive Level where
  | debug
  | info
  | warning
  deriving DecidableEq

namespace Level

def rank : Level → Nat
  | debug => 0
  | info => 1
  | warning => 2

/-- The name of a level. -/
protected def toString : Level → String
  | debug => "DEBUG"
  | info => "INFO"
  | warning => "WARNING"

instance : ToString Level := ⟨Level.toString⟩

end Level

/-- What the program reports about its course. -/
inductive Notice where
  /-- A command line ends inside a quotation and is cut at blanks. -/
  | unclosedQuotation (command : Text)
  /-- The switch for a system directory is followed by an empty word. -/
  | emptySystemDir
  /-- A definition has no name or no value. -/
  | incompleteDefinition (token : Text)
  /-- A compilation database is going to be read. -/
  | readingDatabase (path : Path)
  /-- A compilation database has been read. -/
  | databaseRead (count : Nat) (path : Path)
  /-- Test sources were taken out of the database. -/
  | testsDiscarded (removed remaining : Nat)
  /-- A syntax tree has been walked through. -/
  | walked (visited matched : Nat)
  /-- A source is going to be handed to the index. -/
  | parsing (source : Path) (arguments : List Text)
  /-- The index found a serious fault in a source. -/
  | diagnosed (file : Text) (line column : Int) (spelling : Text)
  /-- A source is left out because it could not be parsed. -/
  | skipping (source : Path) (reason : Text)
  /-- A library was chosen after one was loaded; this is its description. -/
  | libraryIgnored (library : Text)
  /-- The index is ready. -/
  | indexReady
  /-- A settings file could not be read. -/
  | settingsIgnored (path : Path) (reason : Text)
  deriving DecidableEq

namespace Notice

def level : Notice → Level
  | readingDatabase .. | testsDiscarded .. => .info
  | diagnosed .. | skipping .. => .warning
  | _ => .debug

def message : Notice → Text
  | unclosedQuotation command =>
    "Falling back to whitespace split for " ++ Text.quoted command ++ ": No closing quotation"
  | emptySystemDir => "Dropping -isystem with an empty value"
  | incompleteDefinition token => "Dropping macro definition without a value: " ++ token
  | readingDatabase path => "Parsing build options: " ++ path.text
  | databaseRead count path => "Loaded " ++ toString count ++ " compile options from " ++ path.text
  | testsDiscarded removed remaining =>
    "Discarded " ++ toString removed ++ " test sources, " ++ toString remaining ++ " remaining"
  | walked visited matched =>
    "Visited " ++ toString visited ++ " nodes, " ++ toString matched ++ " matched"
  | parsing source arguments =>
    "Parsing " ++ source.text ++ " with " ++ List.intercalate " " arguments
  | diagnosed file line column spelling =>
    file ++ ":" ++ toString line ++ ":" ++ toString column ++ " " ++ spelling
  | skipping source reason => "Skipping " ++ source.text ++ ": " ++ reason
  | libraryIgnored library => "libclang already loaded, ignoring " ++ library
  | indexReady => "libclang initialized"
  | settingsIgnored path reason => "Ignoring unreadable config " ++ path.text ++ ": " ++ reason

end Notice

end CompileDb
