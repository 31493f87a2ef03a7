import CompileDb.Entry
import CompileDb.Json
import CompileDb.Text.Utf8

/-!
# Faults and failures

A `Fault` is what the user is told in one line: the database or the index cannot be had, or a
source cannot be parsed (`CxtError`). A `Failure` is whatever ends a command early: a fault, a mistake on the
command line, or a condition that nobody foresees and that the program does not answer for.
-/

namespace CompileDb

/-- What was looked for. -/
inductive Sought where
  | file
  | directory
  deriving DecidableEq

/-- The name of what was looked for. -/
protected def Sought.toString : Sought → String
  | file => "file"
  | directory => "directory"

/-- Why a file is no compilation database. -/
inductive Malformed where
  /-- Its bytes are no text. -/
  | undecodable (path : Path) (fault : Text.Utf8.Fault)
  /-- Its text is no document. -/
  | notADocument (path : Path) (fault : Json.Fault)
  /-- Its document is no list of entries. -/
  | misshapen (fault : ShapeFault)
  deriving DecidableEq

/-- The text of a fault in a compilation database. -/
def Malformed.message : Malformed → Text
  | undecodable path fault => path.text ++ ": " ++ fault.message
  | notADocument path fault => path.text ++ ": " ++ fault.message
  | misshapen fault => fault.message

/-- What the user is told. -/
inductive Fault where
  | notFound (path : Path) (sought : Sought)
  | notAFile (path : Path)
  | notADirectory (path : Path)
  | malformed (cause : Malformed)
  | indexUnavailable (reason : Text)
  | unparsed (source : Path) (reason : Text)
  deriving DecidableEq

def Fault.message : Fault → Text
  | notFound path sought => sought.toString ++ " not found: " ++ path.text
  | notAFile path => "not a file: " ++ path.text
  | notADirectory path => "not a directory: " ++ path.text
  | malformed cause => cause.message
  | indexUnavailable reason => "failed to initialize libclang: " ++ reason
  | unparsed source reason => "failed to parse " ++ source.text ++ ": " ++ reason

/-- A mistake on the command line. -/
inductive Misuse where
  /-- Nothing was asked for. -/
  | noArguments
  /-- The command is missing or unknown, or there is an argument too many. -/
  | unexpected
  /-- An option is unknown. -/
  | unknownOption
  /-- An option lacks its value or has one that it cannot take. -/
  | optionValue
  /-- An argument is missing. -/
  | missingArgument
  /-- An argument has a value that the command cannot use. -/
  | rejected (message : Text)
  deriving DecidableEq

/-- What ends a command early. -/
inductive Failure where
  | fault (fault : Fault)
  | misuse (misuse : Misuse)
  /-- The file system refuses to look at a path. -/
  | outOfReach (path : Path)
  /-- A file is there, but the system does not let read it. -/
  | unreadable (path : Path) (reason : Text)
  /-- A data file is too much for its reader. -/
  | excessive (excess : Excess)
  /-- The settings file is no text. -/
  | undecodableSettings (fault : Text.Utf8.Fault)
  /-- A setting has a value of the wrong type. -/
  | mistypedSetting
  /-- The settings lack a section. -/
  | missingSection (name : String)
  /-- A section of the settings is no table. -/
  | misshapenSection (name : String)
  /-- The index broke down in an unforeseen way. -/
  | indexCrashed (reason : Text)
  /-- A text that is to be written holds a surrogate without its partner, for which the output has no bytes. -/
  | unencodable (text : Text)
  deriving DecidableEq

end CompileDb
