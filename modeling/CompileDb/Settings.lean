import CompileDb.Disk
import CompileDb.Outcome
import CompileDb.Toml.Document

/-!
# Settings

The settings have two sections, `clang` and `process`. A settings file is read over the defaults:
in a section that it gives as a table its fields take the place of the defaults; whatever else it
says has no effect. A file that is missing, that cannot be read or that is no document gives the
defaults. `load` is `load_config`, and `chosenLibrary` is `libclang_library_file`.

The reader of documents comes from a library of its own. A `Reader` is any function from a text to
the fields that it states; `Reader.toml` is the one that the program runs with.
-/

namespace CompileDb

/-- The settings, section by section. -/
structure Settings where
  /-- How the index is made. -/
  clang : Value.Fields
  /-- How sources are surveyed. -/
  process : Value.Fields

namespace Settings

open Value (field?)

/-- Why a reader gives no document for a text. -/
inductive Refusal where
  /-- The text is no document, for the reason that the reader gives. -/
  | malformed (reason : Text)
  /-- The text is too much for the reader. -/
  | excess (excess : Excess)
  deriving DecidableEq

/-- A reader of documents. -/
structure Reader where
  /-- The fields that a text states, in which line ends are line feeds. -/
  read : List Char → Except Refusal Value.Fields

/-- The limits of the reader of TOML documents. -/
def limits : Limits := {}

/-- The reader of TOML documents. It does not say what is wrong with a text. -/
def Reader.toml : Reader where
  read text :=
    match Toml.read limits text with
    | .ok document => .ok document
    | .error .malformed => .error (.malformed "no TOML document")
    | .error (.excess excess) => .error (.excess excess)

/-- The settings of those who set nothing. -/
def defaults : Settings where
  clang := [("library_file", .text "")]
  process :=
    [("exclude_tests", .bool true), ("ignore_kinds", .list []), ("include_flags", .list [])]

/-- The fields of a section with those that the loaded value of that section gives. -/
def mergeSection (fields : Value.Fields) : Option Value → Value.Fields
  | some (.table loaded) => Value.updateFields fields loaded
  | _ => fields

/-- The defaults with what a document says. -/
def ofDocument (document : Value.Fields) : Settings where
  clang := mergeSection defaults.clang (field? "clang" document)
  process := mergeSection defaults.process (field? "process" document)

def document (s : Settings) : Value.Fields :=
  [("clang", .table s.clang), ("process", .table s.process)]

/-- The defaults, with a notice why a settings file is ignored. -/
def ignoring (path : Path) (reason : Text) : Outcome Settings :=
  ⟨{ notices := [.settingsIgnored path reason] }, .ok defaults⟩

/-- The settings that a text states, the defaults when it states none. -/
def ofText (reader : Reader) (path : Path) (text : List Char) : Outcome Settings :=
  match reader.read (Text.unifyLineEnds text) with
  | .ok document => pure (ofDocument document)
  | .error (.excess excess) => Outcome.fail (.excessive excess)
  | .error (.malformed reason) => ignoring path reason

/-- The settings that what is read from a file states. -/
def ofContents (reader : Reader) (path : Path) : Contents → Outcome Settings
  | .refused reason => ignoring path reason
  | .bytes bytes =>
    match Text.Utf8.decode bytes with
    | .error fault => Outcome.fail (.undecodableSettings fault)
    | .ok text => ofText reader path text

/-- What the system says when a directory is to be read. -/
def directoryReason (path : Path) : Text := "[Errno 21] Is a directory: " ++ Text.quoted path.text

/-- Loads a settings file. What is there is read, whether it is a regular file or not. -/
def load (reader : Reader) (disk : Disk) (path : Path) : Outcome Settings :=
  match disk.look path with
  | .outOfReach => Outcome.fail (.outOfReach path)
  | .absent => pure defaults
  | .directory => ignoring path (directoryReason path)
  | .file contents | .special contents => ofContents reader path contents

/-- The library file that a document asks for. -/
def configuredLibrary (document : Value.Fields) : Except Failure (Option Value) :=
  match field? "clang" document with
  | none => .error (.missingSection "clang")
  | some (.table section_) => .ok ((field? "library_file" section_).filter Value.isTruthy)
  | some _ => .error (.misshapenSection "clang")

/-- The library file to use: the one of the environment, or else the one that a document asks
for. An empty text asks for none. -/
def chosenLibrary (environment : Option Text) (document : Value.Fields) :
    Except Failure (Option Value) :=
  match environment with
  | none | some [] => configuredLibrary document
  | some file => .ok (some (.text file))

/-- The items that a setting lists. A text lists its letters, and a table its names. -/
def itemsOf : Option Value → Except Failure (List Value)
  | none => .ok []
  | some (.list items) => .ok items
  | some (.text t) => .ok (t.map fun a => .text [a])
  | some (.table fields) => .ok (fields.map fun f => .text f.1)
  | some _ => .error .mistypedSetting

/-- The kinds that the settings ignore, as a set: lists and tables, which can be no members of one,
are refused, and other items that are no texts match no kind. -/
def ignoredKinds (s : Settings) : Except Failure (List Text) := do
  let items ← itemsOf (field? "ignore_kinds" s.process)
  let isCompound : Value → Bool
    | .list _ | .table _ => true
    | _ => false
  if items.any isCompound then throw .mistypedSetting
  return items.filterMap Value.text?

/-- The directories that the settings add to the search for headers, `none` when an item is no
text. -/
def includeDirs (s : Settings) : Except Failure (Option (List Text)) := do
  let items ← itemsOf (field? "include_flags" s.process)
  return Value.texts? items

/-- Whether the settings want test sources left out. -/
def excludesTests (s : Settings) : Bool :=
  ((field? "exclude_tests" s.process).getD (.bool true)).isTruthy

end Settings

end CompileDb
