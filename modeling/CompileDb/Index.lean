import CompileDb.Ast.Cursor
import CompileDb.Disk
import CompileDb.Outcome
import CompileDb.Value.Describe

/-!
# The index

The index is the parser that turns a source and its arguments into a syntax tree. It comes from a
library that has to be loaded first. The program does not look inside it: `Index` is any function
from a path and arguments to a reply, and `Library` says how loading ends. `Library.start` is
`ClangContext.initialize`, `Index.parse` is `ClangContext.parse`.
-/

namespace CompileDb

/-- What the index has to say about a source. -/
structure Diagnostic where
  /-- 3 is an error, 4 a fatal error. -/
  severity : Int
  spelling : Text
  line : Int
  column : Int
  deriving DecidableEq

/-- What comes of parsing a source. -/
inductive Reply where
  /-- The source could not be parsed. -/
  | refused (reason : Text)
  /-- The root of the syntax tree, with what there was to say. -/
  | parsed (root : Ast.Cursor) (diagnostics : List Diagnostic)

/-- A parser. -/
structure Index where
  /-- The reply for the text of a path and arguments. -/
  reply : Text → List Text → Reply

/-- Why the library cannot be used. -/
inductive LibraryFault where
  /-- It could not be loaded, or the system refused it. -/
  | unavailable (reason : Text)
  /-- It broke down. -/
  | crash (reason : Text)
  deriving DecidableEq

/-- The library that the index comes from. -/
structure Library where
  /-- Whether it is loaded already. -/
  loaded : Bool := false
  /-- What goes wrong when the index is made. -/
  fault : Option LibraryFault := none
  deriving DecidableEq

namespace Library

/-- Tells the library which file to use. Once it is loaded that is too late, whatever the file is
said to be; before, a file is named by a text and by nothing else. -/
def choose (library : Library) (file : Value) : Outcome Unit :=
  if library.loaded then Outcome.notify [.libraryIgnored file.describe]
  else
    match file with
    | .text file => Outcome.leave { libraries := [file] }
    | _ => Outcome.fail .mistypedSetting

/-- Makes the index, from the given library file when there is one; what counts as no is none. -/
def start (library : Library) (file : Option Value) : Outcome Unit := do
  match file.filter Value.isTruthy with
  | none => pure ()
  | some file => library.choose file
  match library.fault with
  | some (.unavailable reason) => Outcome.fail (.fault (.indexUnavailable reason))
  | some (.crash reason) => Outcome.fail (.indexCrashed reason)
  | none => Outcome.notify [.indexReady]

end Library

namespace Index

/-- The least severity that is worth a notice. -/
def errorSeverity : Int := 3

/-- The notices for what the index said about a source. -/
def notices (source : Path) (diagnostics : List Diagnostic) : List Notice :=
  (diagnostics.filter fun d => decide (errorSeverity ≤ d.severity)).map fun d =>
    .diagnosed source.name d.line d.column d.spelling

/-- Hands an existing file to the index. -/
def parseFile (index : Index) (source : Path) (arguments : List Text) : Outcome Ast.Node := do
  Outcome.leave
    { notices := [.parsing source arguments], calls := [⟨source.text, arguments⟩] }
  match index.reply source.text arguments with
  | .refused reason => Outcome.fail (.fault (.unparsed source reason))
  | .parsed root diagnostics =>
    Outcome.notify (notices source diagnostics)
    return root.node

/-- The syntax tree of a source. Arguments that are no texts can be handed to nobody; that is found
out when the source is. -/
def parse (index : Index) (disk : Disk) (source : Path) (arguments : Option (List Text)) :
    Outcome Ast.Node :=
  match disk.look source with
  | .outOfReach => Outcome.fail (.outOfReach source)
  | .absent => Outcome.fail (.fault (.unparsed source "file not found"))
  | .directory | .special _ => Outcome.fail (.fault (.unparsed source "not a file"))
  | .file _ =>
    match arguments with
    | none => Outcome.fail .mistypedSetting
    | some arguments => index.parseFile source arguments

end Index

end CompileDb
