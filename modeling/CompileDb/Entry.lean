import CompileDb.Path
import CompileDb.Value
import CompileDb.Words

/-!
# Entries of a compilation database

A compilation database is a list of entries, one for each compiler call (`CommandRecord`).
`Entry.ofValue` checks one item of the list, `Entry.allOfValue` the whole list, as `parse_records` does;
the first item that fails decides the fault, and of one item the first check that fails.
-/

namespace CompileDb

/-- One compiler call of a compilation database. -/
structure Entry where
  /-- The directory that the call was made in. -/
  directory : Path
  /-- The command line of the call. -/
  command : Text
  /-- The source that is compiled. -/
  file : Path
  /-- The file that is written. -/
  output : Path := .here
  deriving DecidableEq

/-- Why an item is no entry. -/
inductive EntryFault where
  | notAnObject
  | directoryOrFile
  | arguments
  | command
  | output
  deriving DecidableEq

/-- The text of a fault, to follow the number of the entry. -/
def EntryFault.message : EntryFault → String
  | notAnObject => "is not an object"
  | directoryOrFile => "needs string 'directory' and 'file' fields"
  | arguments => "has a non-string 'arguments' list"
  | command => "needs a 'command' string or an 'arguments' list"
  | output => "has a non-string 'output' field"

/-- Why a value is no compilation database. -/
inductive ShapeFault where
  | notAList
  | entry (index : Nat) (fault : EntryFault)
  deriving DecidableEq

def ShapeFault.message : ShapeFault → String
  | notAList => "compilation database must be a JSON array of entries"
  | entry index fault => "entry " ++ toString index ++ " " ++ fault.message

namespace Entry

open Value (field?)

/-- The directory and file of an object. -/
def directoryAndFile (fields : Value.Fields) : Except EntryFault (Text × Text) :=
  match field? "directory" fields, field? "file" fields with
  | some (.text directory), some (.text file) => .ok (directory, file)
  | _, _ => .error .directoryOrFile

/-- The command line that a list of arguments stands for. -/
def commandOfArguments (fields : Value.Fields) : Except EntryFault Text :=
  match field? "arguments" fields with
  | none => .error .command
  | some (.list items) =>
    match Value.texts? items with
    | some arguments => .ok (Words.join arguments)
    | none => .error .arguments
  | some _ => .error .arguments

/-- The command line of an object: its command, or else its arguments. -/
def commandLine (fields : Value.Fields) : Except EntryFault Text :=
  match field? "command" fields with
  | some (.text command) => .ok command
  | none | some .null => commandOfArguments fields
  | some _ => .error .command

/-- The output of an object, empty when it has none. -/
def outputText (fields : Value.Fields) : Except EntryFault Text :=
  match field? "output" fields with
  | none => .ok ""
  | some (.text output) => .ok output
  | some _ => .error .output

/-- The entry that a value states. -/
def ofValue : Value → Except EntryFault Entry
  | .table fields => do
    let (directory, file) ← directoryAndFile fields
    let command ← commandLine fields
    let output ← outputText fields
    return ⟨.ofText directory, command, .ofText file, .ofText output⟩
  | _ => .error .notAnObject

/-- The entries that values state, counted from `index`. -/
def listFrom (index : Nat) : List Value → Except ShapeFault (List Entry)
  | [] => .ok []
  | item :: rest =>
    match ofValue item with
    | .error fault => .error (.entry index fault)
    | .ok entry => (listFrom (index + 1) rest).map (entry :: ·)

/-- The entries of a compilation database. -/
def allOfValue : Value → Except ShapeFault (List Entry)
  | .list items => listFrom 0 items
  | _ => .error .notAList

end Entry

end CompileDb
