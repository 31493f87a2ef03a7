import CompileDb.Ast.Node
import CompileDb.Text.Quoted

/-!
# Cursors

A cursor is a node as the index states it (`CursorNode`). Its kind may be one that has no name, an empty
spelling is no name, and its file is a text that may be missing. `Cursor.node` is the syntax tree below
a cursor. Of a cursor's extent and type nothing is asked, so they are left out.
-/

namespace CompileDb.Ast

/-- A node as the index states it. -/
inductive Cursor where
  | mk (kind : Option Text) (spelling : Text) (file : Option Text) (line column : Int)
      (inSystemHeader : Bool) (children : List Cursor)

namespace Cursor

/-- The kind of a cursor whose kind has no name. -/
def unknownKind : Text := "UNKNOWN"

/-- The location of a cursor; without a file there is none. -/
def locationOf (file : Option Text) (line column : Int) : Option Location :=
  file.map fun f => ⟨some (.ofText f), line, column⟩

def nameOf (spelling : Text) : Option Text := if spelling = "" then none else some spelling

mutual

def node : Cursor → Node
  | mk kind spelling file line column inSystemHeader children =>
    .mk (kind.getD unknownKind) (nameOf spelling) (locationOf file line column) inSystemHeader
      (nodes children)

def nodes : List Cursor → List Node
  | [] => []
  | cursor :: rest => cursor.node :: nodes rest

end

/-- A source of which nothing is known. -/
def blankUnit (path : Text) : Cursor := mk (some ("TRANSLATION_UNIT" : Text)) path none 0 0 false []

end Cursor

/-- A node of the index in words. -/
def Node.describe (n : Node) : Text :=
  let name : Text :=
    match n.name with
    | some name => Text.quoted name
    | none => "None"
  "CursorNode(" ++ n.kind ++ ", " ++ name ++ ")"

end CompileDb.Ast
