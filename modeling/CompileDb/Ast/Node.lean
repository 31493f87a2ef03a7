import CompileDb.Path

/-!
# Syntax trees

A node of a syntax tree (`AstNode`) has a kind, perhaps a name and a location (`SourceLocation`), and
children; it also knows whether it comes from a header of the system.
-/

namespace CompileDb.Ast

/-- A place in a source. -/
structure Location where
  /-- The file, when it is known. -/
  file : Option Path
  line : Int
  column : Int
  deriving DecidableEq

namespace Location

def fileName (l : Location) : Text :=
  match l.file with
  | some path => path.name
  | none => "unknown"

def text (l : Location) : Text :=
  l.fileName ++ ":" ++ toString l.line ++ ":" ++ toString l.column

end Location

/-- A node of a syntax tree. -/
inductive Node where
  | mk (kind : Text) (name : Option Text) (location : Option Location) (inSystemHeader : Bool)
      (children : List Node)

namespace Node

def kind : Node → Text
  | mk kind _ _ _ _ => kind

def name : Node → Option Text
  | mk _ name _ _ _ => name

def location : Node → Option Location
  | mk _ _ location _ _ => location

/-- Whether a node comes from a header of the system. -/
def inSystemHeader : Node → Bool
  | mk _ _ _ inSystemHeader _ => inSystemHeader

def children : Node → List Node
  | mk _ _ _ _ children => children

mutual

/-- The number of nodes of a tree. -/
def size : Node → Nat
  | mk _ _ _ _ children => sizeAll children + 1

/-- The number of nodes of trees. -/
def sizeAll : List Node → Nat
  | [] => 0
  | node :: rest => node.size + sizeAll rest

end

/-- A node counts itself and everything below it. -/
theorem size_eq (node : Node) : node.size = sizeAll node.children + 1 := by
  cases node
  rw [size, children]

/-- Sizes add up along a list of nodes. -/
theorem sizeAll_append (nodes more : List Node) : sizeAll (nodes ++ more) = sizeAll nodes + sizeAll more := by
  induction nodes with
  | nil => simp [sizeAll]
  | cons node nodes ih =>
    rw [List.cons_append, sizeAll, sizeAll, ih]
    omega

/-- Leaving nodes out of a list does not add to its size. -/
theorem sizeAll_filter_le (p : Node → Bool) (nodes : List Node) : sizeAll (nodes.filter p) ≤ sizeAll nodes := by
  induction nodes with
  | nil => exact Nat.le_refl _
  | cons node nodes ih =>
    rw [List.filter_cons]
    split <;> simp only [sizeAll] <;> omega

end Node

end CompileDb.Ast
