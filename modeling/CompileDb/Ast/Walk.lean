import CompileDb.Ast.Node

/-!
# Walks through syntax trees

A walk lists the nodes of a tree that are looked at (`Node.walk`, the function `flatten`). It keeps a
stack of nodes that are still to be listed: in each round the node on top is taken off and listed, and
its children are pushed, the last one first, so that the first one lies on top. A child from a header of
the system is not pushed, and below a node of an ignored kind nothing is; the root is always listed.

Every round takes a node away from the trees on the stack (`weight_lt_of_step`), so a walk ends.
-/

namespace CompileDb.Ast

namespace Node

/-- Whether the children of nodes of a kind are left out, when kinds are given at all. -/
def ignores (ignored : Option (List Text)) (kind : Text) : Bool :=
  match ignored with
  | none => false
  | some kinds => kinds.contains kind

/-- The children of a node that are looked at. -/
def expansion (ignored : Option (List Text)) (node : Node) : List Node :=
  if ignores ignored node.kind then [] else node.children.filter fun child => !child.inSystemHeader

/-- What a node puts on the stack is smaller than the node itself. -/
theorem sizeAll_expansion_lt (ignored : Option (List Text)) (node : Node) :
    sizeAll (node.expansion ignored) < node.size := by
  have kept := sizeAll_filter_le (fun child => !child.inSystemHeader) node.children
  rw [size_eq, expansion]
  split
  · exact Nat.succ_pos _
  · exact Nat.lt_succ_of_le kept

end Node

/-- How far a walk has come. -/
structure Walk where
  /-- The nodes that have been listed, the latest first. -/
  listed : List Node := []
  /-- The nodes that are still to be listed, the next one first. -/
  stack : List Node

namespace Walk

/-- A stack with nodes pushed one after another. -/
def push (stack nodes : List Node) : List Node := nodes.foldl (fun stack node => node :: stack) stack

@[simp] theorem push_reverse (stack nodes : List Node) : push stack nodes.reverse = nodes ++ stack := by
  rw [push, List.foldl_reverse, List.foldr_cons_eq_append, List.map_id']

/-- One round of a walk, `none` when there is nothing left to list. -/
def step (ignored : Option (List Text)) (w : Walk) : Option Walk :=
  match w.stack with
  | [] => none
  | node :: rest => some ⟨node :: w.listed, push rest (node.expansion ignored).reverse⟩

/-- The number of nodes in the trees that are still to be listed. -/
def weight (w : Walk) : Nat := Node.sizeAll w.stack

/-- Every round takes weight off the stack: the walk ends. -/
theorem weight_lt_of_step {ignored : Option (List Text)} {w next : Walk} (round : w.step ignored = some next) :
    next.weight < w.weight := by
  obtain ⟨listed, stack⟩ := w
  cases stack with
  | nil => cases round
  | cons node rest =>
    obtain rfl := Option.some.inj round
    have smaller := node.sizeAll_expansion_lt ignored
    simp only [weight, push_reverse, Node.sizeAll_append, Node.sizeAll]
    omega

/-- A walk to its end. -/
def run (ignored : Option (List Text)) (w : Walk) : Walk :=
  match _round : w.step ignored with
  | none => w
  | some next => next.run ignored
termination_by w.weight
decreasing_by exact weight_lt_of_step _round

end Walk

/-- The nodes that are looked at, from a root on. -/
def Node.walk (ignored : Option (List Text)) (root : Node) : List Node :=
  (Walk.run ignored { stack := [root] }).listed.reverse

end CompileDb.Ast
