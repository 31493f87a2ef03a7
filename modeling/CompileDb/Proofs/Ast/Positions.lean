import CompileDb.Ast.Walk
import Mathlib.Data.List.Infix

/-!
# Which positions a walk lists

A position is the way from the root to a node, by the numbers of the children. `Precedes` is the
order of positions in which a parent stands before what is below it, and all below an earlier sibling
before all below a later one. `IsRetained` says which positions are looked at.

`places` finds these positions by recursion on the tree; a walk finds the same nodes with a stack.
The invariant that joins them is `run_eq`: what a walk lists from a stack on is what the recursion
finds in the trees on the stack, from the top to the bottom.
-/

namespace CompileDb.Ast

/-- The way from the root of a tree to a node, by the numbers of the children. -/
abbrev Position := List Nat

/-- The node at a position. -/
def Node.at? (node : Node) : Position → Option Node
  | [] => some node
  | i :: p => node.children[i]?.bind fun child => child.at? p

/-- The order in which positions are listed. -/
inductive Precedes : Position → Position → Prop where
  /-- A position stands before all below it. -/
  | below (p : Position) (i : Nat) (q : Position) : Precedes p (p ++ i :: q)
  /-- All below a child stands before all below a later child. -/
  | later (parent : Position) {i j : Nat} (order : i < j) (p q : Position) :
      Precedes (parent ++ i :: p) (parent ++ j :: q)

/-- A position is looked at: no node on the way to it but the root comes from a header of the system,
and no node above it is of an ignored kind. -/
structure IsRetained (ignored : Option (List Text)) (root : Node) (p : Position) : Prop where
  inside : ∃ node, root.at? p = some node
  own : ∀ q node, q <+: p → q ≠ [] → root.at? q = some node → node.inSystemHeader = false
  open_above : ∀ q node, q <+: p → q ≠ p → root.at? q = some node →
    ∀ kinds, ignored = some kinds → node.kind ∉ kinds

namespace Precedes

theorem cons {p q : Position} (order : Precedes p q) (i : Nat) : Precedes (i :: p) (i :: q) := by
  cases order with
  | below p j q => exact below (i :: p) j q
  | later parent lt p q => exact later (i :: parent) lt p q

theorem ne {p q : Position} (order : Precedes p q) : p ≠ q := by
  cases order with
  | below p i q => simp
  | later parent lt p q =>
    intro same
    have heads := List.append_cancel_left same
    injection heads
    omega

end Precedes

namespace Node

/-- A kind is not ignored when no list is given or the list lacks it. -/
theorem ignores_eq_false_iff {ignored : Option (List Text)} {kind : Text} :
    ignores ignored kind = false ↔ ∀ kinds, ignored = some kinds → kind ∉ kinds := by
  cases ignored <;> simp [ignores]

mutual

/-- The positions that are looked at from a root on, each with its node. -/
def places (ignored : Option (List Text)) : Node → List (Position × Node)
  | mk kind name location inSystemHeader children =>
    ([], mk kind name location inSystemHeader children) ::
      if ignores ignored kind then [] else placesAll ignored 0 children

/-- The positions that are looked at below siblings and among them, the first of which is child `i`. -/
def placesAll (ignored : Option (List Text)) (i : Nat) : List Node → List (Position × Node)
  | [] => []
  | node :: rest =>
    (if node.inSystemHeader then [] else (places ignored node).map fun place => (i :: place.1, place.2)) ++
      placesAll ignored (i + 1) rest

end

variable {ignored : Option (List Text)}

/-- The places below a node: its own first, then its children's unless its kind is ignored. -/
theorem places_eq (node : Node) : node.places ignored =
    ([], node) :: if ignores ignored node.kind then [] else placesAll ignored 0 node.children := by
  cases node
  rw [places, kind, children]

/-- Positions below siblings begin with the number of one of them. -/
theorem mem_placesAll {i : Nat} {nodes : List Node} {place : Position × Node} :
    place ∈ placesAll ignored i nodes ↔ ∃ j child p, place.1 = (i + j) :: p ∧ nodes[j]? = some child ∧
      child.inSystemHeader = false ∧ (p, place.2) ∈ child.places ignored := by
  induction nodes generalizing i with
  | nil => simp [placesAll]
  | cons node rest ih =>
    rw [placesAll, List.mem_append, ih]
    constructor
    · rintro (first | ⟨j, child, p, way, listed, own, found⟩)
      · cases system : node.inSystemHeader with
        | true => simp [system] at first
        | false =>
          simp only [system, Bool.false_eq_true, if_false, List.mem_map] at first
          obtain ⟨⟨p, n⟩, found, rfl⟩ := first
          exact ⟨0, node, p, rfl, rfl, system, found⟩
      · exact ⟨j + 1, child, p, by rw [way]; congr 1; omega, listed, own, found⟩
    · rintro ⟨j, child, p, way, listed, own, found⟩
      cases j with
      | zero =>
        obtain rfl := Option.some.inj listed
        left
        rw [own]
        exact List.mem_map.2 ⟨(p, place.2), found, Prod.ext way.symm rfl⟩
      | succ j => exact .inr ⟨j, child, p, by rw [way]; congr 1; omega, listed, own, found⟩

end Node

/-- The root is always retained. -/
theorem isRetained_nil (ignored : Option (List Text)) (root : Node) : IsRetained ignored root [] := by
  refine ⟨⟨root, rfl⟩, ?_, ?_⟩
  · intro q node above below
    exact absurd (List.prefix_nil.1 above) below
  · intro q node above below
    exact absurd (List.prefix_nil.1 above) below

/-- A position below a child is looked at iff the root is not of an ignored kind, the child does not
come from a header of the system, and the position is looked at from the child on. -/
theorem isRetained_cons {ignored : Option (List Text)} {root : Node} {i : Nat} {p : Position} :
    IsRetained ignored root (i :: p) ↔ Node.ignores ignored root.kind = false ∧
      ∃ child, root.children[i]? = some child ∧ child.inSystemHeader = false ∧ IsRetained ignored child p := by
  constructor
  · intro retained
    obtain ⟨node, found⟩ := retained.inside
    obtain ⟨child, listed, rest⟩ := Option.bind_eq_some_iff.1 found
    have below : ∀ q n, child.at? q = some n → root.at? (i :: q) = some n := by
      intro q n here
      rw [Node.at?, listed, Option.bind_some, here]
    refine ⟨?_, child, listed, ?_, ⟨node, rest⟩, ?_, ?_⟩
    · rw [Node.ignores_eq_false_iff]
      exact retained.open_above [] root (List.nil_prefix) (by simp) rfl
    · exact retained.own [i] child (by simp) (by simp) (below [] child rfl)
    · intro q n above _ here
      exact retained.own (i :: q) n (List.cons_prefix_cons.2 ⟨rfl, above⟩) (by simp) (below q n here)
    · intro q n above proper here
      exact retained.open_above (i :: q) n (List.cons_prefix_cons.2 ⟨rfl, above⟩) (by simpa using proper)
        (below q n here)
  · rintro ⟨opened, child, listed, own, retained⟩
    have below : ∀ q, root.at? (i :: q) = child.at? q := by
      intro q
      rw [Node.at?, listed, Option.bind_some]
    refine ⟨?_, ?_, ?_⟩
    · rw [below]
      exact retained.inside
    -- A position above `i :: p` is the root's, the child's, or further down and then a matter of `retained`.
    · intro q n above nonempty here
      cases q with
      | nil => exact absurd rfl nonempty
      | cons j q =>
        obtain ⟨rfl, within⟩ := List.cons_prefix_cons.1 above
        rw [below] at here
        cases q with
        | nil =>
          obtain rfl := Option.some.inj here
          exact own
        | cons k q => exact retained.own (k :: q) n within (by simp) here
    · intro q n above proper here
      cases q with
      | nil =>
        obtain rfl := Option.some.inj here
        exact Node.ignores_eq_false_iff.1 opened
      | cons j q =>
        obtain ⟨rfl, within⟩ := List.cons_prefix_cons.1 above
        rw [below] at here
        exact retained.open_above q n within (by simpa using proper) here

namespace Node

variable {ignored : Option (List Text)}

/-- The places are the retained positions, each with the node that stands there. -/
theorem mem_places {root node : Node} {p : Position} :
    (p, node) ∈ root.places ignored ↔ IsRetained ignored root p ∧ root.at? p = some node := by
  induction p generalizing root with
  | nil =>
    have deeper : ∀ n, ([], n) ∉ placesAll ignored 0 root.children := by
      intro n found
      obtain ⟨j, child, q, way, -⟩ := mem_placesAll.1 found
      cases way
    rw [places_eq, List.mem_cons]
    constructor
    · rintro (same | found)
      · cases same
        exact ⟨isRetained_nil ignored node, rfl⟩
      · split at found
        · simp at found
        · exact absurd found (deeper node)
    · rintro ⟨-, here⟩
      obtain rfl := Option.some.inj here
      exact .inl rfl
  | cons i p ih =>
    rw [places_eq, List.mem_cons, isRetained_cons]
    constructor
    · rintro (same | found)
      · cases same
      · cases shut : ignores ignored root.kind with
        | true => simp [shut] at found
        | false =>
          rw [shut, if_neg (by simp)] at found
          obtain ⟨j, child, q, way, listed, own, found⟩ := mem_placesAll.1 found
          rw [Nat.zero_add] at way
          injection way with number rest
          subst number rest
          obtain ⟨retained, here⟩ := ih.1 found
          refine ⟨⟨rfl, child, listed, own, retained⟩, ?_⟩
          rw [at?, listed, Option.bind_some, here]
    · rintro ⟨⟨opened, child, listed, own, retained⟩, here⟩
      rw [at?, listed, Option.bind_some] at here
      right
      rw [opened, if_neg (by simp), mem_placesAll]
      exact ⟨i, child, p, by rw [Nat.zero_add], listed, own, ih.2 ⟨retained, here⟩⟩

mutual

/-- The places come in pre-order, no position twice. -/
theorem pairwise_places : ∀ node : Node, (node.places ignored).Pairwise fun s t => Precedes s.1 t.1
  | mk kind name location inSystemHeader children => by
    rw [places, List.pairwise_cons]
    constructor
    · intro place found
      split at found
      · simp at found
      · obtain ⟨j, child, q, way, -⟩ := mem_placesAll.1 found
        rw [way]
        exact .below [] (0 + j) q
    · split
      · exact .nil
      · exact pairwise_placesAll 0 children

theorem pairwise_placesAll (i : Nat) : ∀ nodes : List Node,
    (placesAll ignored i nodes).Pairwise fun s t => Precedes s.1 t.1
  | [] => .nil
  | node :: rest => by
    rw [placesAll, List.pairwise_append]
    refine ⟨?_, pairwise_placesAll (i + 1) rest, ?_⟩
    · split
      · exact .nil
      · exact (pairwise_places node).map _ fun s t order => order.cons i
    · intro s first t later
      obtain ⟨j, child, q, way, -⟩ := mem_placesAll.1 later
      split at first
      · simp at first
      · obtain ⟨place, -, rfl⟩ := List.mem_map.1 first
        rw [way]
        exact .later [] (by omega) place.1 q

end

/-- The nodes that are looked at from a root on, by recursion on the tree. -/
def preOrder (ignored : Option (List Text)) (node : Node) : List Node :=
  (node.places ignored).map Prod.snd

theorem map_snd_placesAll (i : Nat) (nodes : List Node) : (placesAll ignored i nodes).map Prod.snd =
    (nodes.filter fun node => !node.inSystemHeader).flatMap (preOrder ignored) := by
  induction nodes generalizing i with
  | nil => rfl
  | cons node rest ih =>
    rw [placesAll, List.map_append, ih]
    cases system : node.inSystemHeader <;> simp [system, preOrder]

/-- Pre-order from the node's expansion: the node, then what is below each of its children. -/
theorem preOrder_eq (node : Node) :
    node.preOrder ignored = node :: (node.expansion ignored).flatMap (preOrder ignored) := by
  rw [preOrder, places_eq, List.map_cons, expansion]
  split
  · rfl
  · rw [map_snd_placesAll]

end Node

namespace Walk

variable {ignored : Option (List Text)}

/-- A walk after some rounds, `none` when it has come to an end before. -/
def after (ignored : Option (List Text)) : Nat → Walk → Option Walk
  | 0, w => some w
  | rounds + 1, w => (w.step ignored).bind (after ignored rounds)

/-- The nodes that are found in the trees on the stack, from the top to the bottom. -/
def found (ignored : Option (List Text)) (w : Walk) : List Node := w.stack.flatMap (Node.preOrder ignored)

/-- A round lists the first node that is still to be found and leaves the others. -/
theorem step_eq_some {w next : Walk} (round : w.step ignored = some next) :
    ∃ node, w.found ignored = node :: next.found ignored ∧ next.listed = node :: w.listed := by
  obtain ⟨listed, stack⟩ := w
  cases stack with
  | nil => cases round
  | cons node rest =>
    obtain rfl := Option.some.inj round
    refine ⟨node, ?_, rfl⟩
    rw [found, found, push_reverse, List.flatMap_append, List.flatMap_cons, Node.preOrder_eq, List.cons_append]

/-- Only an empty stack stops the walk. -/
theorem step_eq_none {w : Walk} (ended : w.step ignored = none) : w.stack = [] := by
  obtain ⟨listed, stack⟩ := w
  cases stack with
  | nil => rfl
  | cons node rest => cases ended

/-- **A walk finds what the recursion finds**, and comes to its end after one round for each node. -/
theorem run_eq (w : Walk) : w.run ignored = ⟨(w.found ignored).reverse ++ w.listed, []⟩ ∧
    after ignored (w.found ignored).length w = some (w.run ignored) := by
  fun_induction Walk.run ignored w with
  | case1 w ended =>
    obtain ⟨listed, stack⟩ := w
    obtain rfl := step_eq_none ended
    exact ⟨rfl, rfl⟩
  | case2 w next round ih =>
    obtain ⟨node, first, latest⟩ := step_eq_some round
    rw [first, ih.1, latest]
    constructor
    · simp
    · rw [List.length_cons, after, round, Option.bind_some, ih.2, ih.1, latest]

end Walk

/-- The stack loop lists the nodes in pre-order. -/
theorem Node.walk_eq_preOrder (ignored : Option (List Text)) (root : Node) :
    root.walk ignored = root.preOrder ignored := by
  rw [walk, (Walk.run_eq _).1]
  simp [Walk.found]

/-- **A walk lists the retained positions.** Its nodes are those at the positions that are looked at,
each of them once, in the order of positions; the root is always the first. The stack is empty after
as many rounds as there are such positions. -/
theorem walk_lists_retained_positions (ignored : Option (List Text)) (root : Node) :
    ∃ positions : List Position, (root.walk ignored).map some = positions.map root.at? ∧
      (∀ p, p ∈ positions ↔ IsRetained ignored root p) ∧ positions.Pairwise Precedes ∧ positions.Nodup ∧
      positions.head? = some [] ∧
      Walk.after ignored positions.length { stack := [root] } = some ⟨(root.walk ignored).reverse, []⟩ := by
  have ordered : ((root.places ignored).map Prod.fst).Pairwise Precedes :=
    root.pairwise_places.map _ fun s t order => order
  refine ⟨(root.places ignored).map Prod.fst, ?_, ?_, ordered, ordered.imp Precedes.ne, ?_, ?_⟩
  · rw [Node.walk_eq_preOrder, Node.preOrder, List.map_map, List.map_map]
    apply List.map_congr_left
    intro place listed
    exact (Node.mem_places.1 listed).2.symm
  · intro p
    constructor
    · intro listed
      obtain ⟨place, found, rfl⟩ := List.mem_map.1 listed
      exact (Node.mem_places.1 found).1
    · intro retained
      obtain ⟨node, here⟩ := retained.inside
      exact List.mem_map.2 ⟨(p, node), Node.mem_places.2 ⟨retained, here⟩, rfl⟩
  · rw [Node.places_eq]
    rfl
  · have start : Walk.found ignored { stack := [root] } = root.preOrder ignored := by simp [Walk.found]
    have count : ((root.places ignored).map Prod.fst).length = (root.preOrder ignored).length := by
      rw [Node.preOrder, List.length_map, List.length_map]
    have walked := @Walk.run_eq ignored { stack := [root] }
    rw [start] at walked
    rw [count, walked.2, walked.1, Node.walk_eq_preOrder, List.append_nil]

end CompileDb.Ast
