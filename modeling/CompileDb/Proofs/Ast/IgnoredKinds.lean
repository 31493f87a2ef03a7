import CompileDb.Proofs.Ast.Positions

/-!
# Walks that ignore more kinds

The more kinds a walk ignores, the fewer positions it lists, and those in the same order. The stacks of two walks
have nothing in common once one of them has left out children that the other has pushed, so the walks are not
compared round by round. The recursion that finds the same positions meets the same trees in both
(`places_sublist`): below a node either both go on, or the one that ignores more stops there.
-/

namespace CompileDb.Ast

namespace Node

variable {few many : Option (List Text)}

/-- Every kind that is ignored by `few` is ignored by `many`. -/
def IgnoresAsWell (many few : Option (List Text)) : Prop := ∀ kind, ignores few kind = true → ignores many kind = true

mutual

/-- Of a tree the positions that are looked at with more kinds ignored are among those with fewer. -/
theorem places_sublist (within : IgnoresAsWell many few) : ∀ node : Node, (node.places many).Sublist (node.places few)
  | mk kind name location inSystemHeader children => by
    rw [places, places]
    apply List.Sublist.cons_cons
    cases shut : ignores few kind with
    | true => rw [within kind shut, if_pos rfl, if_pos rfl]
    | false =>
      rw [if_neg (Bool.false_ne_true)]
      split
      · exact List.nil_sublist _
      · exact placesAll_sublist within 0 children

/-- The same of the trees of siblings. -/
theorem placesAll_sublist (within : IgnoresAsWell many few) (i : Nat) : ∀ nodes : List Node,
    (placesAll many i nodes).Sublist (placesAll few i nodes)
  | [] => .refl _
  | node :: rest => by
    rw [placesAll, placesAll]
    refine List.Sublist.append ?_ (placesAll_sublist within (i + 1) rest)
    split
    · exact .refl _
    · exact (places_sublist within node).map _

end

/-- A walk that ignores more lists, in the same order, some of what one that ignores less lists. -/
theorem walk_sublist (within : IgnoresAsWell many few) (root : Node) : (root.walk many).Sublist (root.walk few) := by
  rw [walk_eq_preOrder, walk_eq_preOrder]
  exact (places_sublist within root).map Prod.snd

/-- A walk depends on which kinds are ignored, and on nothing else about them. -/
theorem walk_congr {ignored other : Option (List Text)} (same : ∀ kind, ignores ignored kind = ignores other kind)
    (root : Node) : root.walk ignored = root.walk other := by
  apply (walk_sublist _ root).antisymm (walk_sublist _ root)
  · intro kind shut
    rw [same, shut]
  · intro kind shut
    rw [← same, shut]

/-- Only which kinds are listed counts, not their order or how often each is. -/
theorem ignores_congr {kinds others : List Text} (same : ∀ kind, kind ∈ kinds ↔ kind ∈ others) (kind : Text) :
    ignores (some kinds) kind = ignores (some others) kind := by
  rw [Bool.eq_iff_iff]
  simpa only [ignores, List.contains_iff_mem] using same kind

/-- The nodes of a walk are the nodes at the walked places. -/
theorem map_some_walk (ignored : Option (List Text)) (root : Node) :
    (root.walk ignored).map some = ((root.places ignored).map Prod.fst).map root.at? := by
  rw [walk_eq_preOrder, preOrder, List.map_map, List.map_map]
  apply List.map_congr_left
  intro place listed
  exact (mem_places.1 listed).2.symm

end Node

/-- **The more kinds are ignored, the fewer nodes a walk lists**, and these in the same order. The nodes are
those at positions that are listed once, so of two equal nodes each is found at its own place again. Kinds count by
membership alone, in whatever order and however often they are given, and to ignore no kinds is the same as not to
be given any. -/
theorem walk_sublist_of_subset (root : Node) :
    (∀ few many : List Text, few ⊆ many → (root.walk (some many)).Sublist (root.walk (some few)) ∧
      ∃ ps qs : List Position, ps.Sublist qs ∧ qs.Nodup ∧ (root.walk (some many)).map some = ps.map root.at? ∧
        (root.walk (some few)).map some = qs.map root.at?) ∧
    (∀ kinds others : List Text, (∀ kind, kind ∈ kinds ↔ kind ∈ others) →
      root.walk (some kinds) = root.walk (some others)) ∧
    root.walk (some []) = root.walk none := by
  refine ⟨?_, ?_, ?_⟩
  · intro few many subset
    have within : Node.IgnoresAsWell (some many) (some few) := by
      intro kind ignored
      simp only [Node.ignores, List.contains_iff_mem] at ignored ⊢
      exact subset ignored
    have ordered : ((root.places (some few)).map Prod.fst).Pairwise Precedes :=
      root.pairwise_places.map _ fun s t order => order
    exact ⟨Node.walk_sublist within root, _, _, (Node.places_sublist within root).map Prod.fst,
      ordered.imp Precedes.ne, Node.map_some_walk _ root, Node.map_some_walk _ root⟩
  · intro kinds others same
    exact Node.walk_congr (Node.ignores_congr same) root
  · exact @Node.walk_congr (some []) none (fun kind => rfl) root

/-- A tree with a node of an ignored kind below another. -/
theorem walk_sublist_of_subset_nested :
    let leaf (kind : Text) : Node := .mk kind none none false []
    let root : Node := .mk "A" none none false
      [.mk "B" none none false [leaf "C", .mk "D" none none false [leaf "E"]], .mk "D" none none false [leaf "E"]]
    let few : List Text := ["D"]
    let many : List Text := ["D", "B", "D"]
    few ⊆ many ∧ (root.walk (some many)).Sublist (root.walk (some few)) ∧
      (root.walk (some few)).map Node.kind = ["A", "B", "C", "D", "D"] ∧
      (root.walk (some many)).map Node.kind = ["A", "B", "D"] ∧
      (∀ kind, kind ∈ (["B", "D"] : List Text) ↔ kind ∈ many) ∧
        root.walk (some ["B", "D"]) = root.walk (some many) := by
  intro leaf root few many
  have subset : few ⊆ many := by decide
  have same : ∀ kind, kind ∈ (["B", "D"] : List Text) ↔ kind ∈ many := by
    intro kind
    simp only [many, List.mem_cons, List.not_mem_nil, or_false]
    tauto
  obtain ⟨sublist, members, -⟩ := walk_sublist_of_subset root
  refine ⟨subset, (sublist few many subset).1, ?_, ?_, same, members _ _ same⟩
  · rw [Node.walk_eq_preOrder]
    rfl
  · rw [Node.walk_eq_preOrder]
    rfl

end CompileDb.Ast
