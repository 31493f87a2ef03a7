import CompileDb.Recipe
import Mathlib.Data.List.Basic
import Mathlib.Data.List.Flatten

/-!
# Arguments of selected categories

Whether a category is in a selector is one bit of it, so union and intersection of selectors are those of their
categories (`Selector.has_union`, `Selector.has_inter`). The arguments of a selector are the segments of its
categories in a fixed order, and no segment knows of the selector. What holds of selected categories in a list
therefore holds of the arguments written for them.
-/

namespace CompileDb

namespace Category

/-- The place of the bit of a category. -/
def index : Category → Nat
  | includeDirs => 0
  | systemDirs => 1
  | definitions => 2
  | warnings => 3
  | warningsAsErrors => 4
  | standard => 5
  | source => 6
  | output => 7

end Category

namespace Selector

theorem bits_only (c : Category) : (only c).bits = BitVec.twoPow 8 c.index := by cases c <;> rfl

/-- A category is in a selector iff its bit is set. -/
theorem has_eq_getLsbD (f : Selector) (c : Category) : f.has c = f.bits.getLsbD c.index := by
  have apart : BitVec.twoPow 8 c.index ≠ 0#8 := by cases c <;> decide
  rw [has, contains, bits_only, BitVec.and_twoPow]
  cases f.bits.getLsbD c.index with
  | true => rw [if_pos rfl, beq_self_eq_true]
  | false =>
    rw [if_neg Bool.false_ne_true, beq_eq_false_iff_ne]
    exact apart.symm

/-- A union selects what either side does. -/
@[simp] theorem has_union (f g : Selector) (c : Category) : (f ∪ g).has c = (f.has c || g.has c) := by
  rw [has_eq_getLsbD, has_eq_getLsbD, has_eq_getLsbD, ← BitVec.getLsbD_or]
  rfl

/-- An intersection selects what both sides do. -/
@[simp] theorem has_inter (f g : Selector) (c : Category) : (f ∩ g).has c = (f.has c && g.has c) := by
  rw [has_eq_getLsbD, has_eq_getLsbD, has_eq_getLsbD, ← BitVec.getLsbD_and]
  rfl

theorem has_of_contains {f g : Selector} (within : g.contains f = true) {c : Category} (selected : f.has c = true) :
    g.has c = true := by
  have bits : g.bits &&& f.bits = f.bits := beq_iff_eq.1 within
  rw [has_eq_getLsbD, ← bits, BitVec.getLsbD_and, Bool.and_eq_true] at selected
  rw [has_eq_getLsbD, selected.1]

end Selector

namespace Recipe

/-- The categories that are written somewhere among the arguments. -/
def writtenCategories : List Category :=
  [.includeDirs, .systemDirs, .definitions, .warnings, .warningsAsErrors, .standard]

theorem mem_writtenCategories {c : Category} (listed : c ∈ writingOrder) : c ∈ writtenCategories := by
  revert c
  decide

/-- Selectors that agree on the categories written select the same arguments. -/
theorem arguments_congr {f g : Selector} (same : ∀ c ∈ writtenCategories, f.has c = g.has c) (r : Recipe) :
    r.arguments f = r.arguments g := by
  have selected : writingOrder.filter f.has = writingOrder.filter g.has :=
    List.filter_congr fun c listed => same c (mem_writtenCategories listed)
  rw [arguments, arguments, selected]

/-- A wider selector writes more arguments around those of a narrower one. -/
theorem arguments_sublist {f g : Selector} (within : g.contains f = true) (r : Recipe) :
    (r.arguments f).Sublist (r.arguments g) := by
  have selected : (writingOrder.filter f.has).Sublist (writingOrder.filter g.has) :=
    List.monotone_filter_right writingOrder fun c => Selector.has_of_contains within
  exact (selected.flatMap r.segment).append_left leadingArguments

/-- What two tests select from a list is as long as what either selects and what both select. -/
theorem length_flatMap_filter_or_add_and {α β : Type} (p q : α → Bool) (write : α → List β) (items : List α) :
    ((items.filter fun a => p a || q a).flatMap write).length +
        ((items.filter fun a => p a && q a).flatMap write).length =
      ((items.filter p).flatMap write).length + ((items.filter q).flatMap write).length := by
  induction items with
  | nil => rfl
  | cons a items ih =>
    cases inFirst : p a <;> cases inSecond : q a <;>
      simp only [List.filter_cons, inFirst, inSecond, Bool.or_true, Bool.or_false, Bool.and_true, Bool.and_false,
        Bool.false_eq_true, if_true, if_false, List.flatMap_cons, List.length_append] <;> omega

theorem length_arguments (r : Recipe) (f : Selector) : (r.arguments f).length =
    leadingArguments.length + ((writingOrder.filter f.has).flatMap r.segment).length := List.length_append

/-- Lengths balance as sizes of sets do. -/
theorem length_arguments_union_add_inter (r : Recipe) (f g : Selector) :
    (r.arguments (f ∪ g)).length + (r.arguments (f ∩ g)).length =
      (r.arguments f).length + (r.arguments g).length := by
  have union : (f ∪ g).has = fun c => f.has c || g.has c := funext (Selector.has_union f g)
  have inter : (f ∩ g).has = fun c => f.has c && g.has c := funext (Selector.has_inter f g)
  have counts := length_flatMap_filter_or_add_and f.has g.has r.segment writingOrder
  rw [length_arguments, length_arguments, length_arguments, length_arguments, union, inter]
  omega

/-- **Each category is written by itself.** The arguments of a recipe, whatever it holds, are told by the six
categories that are written, so the source and the output have no part in them, and those for indexing are all
but the warnings. Fewer categories have fewer arguments, in the same order. As many arguments are written for two
selectors together as for their union and their intersection. -/
theorem arguments_by_category (r : Recipe) (f g : Selector) :
    ((∀ c ∈ [Category.includeDirs, .systemDirs, .definitions, .warnings, .warningsAsErrors, .standard],
      f.has c = g.has c) → r.arguments f = r.arguments g) ∧
    r.arguments (f ∪ (.only .source ∪ .only .output)) = r.arguments f ∧
    r.arguments .forIndexing = r.arguments (.all ∩ ~~~(.only .warnings ∪ .only .warningsAsErrors)) ∧
    (g.contains f = true → (r.arguments f).Sublist (r.arguments g)) ∧
    (r.arguments (f ∪ g)).length + (r.arguments (f ∩ g)).length =
      (r.arguments f).length + (r.arguments g).length := by
  refine ⟨fun same => arguments_congr same r, ?_, ?_, fun within => arguments_sublist within r,
    length_arguments_union_add_inter r f g⟩
  · have apart : ∀ c ∈ writtenCategories, (Selector.only .source ∪ .only .output).has c = false := by decide
    refine arguments_congr (fun c listed => ?_) r
    rw [Selector.has_union, apart c listed, Bool.or_false]
  · exact arguments_congr (by decide) r

/-- A recipe made by hand, with a warning that no command would leave among the warnings. -/
theorem arguments_by_category_handmade :
    let r : Recipe :=
      { definitions := [("A", "1"), ("A=", "")], includeDirs := [.ofText "-I"], standard := "", warnings := ["error"],
        warningsAsErrors := true }
    let f : Selector := .only .definitions ∪ .only .source
    let g : Selector := .only .definitions ∪ .only .warningsAsErrors ∪ .only .source
    let h : Selector := .only .definitions ∪ .only .output
    (∀ c ∈ [Category.includeDirs, .systemDirs, .definitions, .warnings, .warningsAsErrors, .standard],
      f.has c = h.has c) ∧ f ≠ h ∧ r.arguments f = r.arguments h ∧
      g.contains f = true ∧ (r.arguments f).Sublist (r.arguments g) ∧
      (r.arguments (h ∪ g)).length + (r.arguments (h ∩ g)).length = 16 := by
  intro r f g h
  have same : ∀ c ∈ [Category.includeDirs, .systemDirs, .definitions, .warnings, .warningsAsErrors, .standard],
      f.has c = h.has c := by decide
  have within : g.contains f = true := by decide
  obtain ⟨-, -, -, -, counts⟩ := arguments_by_category r h g
  refine ⟨same, by decide, (arguments_by_category r f h).1 same, within,
    (arguments_by_category r f g).2.2.2.1 within, counts.trans (by decide)⟩

end Recipe

end CompileDb
