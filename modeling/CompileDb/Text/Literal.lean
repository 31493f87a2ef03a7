/-!
# Literal text in a text

`after?` takes a literal marker off the front of a text; it succeeds on exactly the texts that
are the marker followed by its answer (`after?_eq_some_iff`). `holds` looks for a marker anywhere
(`holds_iff`). What a text is made of does not matter.
-/

namespace CompileDb.Text

variable {α : Type} [DecidableEq α]

/-- What follows the literal text `marker` at the beginning of a text. -/
def after? : List α → List α → Option (List α)
  | [], text => some text
  | _ :: _, [] => none
  | m :: marker, c :: text => if m = c then after? marker text else none

/-- `after?` cuts the marker off the front, and nothing else. -/
theorem after?_eq_some_iff {marker text rest : List α} :
    after? marker text = some rest ↔ text = marker ++ rest := by
  fun_induction after? marker text with
  | case1 text => simp
  | case2 => simp
  | case3 c marker text ih => simp [ih]
  | case4 m marker c text h => simp [Ne.symm h]

/-- Whether a text holds the literal text `marker` somewhere. -/
def holds (marker : List α) : List α → Bool
  | [] => marker.isEmpty
  | c :: text => (after? marker (c :: text)).isSome || holds marker text

/-- A text begins with the marker exactly when something can be cut off. -/
theorem isSome_after?_iff {marker text : List α} :
    (after? marker text).isSome = true ↔ marker <+: text := by
  rw [Option.isSome_iff_exists]
  exact ⟨fun ⟨rest, h⟩ => ⟨rest, (after?_eq_some_iff.1 h).symm⟩,
    fun ⟨rest, h⟩ => ⟨rest, after?_eq_some_iff.2 h.symm⟩⟩

/-- `holds` searches every place of a text. -/
theorem holds_iff {marker text : List α} : holds marker text = true ↔ marker <:+: text := by
  induction text with
  | nil => simp [holds]
  | cons c text ih => rw [holds, Bool.or_eq_true, isSome_after?_iff, ih, List.infix_cons_iff]

end CompileDb.Text
