import CompileDb.Proofs.Paths
import CompileDb.Proofs.Recipe.Soundness

/-!
# What arguments say about a recipe

The arguments of all categories are the leading ones, the standard, and then switches and values in
turn. `valuesOf` reads such a list two words at a time, so a value is never taken for a switch,
whatever it looks like. With it each category of a sound recipe is found in its arguments
(`valuesOf_pairedArguments`), and recipes with equal arguments agree in every category that is
written.
-/

namespace CompileDb.Recipe

/-- The values that stand behind a switch, in a list of switches and values in turn. -/
def valuesOf (switch : Text) : List Text → List Text
  | name :: value :: rest => if name = switch then value :: valuesOf switch rest else valuesOf switch rest
  | _ => []

/-- The value of the switch for a definition. -/
def definitionText (d : Text × Text) : Text := d.1 ++ "=" ++ d.2

/-- The switches and values of a recipe in turn: all arguments but the leading ones and the standard. -/
def pairedArguments (r : Recipe) : List Text :=
  pairs "-W" r.warnings ++ (pairs "-W" (if r.warningsAsErrors then [errorWarning] else []) ++
    (pairs "-D" (r.definitions.map definitionText) ++
      (pairs "-I" (r.includeDirs.map Path.text) ++ pairs "-isystem" (r.systemDirs.map Path.text))))

/-- All arguments of a recipe with a standard: the leading ones, the standard, the pairs. -/
theorem arguments_all {r : Recipe} (stated : r.standard ≠ []) :
    r.arguments .all = leadingArguments ++ ("-std=" ++ r.standard) :: r.pairedArguments := by
  have order : writingOrder.filter Selector.all.has = writingOrder := by decide
  have written : r.arguments .all = leadingArguments ++ (r.segment .standard ++ (r.segment .warnings ++
      (r.segment .warningsAsErrors ++ (r.segment .definitions ++ (r.segment .includeDirs ++
        r.segment .systemDirs))))) := by
    rw [arguments, order]
    simp [writingOrder]
  have standard : r.segment .standard = ["-std=" ++ r.standard] := if_neg stated
  have asErrors : r.segment .warningsAsErrors =
      pairs "-W" (if r.warningsAsErrors then [errorWarning] else []) := by
    rw [segment]
    split <;> rfl
  rw [written, standard, asErrors]
  rfl

theorem valuesOf_pairs_append (switch name : Text) (values rest : List Text) :
    valuesOf switch (pairs name values ++ rest) = (if name = switch then values else []) ++ valuesOf switch rest := by
  induction values with
  | nil => simp [pairs]
  | cons value values ih =>
    have first : pairs name (value :: values) ++ rest = name :: value :: (pairs name values ++ rest) := rfl
    rw [first, valuesOf, ih]
    split <;> simp

/-- `valuesOf` undoes `pairs`, and finds nothing of another switch. -/
theorem valuesOf_pairs (switch name : Text) (values : List Text) :
    valuesOf switch (pairs name values) = if name = switch then values else [] := by
  have alone := valuesOf_pairs_append switch name values []
  rwa [List.append_nil, show valuesOf switch [] = [] from rfl, List.append_nil] at alone

/-- What each switch of the arguments stands in front of. -/
theorem valuesOf_pairedArguments (r : Recipe) :
    valuesOf "-W" r.pairedArguments = r.warnings ++ (if r.warningsAsErrors then [errorWarning] else []) ∧
    valuesOf "-D" r.pairedArguments = r.definitions.map definitionText ∧
    valuesOf "-I" r.pairedArguments = r.includeDirs.map Path.text ∧
    valuesOf "-isystem" r.pairedArguments = r.systemDirs.map Path.text := by
  simp only [pairedArguments, valuesOf_pairs_append, valuesOf_pairs]
  refine ⟨?_, ?_, ?_, ?_⟩ <;> simp [Text.ofString, Text.ofChars]

/-- The recipe that arguments of all categories are written for. Where the source and the output are
cannot be told from them. -/
def ofArguments (arguments : List Text) : Recipe :=
  let paired := arguments.drop (leadingArguments.length + 1)
  let named := valuesOf "-W" paired
  { definitions := (valuesOf "-D" paired).filterMap Rule.nameAndValue?
    includeDirs := (valuesOf "-I" paired).map .ofText
    systemDirs := (valuesOf "-isystem" paired).map .ofText
    standard := (arguments[leadingArguments.length]?.bind (Text.after? "-std=")).getD ""
    warnings := named.filter (· != errorWarning)
    warningsAsErrors := named.contains errorWarning }

theorem map_ofText_map_text (paths : List Path) : (paths.map Path.text).map Path.ofText = paths := by
  rw [List.map_map, show Path.ofText ∘ Path.text = id from funext Path.ofText_text, List.map_id]

/-- Definitions with sound names are cut at the equals signs that they are written with. -/
theorem filterMap_nameAndValue? {definitions : List (Text × Text)}
    (named : ∀ d ∈ definitions, d.1 ≠ [] ∧ Rule.equalsSign ∉ d.1) :
    (definitions.map definitionText).filterMap Rule.nameAndValue? = definitions := by
  induction definitions with
  | nil => rfl
  | cons d definitions ih =>
    obtain ⟨nonempty, plain⟩ := named d (by simp)
    have cut : Rule.nameAndValue? (definitionText d) = some d := by
      apply Rule.nameAndValue?_eq_some_iff.2
      exact ⟨List.append_assoc d.1 _ d.2, nonempty, plain⟩
    rw [List.map_cons, List.filterMap_cons_some cut, ih fun d' listed => named d' (List.mem_cons_of_mem _ listed)]

/-- **Arguments of all categories say what the categories hold.** -/
theorem ofArguments_arguments_all {r : Recipe} (sound : r.IsSound) :
    ofArguments (r.arguments .all) = { r with directory := .here, source := .here, output := .here } := by
  obtain ⟨warnings, definitions, includeDirs, systemDirs⟩ := r.valuesOf_pairedArguments
  have paired : (r.arguments .all).drop (leadingArguments.length + 1) = r.pairedArguments := by
    rw [arguments_all sound.standard]
    rfl
  have standard : (r.arguments .all)[leadingArguments.length]?.bind (Text.after? "-std=") = some r.standard := by
    rw [arguments_all sound.standard]
    exact Text.after?_eq_some_iff.2 rfl
  have ordinary : ∀ name ∈ r.warnings, name ≠ errorWarning := fun name listed => (sound.warnings name listed).ordinary
  have error : ∀ name ∈ (if r.warningsAsErrors then [errorWarning] else []), name = errorWarning := by
    split <;> simp
  have named : (r.warnings ++ if r.warningsAsErrors then [errorWarning] else []).filter (· != errorWarning) =
      r.warnings := by
    have kept : r.warnings.filter (· != errorWarning) = r.warnings :=
      List.filter_eq_self.2 fun name listed => by simpa using ordinary name listed
    have dropped : (if r.warningsAsErrors then [errorWarning] else []).filter (· != errorWarning) = [] :=
      List.filter_eq_nil_iff.2 fun name listed => by simpa using error name listed
    rw [List.filter_append, kept, dropped, List.append_nil]
  have asErrors : (r.warnings ++ if r.warningsAsErrors then [errorWarning] else []).contains errorWarning =
      r.warningsAsErrors := by
    have absent : errorWarning ∉ r.warnings := fun listed => ordinary errorWarning listed rfl
    rw [Bool.eq_iff_iff, List.contains_iff_mem, List.mem_append, or_iff_right absent]
    split <;> simp_all
  simp only [ofArguments, paired, standard, warnings, definitions, includeDirs, systemDirs, Option.getD_some,
    filterMap_nameAndValue? sound.named, map_ofText_map_text, named, asErrors]

/-- Arguments depend on nothing but the categories that are written. -/
theorem arguments_all_congr {r s : Recipe} (standard : r.standard = s.standard) (warnings : r.warnings = s.warnings)
    (asErrors : r.warningsAsErrors = s.warningsAsErrors) (definitions : r.definitions = s.definitions)
    (includeDirs : r.includeDirs = s.includeDirs) (systemDirs : r.systemDirs = s.systemDirs) :
    r.arguments .all = s.arguments .all := by
  have segments : r.segment = s.segment := by
    funext c
    cases c <;> simp only [segment, standard, warnings, asErrors, definitions, includeDirs, systemDirs]
  rw [arguments, arguments, segments]

/-- **Nothing is lost in writing.** Recipes of two entries have the same arguments exactly when they agree
in every category that is written. -/
theorem arguments_all_eq_iff (e₁ e₂ : Entry) :
    (ofEntry e₁).arguments .all = (ofEntry e₂).arguments .all ↔
      (ofEntry e₁).standard = (ofEntry e₂).standard ∧ (ofEntry e₁).warnings = (ofEntry e₂).warnings ∧
      (ofEntry e₁).warningsAsErrors = (ofEntry e₂).warningsAsErrors ∧
      (ofEntry e₁).definitions = (ofEntry e₂).definitions ∧
      (ofEntry e₁).includeDirs = (ofEntry e₂).includeDirs ∧
      (ofEntry e₁).systemDirs = (ofEntry e₂).systemDirs := by
  constructor
  · intro same
    have read := congrArg ofArguments same
    rw [ofArguments_arguments_all (isSound_ofEntry e₁), ofArguments_arguments_all (isSound_ofEntry e₂)] at read
    injection read with _ definitions includeDirs systemDirs standard warnings asErrors
    exact ⟨standard, warnings, asErrors, definitions, includeDirs, systemDirs⟩
  · rintro ⟨standard, warnings, asErrors, definitions, includeDirs, systemDirs⟩
    exact arguments_all_congr standard warnings asErrors definitions includeDirs systemDirs

end CompileDb.Recipe
