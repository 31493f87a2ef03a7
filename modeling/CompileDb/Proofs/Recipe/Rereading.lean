import CompileDb.Proofs.Paths
import CompileDb.Proofs.Recipe.Soundness
import CompileDb.Proofs.Words.RoundTrip

/-!
# Arguments read as a command

Arguments have a switch and its value in two words. In a command only `-isystem` stands apart from its
value, so when arguments are read as a command, a bare `-D`, `-I` or `-W` is a word that no rule knows,
and the value behind it is judged as a word of its own. It is not known either unless it begins with a
dash (`Rule.firstVerdict_eq_none_of_head?`).

The directories of the system are written last. A scan that reaches them past unknown words takes flag
and value in turn (`Switch.scan_pairs_flag`), so a directory can be spelled like the flag itself.
-/

namespace CompileDb

namespace Rule

/-- The letter that every marker begins with. -/
def dash : Letter := '-'

/-- A word that does not begin with a dash is known to no rule. -/
theorem firstVerdict_eq_none_of_head? {word : Text} (plain : word.head? ≠ some dash) :
    firstVerdict all word = none := by
  rw [Option.eq_none_iff_forall_ne_some]
  intro verdict known
  obtain ⟨rule, -, judged⟩ := firstVerdict_eq_some_iff.1 known
  obtain ⟨rest, rfl⟩ := marker_isPrefix_of_judge judged
  exact plain (by cases rule <;> rfl)

end Rule

namespace Switch

/-- Nothing is kept of words that no rule knows. -/
theorem filter_isKept_scan_append {words : List Text}
    (unknown : ∀ word ∈ words, Rule.firstVerdict Rule.all word = none) (rest : List Text) :
    (scan (words ++ rest)).filter isKept = (scan rest).filter isKept := by
  induction words with
  | nil => rfl
  | cons word words ih =>
    rw [List.cons_append, scan_cons_of_unknown (unknown word (List.mem_cons_self ..)), List.filter_append,
      filter_isKept_ofUnknown, List.nil_append, ih fun word listed => unknown word (List.mem_cons_of_mem _ listed)]

/-- Flags and directories in turn are read as these directories. -/
theorem scan_pairs_flag (paths : List Path) :
    scan (Recipe.pairs flag (paths.map Path.text)) = paths.map .systemDir := by
  induction paths with
  | nil => rfl
  | cons path paths ih =>
    have first : Recipe.pairs flag ((path :: paths).map Path.text) =
        flag :: path.text :: Recipe.pairs flag (paths.map Path.text) := rfl
    have named : ¬ path.text = (("" : String) : Text) := path.text_ne_nil
    rw [first, scan_flag_cons, ih, ofSystemValue, if_neg named, path.ofText_text, List.map_cons]

end Switch

namespace Recipe

open Switch

/-- A recipe is made of what is kept of a command. -/
theorem ofEntry_of_filter_isKept {entry : Entry} {standard : Text} {systemDirs : List Path}
    (kept : (ofCommand entry.command).filter isKept = .standard standard :: systemDirs.map .systemDir) :
    ofEntry entry =
      { directory := entry.directory, systemDirs, standard, source := entry.file, output := entry.output } := by
  have sees : ∀ {α : Type} {category : Switch → Option α}, category .emptySystemDir = none →
      (∀ token, category (.incompleteDefinition token) = none) → (ofCommand entry.command).filterMap category =
        (category (.standard standard)).toList ++ systemDirs.filterMap fun path => category (.systemDir path) := by
    intro α category empty incomplete
    rw [← filterMap_filter_isKept empty incomplete, kept, List.filterMap_cons, List.filterMap_map]
    cases category (.standard standard) <;> rfl
  have noDefinitions := @sees _ definition? rfl fun _ => rfl
  have noIncludeDirs := @sees _ includeDir? rfl fun _ => rfl
  have theSystemDirs := @sees _ systemDir? rfl fun _ => rfl
  have theStandard := @sees _ standard? rfl fun _ => rfl
  have noWarnings := @sees _ warning? rfl fun _ => rfl
  simp [ofEntry, noDefinitions, noIncludeDirs, theSystemDirs, theStandard, noWarnings, definition?, includeDir?,
    systemDir?, standard?, warning?]

/-- The words of a category say nothing in a command, for no rule knows them. -/
def IsMute (r : Recipe) (c : Category) : Prop := ∀ word ∈ r.segment c, Rule.firstVerdict Rule.all word = none

/-- A segment written in pairs is mute when its switch is no word of its own and no value begins with a dash. -/
theorem isMute_of_pairs {r : Recipe} {c : Category} {switch : Text} {values : List Text}
    (written : r.segment c = pairs switch values) (bare : Rule.firstVerdict Rule.all switch = none)
    (plain : ∀ value ∈ values, value.head? ≠ some Rule.dash) : r.IsMute c := by
  intro word listed
  rw [written] at listed
  obtain ⟨value, among, listed⟩ := List.mem_flatMap.1 listed
  rcases List.mem_cons.1 listed with rfl | listed
  · exact bare
  · rw [List.mem_singleton.1 listed]
    exact Rule.firstVerdict_eq_none_of_head? (plain value among)

/-- Definitions without a leading dash are mute when read again. -/
theorem isMute_definitions {r : Recipe} (sound : r.IsSound)
    (plain : ∀ d ∈ r.definitions, d.1.head? ≠ some Rule.dash) : r.IsMute .definitions := by
  refine isMute_of_pairs rfl (by decide) fun value listed => ?_
  obtain ⟨d, among, rfl⟩ := List.mem_map.1 listed
  have own : (d.1 ++ "=" ++ d.2).head? = d.1.head? := by
    rw [List.append_assoc]
    exact List.head?_append_of_ne_nil _ (sound.named d among).1
  rw [own]
  exact plain d among

theorem isMute_includeDirs {r : Recipe} (plain : ∀ path ∈ r.includeDirs, path.text.head? ≠ some Rule.dash) :
    r.IsMute .includeDirs := by
  refine isMute_of_pairs rfl (by decide) fun value listed => ?_
  obtain ⟨path, among, rfl⟩ := List.mem_map.1 listed
  exact plain path among

/-- The categories that are written between the standard and the directories of the system. -/
def innerCategories : List Category := [.warnings, .warningsAsErrors, .definitions, .includeDirs]

/-- With standard and system directories selected, these stand first and last. -/
theorem arguments_of_has {r : Recipe} (stated : r.standard ≠ []) {f : Selector} (standard : f.has .standard = true)
    (systemDirs : f.has .systemDirs = true) :
    r.arguments f = leadingArguments ++ ("-std=" ++ r.standard) ::
      ((innerCategories.filter f.has).flatMap r.segment ++ pairs flag (r.systemDirs.map Path.text)) := by
  have order : writingOrder.filter f.has = .standard :: (innerCategories.filter f.has ++ [.systemDirs]) := by
    have split : writingOrder = .standard :: (innerCategories ++ [.systemDirs]) := rfl
    rw [split, List.filter_cons_of_pos standard, List.filter_append, List.filter_cons_of_pos systemDirs,
      List.filter_nil]
  have first : r.segment .standard = ["-std=" ++ r.standard] := if_neg stated
  rw [arguments, order, List.flatMap_cons, first, List.flatMap_append, List.flatMap_singleton]
  rfl

/-- Arguments that are read as a command give back the standard and the directories of the system, when
the words between these say nothing. -/
theorem ofEntry_of_arguments {r : Recipe} (stated : r.standard ≠ []) {f : Selector} (standard : f.has .standard = true)
    (systemDirs : f.has .systemDirs = true) (mute : ∀ c ∈ innerCategories, f.has c = true → r.IsMute c) {entry : Entry}
    (written : entry.command = Words.join (r.arguments f)) :
    ofEntry entry =
      { directory := entry.directory, systemDirs := r.systemDirs, standard := r.standard, source := entry.file
        output := entry.output } := by
  have leading : ∀ word ∈ leadingArguments, Rule.firstVerdict Rule.all word = none := by decide
  have inner : ∀ word ∈ (innerCategories.filter f.has).flatMap r.segment, Rule.firstVerdict Rule.all word = none := by
    intro word listed
    obtain ⟨c, selected, listed⟩ := List.mem_flatMap.1 listed
    obtain ⟨between, selected⟩ := List.mem_filter.1 selected
    exact mute c between selected word listed
  apply ofEntry_of_filter_isKept
  rw [ofCommand, written, Words.split, Words.split?_join, Option.getD_some, arguments_of_has stated standard systemDirs,
    filter_isKept_scan_append leading, scan_cons_of_reads (.standard stated), List.filter_cons_of_pos rfl,
    filter_isKept_scan_append inner, scan_pairs_flag, List.filter_eq_self.2 (by simp [isKept, notice?])]

/-- **Reading arguments again.** Of the arguments with the standard and the directories of the system alone,
read as a command, exactly these come back. The same comes back of the arguments for indexing, and neither
definitions nor directories for headers, when no name of a definition and no such directory begins with a
dash. -/
theorem ofEntry_join_arguments (entry other : Entry) :
    let r := ofEntry entry
    let known : Recipe :=
      { directory := other.directory, definitions := [], includeDirs := [], systemDirs := r.systemDirs
        standard := r.standard, warnings := [], warningsAsErrors := false, source := other.file
        output := other.output }
    ofEntry { other with command := Words.join (r.arguments (.only .standard ∪ .only .systemDirs)) } = known ∧
    ((∀ d ∈ r.definitions, d.1.head? ≠ some Rule.dash) →
      (∀ path ∈ r.includeDirs, path.text.head? ≠ some Rule.dash) →
      ofEntry { other with command := Words.join (r.arguments .forIndexing) } = known) := by
  intro r known
  have sound : r.IsSound := isSound_ofEntry entry
  constructor
  · have nothing : ∀ c ∈ innerCategories, (Selector.only .standard ∪ .only .systemDirs).has c = false := by decide
    refine ofEntry_of_arguments sound.standard (by decide) (by decide) (fun c between selected => ?_) rfl
    rw [nothing c between] at selected
    cases selected
  · intro plainNames plainDirs
    refine ofEntry_of_arguments sound.standard (by decide) (by decide) ?_ rfl
    intro c between selected
    cases c with
    | definitions => exact isMute_definitions sound plainNames
    | includeDirs => exact isMute_includeDirs plainDirs
    | warnings => cases selected
    | warningsAsErrors => cases selected
    | _ => exact absurd between (by decide)

/-- The directory that is spelled like the flag comes back as a directory. -/
theorem ofEntry_join_arguments_flag_dir :
    let command : Text := "c++ -DA=-I -I a -Ib -isystem -isystem -Wall -std=c++17"
    let entry : Entry := ⟨.ofText "/w", command, .ofText "x.cpp", .here⟩
    let other : Entry := ⟨.here, "", .ofText "y.cpp", .ofText "y.o"⟩
    let r := ofEntry entry
    (∀ d ∈ r.definitions, d.1.head? ≠ some Rule.dash) ∧ (∀ path ∈ r.includeDirs, path.text.head? ≠ some Rule.dash) ∧
      ofEntry { other with command := Words.join (r.arguments .forIndexing) } =
        { systemDirs := [.ofText "-isystem"], standard := "c++17", source := .ofText "y.cpp"
          output := .ofText "y.o" } := by
  intro command entry other r
  have plainNames : ∀ d ∈ r.definitions, d.1.head? ≠ some Rule.dash := by decide
  have plainDirs : ∀ path ∈ r.includeDirs, path.text.head? ≠ some Rule.dash := by decide
  refine ⟨plainNames, plainDirs, ?_⟩
  rw [(ofEntry_join_arguments entry other).2 plainNames plainDirs]
  decide

end Recipe

end CompileDb
