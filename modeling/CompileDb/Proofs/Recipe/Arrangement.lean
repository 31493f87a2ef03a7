import CompileDb.Proofs.Paths
import CompileDb.Proofs.Recipe.Soundness
import CompileDb.Proofs.Words.RoundTrip

/-!
# Switches in any order

The switches of a sound recipe, each with its value attached, can stand in a command in any order
that keeps the order inside each category: the command is read back as the recipe
(`ofEntry_of_arranges`). No word of such a command is a bare flag, so it is scanned word by word
(`Switch.scan_eq_flatMap`), and what one category sees of it comes from the words of that category
(`Recipe.filterMap_scan`).
-/

namespace CompileDb

namespace Switch

/-- The switches that a word leaves behind which is neither a flag nor the value of one. -/
def ofWord (token : Text) : List Switch :=
  match Rule.firstVerdict Rule.all token with
  | some (.reads switch) => [switch]
  | _ => ofUnknown token

/-- A word that a rule reads is read as that switch. -/
theorem ofWord_of_reads {rule : Rule} {token : Text} {switch : Switch} (reads : rule.Reads token switch) :
    ofWord token = [switch] := by
  rw [ofWord, Rule.firstVerdict_all_eq_reads_iff.2 ⟨rule, reads⟩]

/-- Without a flag every word is scanned on its own. -/
theorem scan_eq_flatMap {tokens : List Text} (noFlag : flag ∉ tokens) : scan tokens = tokens.flatMap ofWord := by
  unfold scan
  fun_induction scanWith Rule.all tokens with
  | case1 => rfl
  | case2 token bare => exact absurd (firstVerdict_eq_awaitsValue_iff.1 bare) (by simpa [eq_comm] using noFlag)
  | case3 token value rest bare =>
    rw [firstVerdict_eq_awaitsValue_iff.1 bare] at noFlag
    exact absurd (List.mem_cons_self ..) noFlag
  | case4 token switch rest known ih =>
    rw [List.flatMap_cons, ofWord, known, ih fun listed => noFlag (List.mem_cons_of_mem _ listed)]
    rfl
  | case5 token rest unknown ih =>
    rw [List.flatMap_cons, ofWord, unknown, ih fun listed => noFlag (List.mem_cons_of_mem _ listed)]

/-- The category that a switch belongs to. -/
def category? : Switch → Option Category
  | definition .. => some .definitions
  | includeDir _ => some .includeDirs
  | systemDir _ => some .systemDirs
  | warning name => if name = Recipe.errorWarning then some .warningsAsErrors else some .warnings
  | standard _ => some .standard
  | emptySystemDir | incompleteDefinition _ => none

end Switch

namespace Recipe

open Switch

/-- The words that a category is written with when values are attached. -/
def attachedForms (r : Recipe) : Category → List Text
  | .definitions => r.definitions.map fun d => "-D" ++ d.1 ++ "=" ++ d.2
  | .includeDirs => r.includeDirs.map fun path => "-I" ++ path.text
  | .systemDirs => r.systemDirs.map fun path => "-isystem" ++ path.text
  | .warnings => r.warnings.map fun name => "-W" ++ name
  | .warningsAsErrors => if r.warningsAsErrors then ["-Werror"] else []
  | .standard => ["-std=" ++ r.standard]
  | .source | .output => []

/-- A line holds the words of every category in their order, whatever stands between them. Each word
of the line comes with its category. -/
def Arranges (r : Recipe) (line : List (Category × Text)) : Prop :=
  ∀ c, (line.filter fun word => word.1 = c).map Prod.snd = r.attachedForms c

/-- The switches that the words of a category state. -/
def switches (r : Recipe) : Category → List Switch
  | .definitions => r.definitions.map fun d => .definition d.1 d.2
  | .includeDirs => r.includeDirs.map .includeDir
  | .systemDirs => r.systemDirs.map .systemDir
  | .warnings => r.warnings.map .warning
  | .warningsAsErrors => if r.warningsAsErrors then [.warning errorWarning] else []
  | .standard => [.standard r.standard]
  | .source | .output => []

/-- The switches a sound recipe has under a category are of it. -/
theorem category?_of_mem_switches {r : Recipe} (sound : r.IsSound) {c : Category} {switch : Switch}
    (listed : switch ∈ r.switches c) : switch.category? = some c := by
  cases c with
  | warnings =>
    obtain ⟨name, named, rfl⟩ := List.mem_map.1 listed
    exact if_neg (sound.warnings name named).ordinary
  | warningsAsErrors =>
    rw [switches] at listed
    split at listed
    · rw [List.mem_singleton.1 listed]
      rfl
    · cases listed
  | standard =>
    rw [List.mem_singleton.1 listed]
    rfl
  | source => cases listed
  | output => cases listed
  | _ =>
    obtain ⟨value, -, rfl⟩ := List.mem_map.1 listed
    rfl

theorem flatMap_ofWord_map {α : Type} {values : List α} {word : α → Text} {switch : α → Switch}
    (read : ∀ value ∈ values, ∃ rule : Rule, rule.Reads (word value) (switch value)) :
    (values.map word).flatMap ofWord = values.map switch := by
  rw [List.flatMap_map, List.map_eq_flatMap]
  apply List.flatMap_congr
  intro value listed
  obtain ⟨rule, reads⟩ := read value listed
  exact ofWord_of_reads reads

variable {r : Recipe}

theorem reads_includeDir (path : Path) : Rule.includeDir.Reads ("-I" ++ path.text) (.includeDir path) := by
  have reads := Rule.Reads.includeDir path.text_ne_nil
  rwa [path.ofText_text] at reads

theorem reads_systemDir (path : Path) : Rule.systemDir.Reads ("-isystem" ++ path.text) (.systemDir path) := by
  have reads := Rule.Reads.systemDir path.text_ne_nil
  rwa [path.ofText_text] at reads

theorem reads_definition {d : Text × Text} (named : d.1 ≠ [] ∧ Rule.equalsSign ∉ d.1) :
    Rule.definition.Reads ("-D" ++ d.1 ++ "=" ++ d.2) (.definition d.1 d.2) := by
  have reads := Rule.Reads.definition d.2 named.1 named.2
  simpa [Text.ofString, Text.ofChars, Rule.equalsSign] using reads

theorem reads_errorWarning : Rule.warning.Reads "-Werror" (.warning errorWarning) :=
  @Rule.Reads.warning errorWarning (by decide) (by decide)

/-- The words of a category are read as its switches. -/
theorem flatMap_ofWord_attachedForms (sound : r.IsSound) (c : Category) :
    (r.attachedForms c).flatMap ofWord = r.switches c := by
  cases c with
  | definitions => exact flatMap_ofWord_map fun d listed => ⟨_, reads_definition (sound.named d listed)⟩
  | includeDirs => exact flatMap_ofWord_map fun path _ => ⟨_, reads_includeDir path⟩
  | systemDirs => exact flatMap_ofWord_map fun path _ => ⟨_, reads_systemDir path⟩
  | warnings =>
    exact flatMap_ofWord_map fun name listed =>
      ⟨_, .warning (sound.warnings name listed).nonempty (sound.warnings name listed).own⟩
  | warningsAsErrors =>
    rw [attachedForms, switches]
    split
    · rw [List.flatMap_singleton, ofWord_of_reads reads_errorWarning]
    · rfl
  | standard => rw [attachedForms, List.flatMap_singleton, ofWord_of_reads (.standard sound.standard), switches]
  | source => rfl
  | output => rfl

section Line

variable {line : List (Category × Text)}

/-- Every word of an arranged line is an attached form of its recipe. -/
theorem mem_attachedForms (arranged : r.Arranges line) {word : Category × Text} (listed : word ∈ line) :
    word.2 ∈ r.attachedForms word.1 := by
  rw [← arranged word.1]
  exact List.mem_map.2 ⟨word, List.mem_filter.2 ⟨listed, by simp⟩, rfl⟩

/-- No attached form is the bare flag, so no word is taken for its value. -/
theorem flag_not_mem_attachedForms (r : Recipe) (c : Category) : flag ∉ r.attachedForms c := by
  cases c with
  | systemDirs =>
    intro listed
    obtain ⟨path, -, same⟩ := List.mem_map.1 listed
    exact path.text_ne_nil (by simpa [flag] using same)
  | warningsAsErrors =>
    rw [attachedForms]
    split <;> decide
  | source => simp [attachedForms]
  | output => simp [attachedForms]
  | _ => simp [attachedForms, flag, Text.ofString, Text.ofChars]

/-- Elements that contribute nothing can be left out first. -/
theorem flatMap_eq_flatMap_filter {α β : Type} {f : α → List β} {p : α → Bool} {xs : List α}
    (nothing : ∀ x ∈ xs, p x = false → f x = []) : xs.flatMap f = (xs.filter p).flatMap f := by
  induction xs with
  | nil => rfl
  | cons x xs ih =>
    have rest := ih fun y listed => nothing y (List.mem_cons_of_mem _ listed)
    cases own : p x with
    | true => rw [List.filter_cons_of_pos own, List.flatMap_cons, List.flatMap_cons, rest]
    | false =>
      rw [List.filter_cons_of_neg (by simp [own]), List.flatMap_cons, nothing x (by simp) own, rest, List.nil_append]

/-- What is sought among the switches of one category only is found in the words of that category. -/
theorem filterMap_scan (sound : r.IsSound) (arranged : r.Arranges line) {α : Type} {seek : Switch → Option α}
    {c : Category} (within : ∀ switch value, seek switch = some value → switch.category? = some c) :
    (scan (line.map Prod.snd)).filterMap seek = (r.switches c).filterMap seek := by
  have noFlag : flag ∉ line.map Prod.snd := by
    intro listed
    obtain ⟨word, listed, same⟩ := List.mem_map.1 listed
    exact r.flag_not_mem_attachedForms word.1 (same ▸ mem_attachedForms arranged listed)
  -- The words of another category leave switches of that category, and none of these is sought.
  have nothing : ∀ word ∈ line, decide (word.1 = c) = false → (ofWord word.2).filterMap seek = [] := by
    intro word listed other
    rw [List.filterMap_eq_nil_iff]
    intro switch read
    have among : switch ∈ r.switches word.1 := by
      rw [← flatMap_ofWord_attachedForms sound]
      exact List.mem_flatMap.2 ⟨word.2, mem_attachedForms arranged listed, read⟩
    rw [Option.eq_none_iff_forall_ne_some]
    intro value found
    have category := within switch value found
    rw [category?_of_mem_switches sound among] at category
    exact of_decide_eq_false other (Option.some.inj category)
  rw [scan_eq_flatMap noFlag, List.filterMap_flatMap, List.flatMap_map, flatMap_eq_flatMap_filter nothing,
    ← flatMap_ofWord_attachedForms sound, ← arranged c, List.filterMap_flatMap, List.flatMap_map]

/-- The values of a category are read back in their order. -/
theorem filterMap_scan_values (sound : r.IsSound) (arranged : r.Arranges line) {α : Type}
    {seek : Switch → Option α} {c : Category} {state : α → Switch} {values : List α}
    (stated : r.switches c = values.map state) (own : ∀ value, seek (state value) = some value)
    (within : ∀ switch value, seek switch = some value → switch.category? = some c) :
    (scan (line.map Prod.snd)).filterMap seek = values := by
  have same : seek ∘ state = some := funext own
  rw [filterMap_scan sound arranged within, stated, List.filterMap_map, same, List.filterMap_some]

/-- What is sought in a category that has a kind of switch of its own comes from that category. -/
theorem category?_of_found (switch : Switch) :
    (∀ d, definition? switch = some d → switch.category? = some .definitions) ∧
    (∀ path, includeDir? switch = some path → switch.category? = some .includeDirs) ∧
    (∀ path, systemDir? switch = some path → switch.category? = some .systemDirs) ∧
    ∀ name, standard? switch = some name → switch.category? = some .standard := by
  refine ⟨?_, ?_, ?_, ?_⟩ <;> intro value found <;> cases switch <;> first | rfl | cases found

theorem eq_warning_of_filter {switch : Switch} {p : Text → Bool} {name : Text}
    (found : (warning? switch).filter p = some name) : switch = .warning name ∧ p name = true := by
  obtain ⟨named, test⟩ := Option.filter_eq_some_iff.1 found
  cases switch with
  | warning name' =>
    cases named
    exact ⟨rfl, test⟩
  | _ => cases named

/-- The names of warnings come from two categories: the one that makes errors of all warnings stands
for itself, the others are the warnings of the recipe. -/
theorem filter_warning?_scan (sound : r.IsSound) (arranged : r.Arranges line) :
    ((scan (line.map Prod.snd)).filterMap warning?).filter (· != errorWarning) = r.warnings ∧
    ((scan (line.map Prod.snd)).filterMap warning?).filter (· == errorWarning) =
      if r.warningsAsErrors then [errorWarning] else [] := by
  rw [List.filter_filterMap, List.filter_filterMap]
  constructor
  · have names : (r.switches .warnings).filterMap warning? = r.warnings := by
      simp [switches, List.filterMap_map, Function.comp_def, warning?]
    rw [filterMap_scan sound arranged (c := .warnings), ← List.filter_filterMap, names, List.filter_eq_self]
    · intro name listed
      simpa using (sound.warnings name listed).ordinary
    · intro switch name found
      obtain ⟨rfl, ordinary⟩ := eq_warning_of_filter found
      exact if_neg (by simpa using ordinary)
  · rw [filterMap_scan sound arranged (c := .warningsAsErrors), switches]
    · cases r.warningsAsErrors <;> rfl
    · intro switch name found
      obtain ⟨rfl, error⟩ := eq_warning_of_filter found
      exact if_pos (by simpa using error)

/-- **Switches are read back from any order.** A command that holds the switches of a sound recipe with
their values attached, in any order that keeps the order inside each category, is read as that recipe,
whatever the values look like. -/
theorem ofEntry_of_arranges (sound : r.IsSound) (arranged : r.Arranges line) (entry : Entry)
    (written : entry.command = Words.join (line.map Prod.snd)) :
    ofEntry entry =
      { r with directory := entry.directory, source := entry.file, output := entry.output } := by
  have words : ofCommand entry.command = scan (line.map Prod.snd) := by
    rw [written, ofCommand, Words.split, Words.split?_join, Option.getD_some]
  have definitions : (scan (line.map Prod.snd)).filterMap definition? = r.definitions :=
    filterMap_scan_values sound arranged (c := .definitions) rfl (fun _ => rfl) fun switch =>
      (category?_of_found switch).1
  have includeDirs : (scan (line.map Prod.snd)).filterMap includeDir? = r.includeDirs :=
    filterMap_scan_values sound arranged (c := .includeDirs) rfl (fun _ => rfl) fun switch =>
      (category?_of_found switch).2.1
  have systemDirs : (scan (line.map Prod.snd)).filterMap systemDir? = r.systemDirs :=
    filterMap_scan_values sound arranged (c := .systemDirs) rfl (fun _ => rfl) fun switch =>
      (category?_of_found switch).2.2.1
  have standard : (scan (line.map Prod.snd)).filterMap standard? = [r.standard] :=
    filterMap_scan_values sound arranged (c := .standard) rfl (fun _ => rfl) fun switch =>
      (category?_of_found switch).2.2.2
  obtain ⟨ordinary, error⟩ := filter_warning?_scan sound arranged
  have asErrors : ((scan (line.map Prod.snd)).filterMap warning?).contains errorWarning = r.warningsAsErrors := by
    have alone : errorWarning ∈ (scan (line.map Prod.snd)).filterMap warning? ↔
        errorWarning ∈ ((scan (line.map Prod.snd)).filterMap warning?).filter (· == errorWarning) := by
      rw [List.mem_filter, and_iff_left (beq_self_eq_true _)]
    rw [Bool.eq_iff_iff, List.contains_iff_mem, alone, error]
    cases r.warningsAsErrors <;> simp
  simp only [ofEntry, words, definitions, includeDirs, systemDirs, standard, ordinary, asErrors,
    eraseDups_eq_self sound.distinct, List.head?_cons, Option.getD_some]

theorem ofEntry_of_arranges_mixed :
    let r : Recipe :=
      { definitions := [("A", "=b c"), ("-I", "")], includeDirs := [.ofText "-D", .ofText "a b/'"]
        systemDirs := [.ofText "-isystem"], standard := "c++17", warnings := ["all", "l"]
        warningsAsErrors := true }
    let line : List (Category × Text) :=
      [(.warningsAsErrors, "-Werror"), (.systemDirs, "-isystem-isystem"), (.definitions, "-DA==b c"),
       (.warnings, "-Wall"), (.includeDirs, "-I-D"), (.standard, "-std=c++17"), (.definitions, "-D-I="),
       (.warnings, "-Wl"), (.includeDirs, "-Ia b/'")]
    let entry : Entry := ⟨.ofText "/w", Words.join (line.map Prod.snd), .ofText "x.cpp", .here⟩
    r.IsSound ∧ r.Arranges line ∧
      ofEntry entry = { r with directory := .ofText "/w", source := .ofText "x.cpp", output := .here } := by
  intro r line entry
  have sound : r.IsSound := by
    refine ⟨by decide, ?_, by decide, by decide⟩
    intro name listed
    simp only [r, List.mem_cons, List.not_mem_nil, or_false] at listed
    rcases listed with rfl | rfl
    · exact ⟨by decide, by decide, by decide⟩
    · exact ⟨by decide, by decide, by decide⟩
  have arranged : r.Arranges line := by
    intro c
    cases c <;> rfl
  exact ⟨sound, arranged, ofEntry_of_arranges sound arranged entry rfl⟩

end Line

end Recipe

end CompileDb
