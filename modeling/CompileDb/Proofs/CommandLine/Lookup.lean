import CompileDb.Proofs.CommandLine.Echo
import CompileDb.Proofs.Database.Documents
import CompileDb.Proofs.Paths
import CompileDb.Proofs.Quiet
import Mathlib.Data.List.TakeWhile

/-!
# Looking up the arguments for a source

A source is looked up by its text. Recipes whose source is written in this way come first; only when there
are none does the name of the file decide (`recipesOf_of_written`, `recipesOf_of_not_written`). Each of these
recipes is answered with a line, up to the first that there are no bytes for (`Answers`). The lines are cut into
the arguments of their recipes again, less the control sequences in them (`echoArguments_splits_back`).

A source as the database lists it need not be written the way its path is. Where it is, the lookup finds the
recipes at that path and no others; where it is not, it finds all that share the name of the file
(`echoArguments_of_listed`).
-/

namespace CompileDb

open Text (withoutSequences)

namespace Recipe

/-- The source of a recipe is written in this way, by itself or seen from where its directory is seen. -/
def IsWritten (source : Text) (r : Recipe) : Prop := r.source.text = source ∨ r.anchoredSource.text = source

/-- The source of a recipe has the file name of a source. -/
def IsNamed (source : Text) (r : Recipe) : Prop := r.source.name = (Path.ofText source).name

/-- The source of a recipe is at a path, by itself or seen from where its directory is seen. -/
def IsAt (path : Path) (r : Recipe) : Prop := r.source = path ∨ r.anchoredSource = path

instance (source : Text) (r : Recipe) : Decidable (r.IsWritten source) := inferInstanceAs (Decidable (_ ∨ _))

instance (source : Text) (r : Recipe) : Decidable (r.IsNamed source) := inferInstanceAs (Decidable (_ = _))

instance (path : Path) (r : Recipe) : Decidable (r.IsAt path) := inferInstanceAs (Decidable (_ ∨ _))

/-- A path is written in one way only. -/
theorem isWritten_iff_isAt {source : Text} (normal : (Path.ofText source).text = source) (r : Recipe) :
    r.IsWritten source ↔ r.IsAt (.ofText source) := by
  have same : ∀ path : Path, path.text = source ↔ path = .ofText source := by
    intro path
    constructor
    · intro written
      exact Path.text_injective (written.trans normal.symm)
    · rintro rfl
      exact normal
  rw [IsWritten, IsAt, same, same]

/-- A source that normalisation changes is written by no recipe. -/
theorem not_isWritten {source : Text} (abnormal : (Path.ofText source).text ≠ source) (r : Recipe) :
    ¬ r.IsWritten source := by
  rintro (rfl | rfl) <;> exact abnormal (congrArg Path.text (Path.ofText_text _))

/-- There are bytes for all the arguments of a recipe. -/
def IsWhole (selector : Selector) (r : Recipe) : Prop := ∀ argument ∈ r.arguments selector, argument.IsWhole

instance (selector : Selector) (r : Recipe) : Decidable (r.IsWhole selector) :=
  inferInstanceAs (Decidable (∀ argument ∈ _, _))

end Recipe

namespace CommandLine

section Selection

variable {d : Database} {source : Text}

/-- The recipes that write the source as given, or else those of the same file name. -/
theorem recipesOf_eq (d : Database) (source : Text) :
    recipesOf d source =
      if (d.recipes.filter fun r => r.IsWritten source).isEmpty then d.recipes.filter fun r => r.IsNamed source
      else d.recipes.filter fun r => r.IsWritten source := by
  have written : (fun r : Recipe => r.source.text == source || r.anchoredSource.text == source) =
      fun r => decide (r.IsWritten source) := by
    funext r
    rw [Bool.eq_iff_iff, Bool.or_eq_true, beq_iff_eq, beq_iff_eq, decide_eq_true_eq, Recipe.IsWritten]
  have named : (fun r : Recipe => r.source.name == (Path.ofText source).name) = fun r => decide (r.IsNamed source) := by
    funext r
    rw [Bool.eq_iff_iff, beq_iff_eq, decide_eq_true_eq, Recipe.IsNamed]
  rw [recipesOf, written, named]

/-- Recipes whose source is written in the given way come first. -/
theorem recipesOf_of_written (written : ∃ r ∈ d.recipes, r.IsWritten source) :
    recipesOf d source = d.recipes.filter fun r => r.IsWritten source := by
  obtain ⟨r, listed, written⟩ := written
  rw [recipesOf_eq, if_neg]
  rw [List.isEmpty_iff, List.filter_eq_nil_iff]
  intro none
  exact none r listed (decide_eq_true written)

/-- Without such recipes the name of the file decides. -/
theorem recipesOf_of_not_written (unwritten : ∀ r ∈ d.recipes, ¬ r.IsWritten source) :
    recipesOf d source = d.recipes.filter fun r => r.IsNamed source := by
  rw [recipesOf_eq, if_pos]
  rw [List.isEmpty_iff, List.filter_eq_nil_iff]
  intro r listed written
  exact unwritten r listed (of_decide_eq_true written)

/-- Whatever is found comes from the database, in its order. -/
theorem recipesOf_sublist (d : Database) (source : Text) : (recipesOf d source).Sublist d.recipes := by
  rw [recipesOf_eq]
  split <;> exact List.filter_sublist

/-- Nothing is found when no recipe writes the source or has its file name. -/
theorem recipesOf_eq_nil_iff :
    recipesOf d source = [] ↔ ∀ r ∈ d.recipes, ¬ r.IsWritten source ∧ ¬ r.IsNamed source := by
  by_cases written : ∃ r ∈ d.recipes, r.IsWritten source
  · obtain ⟨r, listed, holds⟩ := written
    rw [recipesOf_of_written ⟨r, listed, holds⟩, List.filter_eq_nil_iff]
    constructor
    · intro none
      exact absurd (decide_eq_true holds) (none r listed)
    · intro none
      exact absurd holds (none r listed).1
  · have unwritten : ∀ r ∈ d.recipes, ¬ r.IsWritten source := fun r listed holds => written ⟨r, listed, holds⟩
    rw [recipesOf_of_not_written unwritten, List.filter_eq_nil_iff]
    constructor
    · intro none r listed
      exact ⟨unwritten r listed, fun named => none r listed (decide_eq_true named)⟩
    · intro none r listed named
      exact (none r listed).2 (of_decide_eq_true named)

end Selection

/-- The categories that are shown. -/
def selectorFor (all : Bool) : Selector := if all then .all else .forIndexing

/-- The text of all plain lines that are shown. -/
def plainOutput (trace : Trace) : Text :=
  trace.events.flatMap fun
    | .echoed text => text
    | _ => []

/-- What is shown for a recipe. -/
def shownArguments (all : Bool) (r : Recipe) : Event :=
  .echoed (withoutSequences (Words.join (r.arguments (selectorFor all))) ++ "\n")

theorem echoed_argumentsLine (all : Bool) (r : Recipe) :
    echoed (argumentsLine (selectorFor all) r) = shownArguments all r := by
  have last := Text.withoutSequences_append_cons (a := '\n') (by decide) (Words.join (r.arguments (selectorFor all))) []
  rw [Text.withoutSequences_nil] at last
  exact congrArg Event.echoed last

/-- A recipe's line can be encoded when every argument of it can. -/
theorem isWhole_argumentsLine {selector : Selector} {r : Recipe} :
    (argumentsLine selector r).IsWhole ↔ r.IsWhole selector :=
  Words.isWhole_line

/-- The recipes that a line is written for: those in front of the first whose arguments there are no bytes for. -/
def written (all : Bool) (selected : List Recipe) : List Recipe :=
  selected.takeWhile fun r => r.IsWhole (selectorFor all)

/-- How recipes are answered: a line is written for one after another, and the first line that there are no bytes for
ends the session. -/
structure Answers (all : Bool) (selected : List Recipe) (outcome : Outcome Unit) : Prop where
  shown : outcome.trace.events = (written all selected).map (shownArguments all)
  ends : outcome.result =
    match selected.dropWhile fun r => r.IsWhole (selectorFor all) with
    | [] => .ok ()
    | r :: _ => .error (.unencodable (withoutSequences (argumentsLine (selectorFor all) r)))

section Answers

variable {all : Bool} {selected : List Recipe} {outcome : Outcome Unit}

/-- All vectors are written when none holds a surrogate. -/
theorem written_eq_self_iff : written all selected = selected ↔ ∀ r ∈ selected, r.IsWhole (selectorFor all) := by
  rw [written, List.takeWhile_eq_self_iff]
  simp

/-- Every recipe is answered when there are bytes for all their arguments. -/
theorem Answers.of_isWhole (answers : Answers all selected outcome)
    (whole : ∀ r ∈ selected, r.IsWhole (selectorFor all)) :
    outcome.result = .ok () ∧ outcome.trace.events = selected.map (shownArguments all) := by
  have nothing : selected.dropWhile (fun r => r.IsWhole (selectorFor all)) = [] := by
    rw [List.dropWhile_eq_nil_iff]
    simpa using whole
  rw [answers.ends, answers.shown, nothing, written_eq_self_iff.2 whole]
  exact ⟨rfl, rfl⟩

/-- The command succeeds exactly when every vector can be written. -/
theorem Answers.result_eq_ok_iff (answers : Answers all selected outcome) :
    outcome.result = .ok () ↔ ∀ r ∈ selected, r.IsWhole (selectorFor all) := by
  refine ⟨fun succeeds => ?_, fun whole => (answers.of_isWhole whole).1⟩
  rw [answers.ends] at succeeds
  split at succeeds
  · next nothing => simpa [List.dropWhile_eq_nil_iff] using nothing
  · cases succeeds

theorem Answers.not_rejected (answers : Answers all selected outcome) (misuse : Misuse) :
    outcome.result ≠ .error (.misuse misuse) := by
  rw [answers.ends]
  split <;> nofun

/-- The output is cut into the arguments that it shows, less the control sequences in them. -/
theorem Answers.split (answers : Answers all selected outcome) : Words.split (plainOutput outcome.trace) =
    ((written all selected).flatMap fun r => r.arguments (selectorFor all)).map withoutSequences := by
  have lines : plainOutput outcome.trace =
      ((written all selected).map fun r => r.arguments (selectorFor all)).flatMap fun words =>
        withoutSequences (Words.line words) := by
    rw [plainOutput, answers.shown, List.flatMap_map, List.flatMap_map]
    congr 1
    funext r
    exact Event.echoed.inj (echoed_argumentsLine all r).symm
  rw [Words.split, lines, Words.split?_shownLines, Option.getD_some, List.flatMap_map, List.map_flatMap]

/-- Something is missing from the arguments if not every recipe is answered. -/
theorem written_eq_self_of_length
    (enough : ((written all selected).flatMap fun r => r.arguments (selectorFor all)).length =
      (selected.flatMap fun r => r.arguments (selectorFor all)).length) : written all selected = selected := by
  have whole := List.takeWhile_append_dropWhile (p := fun r : Recipe => r.IsWhole (selectorFor all)) (l := selected)
  rw [← written] at whole
  cases behind : selected.dropWhile fun r => r.IsWhole (selectorFor all) with
  | nil => rwa [behind, List.append_nil] at whole
  | cons r rest =>
    -- No recipe is without arguments, so one that is not answered leaves the output too short.
    have some : 0 < (r.arguments (selectorFor all)).length := by
      rw [Recipe.arguments, List.length_append]
      exact Nat.lt_of_lt_of_le (by decide) (Nat.le_add_right ..)
    rw [behind] at whole
    rw [← congrArg (fun l => (l.flatMap fun r => r.arguments (selectorFor all)).length) whole] at enough
    simp only [List.flatMap_append, List.flatMap_cons, List.length_append] at enough
    omega

/-- The output is cut into the arguments themselves when there are bytes for all of them and no control sequences in
them, and only then. -/
theorem Answers.split_eq_iff (answers : Answers all selected outcome) :
    Words.split (plainOutput outcome.trace) = (selected.flatMap fun r => r.arguments (selectorFor all)) ↔
      ∀ r ∈ selected, ∀ argument ∈ r.arguments (selectorFor all),
        withoutSequences argument = argument ∧ argument.IsWhole := by
  have unchanged := List.map_inj_left (l := selected.flatMap fun r => r.arguments (selectorFor all))
    (f := withoutSequences) (g := id)
  rw [List.map_id] at unchanged
  rw [answers.split]
  constructor
  · intro exact r listed argument stated
    have lengths := congrArg List.length exact
    rw [List.length_map] at lengths
    have every := written_eq_self_of_length lengths
    rw [every, unchanged] at exact
    exact ⟨exact argument (List.mem_flatMap.2 ⟨r, listed, stated⟩),
      written_eq_self_iff.1 every r listed argument stated⟩
  · intro faithful
    rw [written_eq_self_iff.2 fun r listed argument stated => (faithful r listed argument stated).2, unchanged]
    intro argument stated
    obtain ⟨r, listed, stated⟩ := List.mem_flatMap.1 stated
    exact (faithful r listed argument stated).1

end Answers

section Echo

variable {world : World} {input : Path} {d : Database} {source : Text}

/-- A source that no recipe is found for is refused. -/
theorem echoArguments_of_nil (loaded : (Database.load world.disk input).result = .ok d)
    (missing : recipesOf d source = []) (all : Bool) :
    (echoArguments world input source all).result =
      .error (.misuse (.rejected ("'" ++ source ++ "' is not in the compilation database."))) := by
  rw [echoArguments, Outcome.bind_ok loaded, missing]
  rfl

/-- A source that recipes are found for is answered by these. -/
theorem echoArguments_of_ne_nil (loaded : (Database.load world.disk input).result = .ok d)
    (found : recipesOf d source ≠ []) (all : Bool) :
    Answers all (recipesOf d source) (echoArguments world input source all) := by
  have some : (recipesOf d source).isEmpty = false := by
    rw [Bool.eq_false_iff, Ne, List.isEmpty_iff]
    exact found
  have outcome : echoArguments world input source all =
      Database.load world.disk input >>= fun d =>
        if (recipesOf d source).isEmpty then
          Outcome.fail (.misuse (.rejected ("'" ++ source ++ "' is not in the compilation database.")))
        else (recipesOf d source).forM fun r => echo (argumentsLine (selectorFor all) r) := rfl
  have quiet := (Database.isQuiet_load world.disk input).events
  simp only [outcome, Outcome.bind_ok loaded, some, Bool.false_eq_true, if_false, forM_echo]
  constructor
  · simp [quiet, written, isWhole_argumentsLine, echoed_argumentsLine]
  · simp only [isWhole_argumentsLine]
    cases (recipesOf d source).dropWhile fun r => r.IsWhole (selectorFor all) <;> rfl

end Echo

/-- A database whose two sources share a file name. Neither is written the way its path is. -/
def sampleObjects : List (List (String × String)) :=
  [[("directory", "/"), ("file", "./a/x.c"), ("command", "c '-DA=x y'")],
   [("directory", "/"), ("file", "./b/x.c"), ("command", "c -DB=\x1b[0m")]]

def sampleItems : List Value := sampleObjects.map fun fields => .table (fields.map Json.fieldOf)

def sampleRecipes : List Recipe :=
  [{ directory := .ofText "/", source := .ofText "a/x.c", definitions := [("A", "x y")] },
   { directory := .ofText "/", source := .ofText "b/x.c", definitions := [("B", "\x1b[0m")] }]

/-- A world in which there is nothing but that database. -/
def sampleWorld : World where
  disk := Database.onlyFile (.ofText "db") (Text.Utf8.encode (Json.objectList sampleObjects))
  index := ⟨fun _ _ => .refused ""⟩
  settingsFile := .ofText "settings"

theorem lists_sampleWorld : Database.Lists sampleWorld.disk (.ofText "db") sampleItems :=
  Database.lists_onlyFile _ sampleObjects

theorem load_sampleWorld : (Database.load sampleWorld.disk (.ofText "db")).result = .ok ⟨sampleRecipes⟩ := by
  have accepted : Entry.allOfValue (.list sampleItems) = .ok [⟨.ofText "/", "c '-DA=x y'", .ofText "a/x.c", .here⟩,
      ⟨.ofText "/", "c -DB=\x1b[0m", .ofText "b/x.c", .here⟩] := by
    decide +kernel
  exact Database.result_load_eq_ok_iff.2 ⟨sampleItems, _, lists_sampleWorld, accepted, by decide +kernel⟩

section Found

variable {world : World} {input : Path} {d : Database} (loaded : (Database.load world.disk input).result = .ok d)
include loaded

/-- A lookup is refused exactly when nothing is written as the source is and nothing has its name. -/
theorem exists_rejected_iff (source : Text) (all : Bool) :
    (∃ message, (echoArguments world input source all).result = .error (.misuse (.rejected message))) ↔
      ∀ r ∈ d.recipes, ¬ r.IsWritten source ∧ ¬ r.IsNamed source := by
  rw [← recipesOf_eq_nil_iff]
  constructor
  · rintro ⟨message, refused⟩
    by_contra found
    exact (echoArguments_of_ne_nil loaded found all).not_rejected _ refused
  · intro missing
    exact ⟨_, echoArguments_of_nil loaded missing all⟩

/-- **The lines for a source are cut into the arguments of its recipes again.** A lookup is refused exactly when no
recipe's source is written as the source is or has its name. Otherwise it selects recipes in the order of the
database: those whose source is written in this way, or else those whose source has the name. A line is written for
each of them, up to the first that there are no bytes for, and that one ends the session. The lines are cut into the
arguments of their recipes one after another, each without its control sequences; so into the arguments themselves
exactly when there are no such sequences in them and there are bytes for all of them. -/
theorem echoArguments_splits_back (source : Text) (all : Bool) :
    ((∃ message, (echoArguments world input source all).result = .error (.misuse (.rejected message))) ↔
      ∀ r ∈ d.recipes, ¬ r.IsWritten source ∧ ¬ r.IsNamed source) ∧
    ((∃ r ∈ d.recipes, r.IsWritten source ∨ r.IsNamed source) → ∃ selected,
      selected.Sublist d.recipes ∧
      ((∃ r ∈ d.recipes, r.IsWritten source) → selected = d.recipes.filter fun r => r.IsWritten source) ∧
      ((∀ r ∈ d.recipes, ¬ r.IsWritten source) → selected = d.recipes.filter fun r => r.IsNamed source) ∧
      Answers all selected (echoArguments world input source all) ∧
      ((echoArguments world input source all).result = .ok () ↔ ∀ r ∈ selected, r.IsWhole (selectorFor all)) ∧
      Words.split (plainOutput (echoArguments world input source all).trace) =
        ((written all selected).flatMap fun r => r.arguments (selectorFor all)).map withoutSequences ∧
      (Words.split (plainOutput (echoArguments world input source all).trace) =
          (selected.flatMap fun r => r.arguments (selectorFor all)) ↔
        ∀ r ∈ selected, ∀ argument ∈ r.arguments (selectorFor all),
          withoutSequences argument = argument ∧ argument.IsWhole)) := by
  refine ⟨exists_rejected_iff loaded source all, ?_⟩
  rintro ⟨r, listed, fits⟩
  have found : recipesOf d source ≠ [] := by
    intro missing
    obtain ⟨unwritten, unnamed⟩ := recipesOf_eq_nil_iff.1 missing r listed
    exact fits.elim unwritten unnamed
  have answers := echoArguments_of_ne_nil loaded found all
  exact ⟨recipesOf d source, recipesOf_sublist d source, recipesOf_of_written, recipesOf_of_not_written, answers,
    answers.result_eq_ok_iff, answers.split, answers.split_eq_iff⟩

end Found

/-- The lookup of a source that is in the database, of a bare file name, and of a source that is not there. -/
theorem echoArguments_splits_back_sample :
    Words.split (plainOutput (echoArguments sampleWorld (.ofText "db") "a/x.c" false).trace) =
      (["-x", "c++", "-g", "-std=c++20", "-D", "A=x y"] : List Text) ∧
    (echoArguments sampleWorld (.ofText "db") "x.c" false).trace.events = sampleRecipes.map (shownArguments false) ∧
    ∃ message,
      (echoArguments sampleWorld (.ofText "db") "z.c" false).result = .error (.misuse (.rejected message)) := by
  refine ⟨?_, ?_, ?_⟩
  · obtain ⟨selected, -, written, -, -, -, -, exact⟩ :=
      (echoArguments_splits_back load_sampleWorld "a/x.c" false).2 (by decide +kernel)
    obtain rfl := written (by decide +kernel)
    rw [exact.2 ?_]
    · decide +kernel
    · intro r selected argument listed
      have free : (Text.escapeCharacter : Letter) ∉ argument ∧ argument.IsWhole := by
        revert r argument
        decide +kernel
      exact ⟨Text.withoutSequences_eq_self free.1, free.2⟩
  · obtain ⟨selected, -, -, named, answers, -⟩ :=
      (echoArguments_splits_back load_sampleWorld "x.c" false).2 (by decide +kernel)
    have all : selected = sampleRecipes := (named (by decide +kernel)).trans (by decide +kernel)
    obtain rfl := all
    exact (answers.of_isWhole (by decide +kernel)).2
  · exact (echoArguments_splits_back load_sampleWorld "z.c" false).1.2 (by decide +kernel)

/-- Where an argument holds a control sequence, the output is not cut into the arguments. -/
theorem echoArguments_drops_sequences :
    (Database.load sampleWorld.disk (.ofText "db")).result = .ok ⟨sampleRecipes⟩ ∧
    (∃ r ∈ sampleRecipes, r.IsWritten "b/x.c") ∧
    Words.split (plainOutput (echoArguments sampleWorld (.ofText "db") "b/x.c" false).trace) ≠
      ((sampleRecipes.filter fun r => r.IsWritten "b/x.c").flatMap fun r => r.arguments (selectorFor false)) := by
  have written : ∃ r ∈ sampleRecipes, r.IsWritten "b/x.c" := by decide +kernel
  have selected : recipesOf ⟨sampleRecipes⟩ "b/x.c" = sampleRecipes.filter fun r => r.IsWritten "b/x.c" :=
    recipesOf_of_written written
  have found : recipesOf ⟨sampleRecipes⟩ "b/x.c" ≠ [] := by decide +kernel
  have answers := echoArguments_of_ne_nil load_sampleWorld found false
  have whole : ∀ r ∈ recipesOf ⟨sampleRecipes⟩ "b/x.c", r.IsWhole (selectorFor false) := by decide +kernel
  have arguments :
      ((sampleRecipes.filter fun r => r.IsWritten "b/x.c").flatMap fun r => r.arguments (selectorFor false)) =
        (["-x", "c++", "-g", "-std=c++20", "-D", "B=\x1b[0m"] : List Text) := by
    decide +kernel
  have shorter : withoutSequences "B=\x1b[0m" = "B=" := by
    have sequence : Text.afterSequence? "\x1b[0m" = some [] := by decide
    have front : withoutSequences "B" = "B" := Text.withoutSequences_eq_self (by decide)
    have whole := Text.withoutSequences_append_cons (a := '=') (by decide) "B" "\x1b[0m"
    rw [front, Text.withoutSequences_of_some sequence, Text.withoutSequences_nil] at whole
    exact whole
  refine ⟨load_sampleWorld, written, ?_⟩
  rw [answers.split, written_eq_self_iff.2 whole, selected, arguments]
  intro same
  have last : some (withoutSequences "B=\x1b[0m") = some "B=\x1b[0m" := congrArg List.getLast? same
  rw [shorter] at last
  exact absurd last (by decide)

/-- **What is looked up for a source as the database lists it.** There is an answer, and it is for the recipe of the
entry among others. Where the source is written as its path is, the answer is for the recipes at this path. Where it is
not, no recipe counts as written in this way, and the answer is for all whose source has its name: also for
recipes at another path, unless the two come to the same in this database. -/
theorem echoArguments_of_listed {world : World} {input : Path} {d : Database} {items : List Value}
    (lists : Database.Lists world.disk input items) (loaded : (Database.load world.disk input).result = .ok d) {i : Nat}
    {fields : Value.Fields} {source : Text} (listed : items[i]? = some (.table fields))
    (named : Value.field? "file" fields = some (.text source)) (all : Bool) :
    Answers all (recipesOf d source) (echoArguments world input source all) ∧
    (∃ r ∈ recipesOf d source, d.recipes[i]? = some r ∧ r.IsAt (.ofText source)) ∧
    ((Path.ofText source).text = source → recipesOf d source = d.recipes.filter fun r => r.IsAt (.ofText source)) ∧
    ((Path.ofText source).text ≠ source → recipesOf d source = d.recipes.filter fun r => r.IsNamed source) ∧
    (recipesOf d source = (d.recipes.filter fun r => r.IsAt (.ofText source)) ↔
      (Path.ofText source).text = source ∨ ∀ r ∈ d.recipes, r.IsNamed source ↔ r.IsAt (.ofText source)) := by
  obtain ⟨r, place, same⟩ := Database.exists_recipe_of_lists lists loaded listed named
  have known : r ∈ d.recipes := List.mem_of_getElem? place
  have there : r.IsAt (.ofText source) := .inl same
  have whenNormal : (Path.ofText source).text = source →
      recipesOf d source = d.recipes.filter fun r => r.IsAt (.ofText source) := by
    intro normal
    rw [recipesOf_of_written ⟨r, known, (r.isWritten_iff_isAt normal).2 there⟩]
    exact List.filter_congr fun r _ => decide_eq_decide.2 (r.isWritten_iff_isAt normal)
  have otherwise : (Path.ofText source).text ≠ source →
      recipesOf d source = d.recipes.filter fun r => r.IsNamed source := by
    intro abnormal
    exact recipesOf_of_not_written fun r _ => r.not_isWritten abnormal
  have selected : r ∈ recipesOf d source := by
    by_cases normal : (Path.ofText source).text = source
    · rw [whenNormal normal]
      exact List.mem_filter.2 ⟨known, decide_eq_true there⟩
    · rw [otherwise normal]
      exact List.mem_filter.2 ⟨known, decide_eq_true (congrArg Path.name same)⟩
  have answers := echoArguments_of_ne_nil loaded (List.ne_nil_of_mem selected) all
  refine ⟨answers, ⟨r, selected, place, there⟩, whenNormal, otherwise, ?_⟩
  constructor
  · intro exact
    rw [or_iff_not_imp_left]
    intro abnormal r known
    rw [otherwise abnormal] at exact
    have both := congrArg (r ∈ ·) exact
    simpa [known] using both
  · rintro (normal | same)
    · exact whenNormal normal
    · by_cases normal : (Path.ofText source).text = source
      · exact whenNormal normal
      · rw [otherwise normal]
        exact List.filter_congr fun r known => decide_eq_decide.2 (same r known)

/-- A source that is not written the way its path is brings the recipe of another path with it. -/
theorem echoArguments_of_listed_sample :
    (echoArguments sampleWorld (.ofText "db") "./a/x.c" false).result = .ok () ∧
    (echoArguments sampleWorld (.ofText "db") "./a/x.c" false).trace.events = sampleRecipes.map (shownArguments false) ∧
    recipesOf ⟨sampleRecipes⟩ "./a/x.c" ≠ sampleRecipes.filter fun r => r.IsAt (.ofText "./a/x.c") := by
  obtain ⟨answers, -, -, otherwise, exact⟩ :=
    echoArguments_of_listed (i := 0) lists_sampleWorld load_sampleWorld rfl rfl false
  have abnormal : (Path.ofText "./a/x.c").text ≠ "./a/x.c" := by decide +kernel
  have both : (sampleRecipes.filter fun r => r.IsNamed "./a/x.c") = sampleRecipes := by decide +kernel
  obtain ⟨succeeds, shown⟩ := answers.of_isWhole (by decide +kernel)
  refine ⟨succeeds, ?_, ?_⟩
  · rw [shown, otherwise abnormal, both]
  · intro same
    exact absurd (exact.1 same) (by decide +kernel)

/-- The answer for a source as the database lists it can hold the arguments of another path. -/
theorem echoArguments_of_listed_not_exact :
    Database.Lists sampleWorld.disk (.ofText "db") sampleItems ∧
    (Database.load sampleWorld.disk (.ofText "db")).result = .ok ⟨sampleRecipes⟩ ∧
    (∃ fields, sampleItems[0]? = some (.table fields) ∧ Value.field? "file" fields = some (.text "./a/x.c")) ∧
    (echoArguments sampleWorld (.ofText "db") "./a/x.c" false).trace.events ≠
      (sampleRecipes.filter fun r => r.IsAt (.ofText "./a/x.c")).map (shownArguments false) := by
  have found : recipesOf ⟨sampleRecipes⟩ "./a/x.c" ≠ [] := by decide +kernel
  refine ⟨lists_sampleWorld, load_sampleWorld, ⟨_, rfl, rfl⟩, ?_⟩
  rw [((echoArguments_of_ne_nil load_sampleWorld found false).of_isWhole (by decide +kernel)).2]
  intro same
  have lengths := congrArg List.length same
  rw [List.length_map, List.length_map] at lengths
  exact absurd lengths (by decide +kernel)

end CommandLine

end CompileDb
