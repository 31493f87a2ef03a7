import CompileDb.Ast.Visitor
import CompileDb.Database
import CompileDb.Index

/-!
# Surveys

A survey goes through the recipes of a database one by one, parses each source and shows its syntax
tree to an observer. A source that cannot be parsed is reported and left out; anything else that goes
wrong ends the survey. `Plan.runFor` is `SourceProcessor.run` and `Plan.examineFor` one round of its
loop; the bar that shows how far it has come is left out, for it tells nothing that is in the report.
`Plan.run` is a survey for the visitor of the plan, who remembers nothing.

The report of a survey is the sum of the reports of its recipes, so surveys of two lists of recipes add
up (`run_append`).
-/

namespace CompileDb

namespace Survey

/-- How sources are to be surveyed. -/
structure Plan where
  /-- What there is on the file system. -/
  disk : Disk
  /-- The parser. -/
  index : Index
  /-- One who looks at the nodes. -/
  visitor : Ast.Visitor
  /-- Further directories to search for headers, `none` when one of them is no text. -/
  includeDirs : Option (List Text) := some []
  /-- The kinds whose children are left out, when kinds are given at all. -/
  ignored : Option (List Text) := none

/-- What a survey comes to. -/
@[ext] structure Report where
  /-- The number of sources that were parsed. -/
  processed : Nat := 0
  /-- The number of nodes that were looked at. -/
  nodes : Nat := 0
  /-- The number of hits. -/
  matched : Nat := 0
  /-- The sources that could not be parsed. -/
  failed : List Path := []
  deriving DecidableEq

namespace Report

instance : Add Report where
  add a b :=
    ⟨a.processed + b.processed, a.nodes + b.nodes, a.matched + b.matched, a.failed ++ b.failed⟩

instance : Zero Report := ⟨{}⟩

/-- The sum of two reports, count by count. -/
theorem add_def (a b : Report) : a + b =
    ⟨a.processed + b.processed, a.nodes + b.nodes, a.matched + b.matched, a.failed ++ b.failed⟩ :=
  rfl

theorem zero_add (a : Report) : 0 + a = a :=
  Report.ext (Nat.zero_add _) (Nat.zero_add _) (Nat.zero_add _) (List.nil_append _)

theorem add_assoc (a b c : Report) : a + b + c = a + (b + c) :=
  Report.ext (Nat.add_assoc ..) (Nat.add_assoc ..) (Nat.add_assoc ..) (List.append_assoc ..)

end Report

/-- The arguments that the source of a recipe is parsed with. -/
def Plan.arguments (plan : Plan) (recipe : Recipe) : Option (List Text) :=
  plan.includeDirs.map fun dirs =>
    recipe.arguments .forIndexing ++ Recipe.pairs "-isystem" dirs

/-- The syntax tree of the source of a recipe. -/
def Plan.parse (plan : Plan) (recipe : Recipe) : Outcome Ast.Node :=
  plan.index.parse plan.disk recipe.anchoredSource (plan.arguments recipe)

/-- What is left behind for a source that could not be parsed. -/
def skipTrace (source : Path) (reason : Text) : Trace :=
  { notices := [.skipping source reason]
    events := [.printed
      ("[yellow]⚠️  " ++ Markup.escape (Fault.unparsed source reason).message ++ "[/yellow]")] }

namespace Plan

section Observed

variable {σ : Type} (plan : Plan) (look : Ast.Observer σ)

/-- The survey of one recipe for an observer. -/
def examineFor (memory : σ) (recipe : Recipe) : Outcome Report × σ :=
  let parsed := plan.parse recipe
  match parsed.result with
  | .ok root =>
    let (seen, memory) := look.tour plan.ignored memory root
    ((parsed >>= fun _ => seen) >>= fun count => pure ⟨1, count.visited, count.matched, []⟩, memory)
  | .error (.fault (.unparsed source reason)) =>
    (⟨parsed.trace ++ skipTrace source reason, .ok ⟨0, 0, 0, [source]⟩⟩, memory)
  | .error failure => (⟨parsed.trace, .error failure⟩, memory)

/-- The survey of recipes in their order for an observer. -/
def runFor : σ → List Recipe → Outcome Report × σ
  | memory, [] => (pure 0, memory)
  | memory, recipe :: rest =>
    let (first, memory) := plan.examineFor look memory recipe
    let (others, memory) := runFor memory rest
    (first >>= fun report => others >>= fun more => pure (report + more), memory)

variable {plan look} {memory : σ} {recipe : Recipe}

/-- A source that is parsed is shown to the observer. -/
theorem examineFor_of_ok {root : Ast.Node} (parsed : (plan.parse recipe).result = .ok root) :
    plan.examineFor look memory recipe =
      (⟨(plan.parse recipe).trace ++ (look.tour plan.ignored memory root).1.trace,
        .ok ⟨1, (look.sightings memory (root.walk plan.ignored)).1.length,
          (look.sightings memory (root.walk plan.ignored)).1.countP Ast.Sighting.hit, []⟩⟩,
        (look.tour plan.ignored memory root).2) := by
  rw [examineFor, parsed]
  simp only [Outcome.bind_ok parsed]
  rw [Outcome.bind_ok rfl]
  simp [Ast.Observer.tour]

/-- A source that cannot be parsed is skipped. -/
theorem examineFor_of_unparsed {source : Path} {reason : Text}
    (unparsed : (plan.parse recipe).result = .error (.fault (.unparsed source reason))) :
    plan.examineFor look memory recipe =
      (⟨(plan.parse recipe).trace ++ skipTrace source reason, .ok ⟨0, 0, 0, [source]⟩⟩, memory) := by
  rw [examineFor, unparsed]

/-- Anything else that goes wrong with a source ends the survey. -/
theorem examineFor_of_error {failure : Failure} (failed : (plan.parse recipe).result = .error failure)
    (other : ∀ source reason, failure ≠ .fault (.unparsed source reason)) :
    plan.examineFor look memory recipe = (⟨(plan.parse recipe).trace, .error failure⟩, memory) := by
  rw [examineFor, failed]
  split
  · next same => cases same
  · next same => exact absurd (Except.error.inj same) (other _ _)
  · next same => rw [Except.error.inj same]

/-- The first recipe is surveyed, and then the others with what the observer remembers of it. -/
theorem runFor_cons (rest : List Recipe) :
    plan.runFor look memory (recipe :: rest) =
      ((plan.examineFor look memory recipe).1 >>= fun report =>
          (plan.runFor look (plan.examineFor look memory recipe).2 rest).1 >>= fun more => pure (report + more),
        (plan.runFor look (plan.examineFor look memory recipe).2 rest).2) := rfl

end Observed

/-- The survey of one recipe. -/
def examine (plan : Plan) (recipe : Recipe) : Outcome Report :=
  (plan.examineFor (.ofVisitor plan.visitor) () recipe).1

/-- The survey of recipes in their order. -/
def run (plan : Plan) (recipes : List Recipe) : Outcome Report :=
  (plan.runFor (.ofVisitor plan.visitor) () recipes).1

/-- A source that is parsed is shown to the visitor. -/
theorem examine_of_ok {plan : Plan} {recipe : Recipe} {root : Ast.Node}
    (parsed : (plan.parse recipe).result = .ok root) :
    plan.examine recipe =
      ⟨(plan.parse recipe).trace ++ (root.tour plan.visitor plan.ignored).trace,
        .ok ⟨1, (root.walk plan.ignored).length,
          (root.walk plan.ignored).countP fun node => (plan.visitor node).hit, []⟩⟩ := by
  rw [examine, examineFor_of_ok parsed]
  simp only [Ast.Observer.sightings_ofVisitor, List.length_map, List.countP_map]
  rfl

/-- The first recipe is surveyed, and then the others. -/
theorem run_cons (plan : Plan) (recipe : Recipe) (rest : List Recipe) :
    plan.run (recipe :: rest) = do
      let first ← plan.examine recipe
      let others ← plan.run rest
      return first + others := rfl

end Plan

end Survey

end CompileDb
