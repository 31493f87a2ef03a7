import CompileDb.Proofs.Ast.IgnoredKinds
import CompileDb.Proofs.Survey.Observers
import CompileDb.Proofs.Survey.Accounts

/-!
# Surveys that agree, and their calls

A survey asks of its plan whether a kind is ignored and what is found at a source. It never sees how the kinds are
listed or what a file holds. Plans that give the same answers therefore agree in whole runs (`run_congr`), whether
these come to an end or not.

The calls of a run are those for the sources that are there (`flatMap_calls_parse`), one by one, up to where the
run ends (`calls_run_prefix`, `calls_run_of_ok`).
-/

namespace CompileDb

/-- What is found at a path, whatever a file holds. -/
def Item.withoutBytes : Item → Item
  | file _ => file (.bytes [])
  | special _ => special (.bytes [])
  | item => item

/-- Whether a file is found. -/
def Item.isFile : Item → Bool
  | file _ => true
  | _ => false

namespace Index

variable (index : Index) (disk : Disk) (source : Path) (arguments : Option (List Text))

/-- The index is told where a file is, and not what it holds. -/
theorem parse_withoutBytes :
    index.parse disk source arguments = index.parse ⟨fun _ => (disk.look source).withoutBytes⟩ source arguments := by
  unfold parse
  cases disk.look source <;> rfl

variable {disk source}

theorem parse_congr {other : Disk} (same : (other.look source).withoutBytes = (disk.look source).withoutBytes) :
    index.parse other source arguments = index.parse disk source arguments := by
  rw [parse_withoutBytes, same, ← parse_withoutBytes]

end Index

namespace Survey

variable {plan : Plan} {recipes : List Recipe}

/-- Two plans by which the same is done for recipes. -/
structure Plan.Agrees (plan other : Plan) (recipes : List Recipe) : Prop where
  index : other.index = plan.index
  visitor : other.visitor = plan.visitor
  includeDirs : other.includeDirs = plan.includeDirs
  ignores : ∀ kind, Ast.Node.ignores other.ignored kind = Ast.Node.ignores plan.ignored kind
  sources : ∀ r ∈ recipes,
    (other.disk.look r.anchoredSource).withoutBytes = (plan.disk.look r.anchoredSource).withoutBytes

section Agrees

variable {other : Plan}

theorem parse_congr (agrees : plan.Agrees other recipes) {r : Recipe} (listed : r ∈ recipes) :
    other.parse r = plan.parse r := by
  have arguments : other.arguments r = plan.arguments r := by rw [Plan.arguments, Plan.arguments, agrees.includeDirs]
  rw [Plan.parse, Plan.parse, agrees.index, arguments, plan.index.parse_congr _ (agrees.sources r listed)]

theorem examine_congr (agrees : plan.Agrees other recipes) {r : Recipe} (listed : r ∈ recipes) :
    other.examine r = plan.examine r := by
  have tours : (Ast.Observer.ofVisitor other.visitor).tour other.ignored () =
      (Ast.Observer.ofVisitor plan.visitor).tour plan.ignored () := by
    funext root
    rw [agrees.visitor, Ast.Observer.tour, Ast.Observer.tour, Ast.Node.walk_congr agrees.ignores]
  rw [Plan.examine, Plan.examine, Plan.examineFor, Plan.examineFor, parse_congr agrees listed, tours]

/-- Plans that agree on recipes lead to the same survey of them. -/
theorem run_congr (agrees : plan.Agrees other recipes) : other.run recipes = plan.run recipes := by
  induction recipes with
  | nil => rfl
  | cons r rest ih =>
    have first := examine_congr agrees List.mem_cons_self
    have others : plan.Agrees other rest :=
      { agrees with sources := fun r' listed => agrees.sources r' (List.mem_cons_of_mem r listed) }
    rw [Plan.run_cons, Plan.run_cons, first, ih others]

end Agrees

/-- Examining calls the library as parsing does. -/
theorem calls_examine (r : Recipe) : (plan.examine r).trace.calls = (plan.parse r).trace.calls := by
  have ends := examineEnds plan r
  generalize plan.examine r = outcome at ends
  cases ends with
  | shown => exact List.append_nil _
  | skipped => exact List.append_nil _
  | stopped => rfl

/-- A survey parses its first recipes, up to where it ends. -/
theorem calls_run_prefix (recipes : List Recipe) :
    (plan.run recipes).trace.calls <+: recipes.flatMap fun r => (plan.parse r).trace.calls := by
  induction recipes with
  | nil => exact List.prefix_refl _
  | cons r rest ih =>
    rw [Plan.run_cons, List.flatMap_cons, ← calls_examine r]
    cases examined : (plan.examine r).result with
    | error failure =>
      rw [Outcome.bind_error examined]
      exact List.prefix_append _ _
    | ok first =>
      have calls : ((plan.run rest >>= fun others => pure (first + others)) : Outcome Report).trace.calls =
          (plan.run rest).trace.calls := by
        cases surveyed : (plan.run rest).result with
        | error failure => rw [Outcome.bind_error surveyed]
        | ok others =>
          rw [Outcome.bind_ok surveyed]
          exact List.append_nil _
      rw [Outcome.bind_ok examined, Trace.calls_append, calls]
      exact (List.prefix_append_right_inj _).2 ih

/-- A survey that comes to an end parses all of them. -/
theorem calls_run_of_ok {report : Report} (completes : (plan.run recipes).result = .ok report) :
    (plan.run recipes).trace.calls = recipes.flatMap fun r => (plan.parse r).trace.calls := by
  rw [Plan.run] at completes ⊢
  have goesOn := (exists_runFor_eq_ok_iff _ ()).1 ⟨report, completes⟩
  obtain ⟨_, -, described⟩ := describes_runFor (.ofVisitor plan.visitor) () goesOn
  exact described.calls

section Calls

variable {dirs : List Text} (texts : plan.includeDirs = some dirs)
include texts

/-- The index is called once for a source that is there, and not at all for others. -/
theorem calls_parse (r : Recipe) :
    (plan.parse r).trace.calls = if (plan.disk.look r.anchoredSource).isFile then [callFor dirs r] else [] := by
  rw [Plan.parse, arguments_eq texts]
  unfold Index.parse
  cases plan.disk.look r.anchoredSource with
  | file contents =>
    cases reply : plan.index.reply r.anchoredSource.text (callFor dirs r).arguments with
    | refused reason =>
      simp only [Index.parseFile_of_refused reply]
      rfl
    | parsed root diagnostics =>
      simp only [Index.parseFile_of_parsed reply]
      rfl
  | _ => rfl

/-- The calls for recipes one after another. -/
theorem flatMap_calls_parse (recipes : List Recipe) : (recipes.flatMap fun r => (plan.parse r).trace.calls) =
    (recipes.filter fun r => (plan.disk.look r.anchoredSource).isFile).map (callFor dirs) := by
  induction recipes with
  | nil => rfl
  | cons r rest ih =>
    rw [List.flatMap_cons, ih, calls_parse texts, List.filter_cons]
    split <;> rfl

end Calls

end Survey

end CompileDb
