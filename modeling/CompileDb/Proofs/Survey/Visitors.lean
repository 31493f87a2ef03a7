import CompileDb.Proofs.Survey.Accounts
import CompileDb.Proofs.Survey.Observers

/-!
# Visitors leave a survey as it is

Whoever looks at the nodes, a survey parses and skips the same sources, makes the same calls and shows
the same nodes; only what is shown of them and the number of hits are the visitor's own
(`run_ignores_visitor`). What a visitor shows in a survey is what it makes of the nodes, one after another
(`shows_run`): a line for each of them under `Visitor.everything`, and under `Visitor.functions` a line
for each function among them.
-/

namespace CompileDb

theorem Index.events_parse (index : Index) (disk : Disk) (source : Path) (arguments : Option (List Text)) :
    (index.parse disk source arguments).trace.events = [] := by
  have ends := index.parseEnds disk source arguments
  generalize index.parse disk source arguments = outcome at ends ⊢
  cases ends <;> rfl

namespace Survey

open Ast (Node Observer Visitor)

/-- What the line for a node begins with. -/
def nodeIndent : Text := "  "

/-- Whether something shown is the line for a node, and not the one for a source that is skipped. -/
def isNodeLine : Event → Bool
  | .printed markup => (Text.after? nodeIndent markup).isSome
  | _ => false

/-- The lines for nodes in a trace. -/
def nodeLines (trace : Trace) : List Event := trace.events.filter isNodeLine

def isFunction (node : Node) : Bool :=
  node.kind == "FUNCTION_DECL" || node.kind == "FUNCTION_TEMPLATE" || node.kind == "CXX_METHOD"

def everyLine (node : Node) : Event := .printed (Visitor.line (Visitor.kindLabel node.kind) 50 node)

def functionLine (node : Node) : Event :=
  .printed (Visitor.line ("[bold]" ++ (Visitor.functionLabels.lookup node.kind).getD [] ++ "[/bold]") 30 node)

/-- A visitor shows nothing but lines for nodes. -/
def ShowsLines (visitor : Visitor) : Prop := ∀ node, ∀ event ∈ (visitor node).events, isNodeLine event = true

theorem isNodeLine_line (label : Text) (width : Nat) (node : Node) :
    isNodeLine (.printed (Visitor.line label width node)) = true := by
  rw [isNodeLine, Visitor.line, List.append_assoc, List.append_assoc, List.append_assoc, List.append_assoc,
    List.append_assoc, Text.isSome_after?_iff]
  exact List.prefix_append nodeIndent _

theorem isNodeLine_skipTrace (source : Path) (reason : Text) :
    (skipTrace source reason).events.filter isNodeLine = [] := by
  rfl

theorem isSome_lookup_functionLabels (node : Node) :
    (Visitor.functionLabels.lookup node.kind).isSome = isFunction node := by
  simp only [Visitor.functionLabels, isFunction, List.lookup_cons, List.lookup_nil]
  cases template : node.kind == "FUNCTION_TEMPLATE" <;> cases function : node.kind == "FUNCTION_DECL" <;>
    cases method : node.kind == "CXX_METHOD" <;> rfl

/-- The visitor of all nodes shows a line for each. -/
theorem showsLines_everything : ShowsLines Visitor.everything := by
  intro node event shown
  rw [List.mem_singleton.1 shown]
  exact isNodeLine_line _ _ node

/-- What the visitor for functions makes of a node. -/
theorem functions_eq (node : Node) :
    Visitor.functions node = ⟨if isFunction node then [functionLine node] else [], isFunction node⟩ := by
  rw [Visitor.functions, ← isSome_lookup_functionLabels]
  cases found : Visitor.functionLabels.lookup node.kind with
  | none => rfl
  | some label => simp [functionLine, found]

theorem hit_functions (node : Node) : (Visitor.functions node).hit = isFunction node := by rw [functions_eq]

/-- The visitor of functions prints the lines of the functions among the nodes. -/
theorem flatMap_functions (nodes : List Node) :
    (nodes.flatMap fun node => (Visitor.functions node).events) = (nodes.filter isFunction).map functionLine := by
  induction nodes with
  | nil => rfl
  | cons node rest ih =>
    rw [List.flatMap_cons, ih, functions_eq, List.filter_cons]
    cases isFunction node <;> simp

/-- The visitor of functions shows a line for each function. -/
theorem showsLines_functions : ShowsLines Visitor.functions := by
  intro node event shown
  rw [functions_eq] at shown
  split at shown
  · rw [List.mem_singleton.1 shown]
    exact isNodeLine_line _ _ node
  · cases shown

/-- What a visitor shows of the nodes of a survey and how many hits it counts. -/
structure Shows (plan : Plan) (recipes : List Recipe) (report : Report) (trace : Trace) : Prop where
  lines : nodeLines trace = (plan.nodes recipes).flatMap fun node => (plan.visitor node).events
  matched : report.matched = (plan.nodes recipes).countP fun node => (plan.visitor node).hit

section Run

variable {plan : Plan}

theorem nodes_append (xs ys : List Recipe) : plan.nodes (xs ++ ys) = plan.nodes xs ++ plan.nodes ys := by
  rw [Plan.nodes, List.filterMap_append, List.flatMap_append, ← Plan.nodes, ← Plan.nodes]

theorem Shows.append {xs ys : List Recipe} {first second : Report} {trace later : Trace}
    (front : Shows plan xs first trace) (back : Shows plan ys second later) :
    Shows plan (xs ++ ys) (first + second) (trace ++ later) where
  lines := by
    rw [nodeLines, Trace.events_append, List.filter_append, ← nodeLines, ← nodeLines, front.lines, back.lines,
      nodes_append, List.flatMap_append]
  matched := by rw [Report.add_def, nodes_append, List.countP_append, front.matched, back.matched]

/-- Examining one recipe shows the lines of its nodes. -/
theorem shows_examine (shows : ShowsLines plan.visitor) {r : Recipe} {report : Report}
    (examined : (plan.examine r).result = .ok report) : Shows plan [r] report (plan.examine r).trace := by
  have silent : (plan.parse r).trace.events = [] := Index.events_parse _ _ _ _
  have ends := examineEnds plan r
  generalize plan.examine r = outcome at ends examined
  cases ends with
  | @shown root parsed =>
    obtain rfl := Except.ok.inj examined
    have nodes : plan.nodes [r] = root.walk plan.ignored := by simp [Plan.nodes, Plan.root?, parsed]
    have lines : ((root.walk plan.ignored).flatMap fun node => (plan.visitor node).events).filter isNodeLine =
        (root.walk plan.ignored).flatMap fun node => (plan.visitor node).events := by
      apply List.filter_eq_self.2
      intro event listed
      obtain ⟨node, -, shown⟩ := List.mem_flatMap.1 listed
      exact shows node event shown
    refine ⟨?_, ?_⟩
    · simp [nodeLines, Node.tour_eq, silent, nodes, lines]
    · simp [nodes]
  | skipped unparsed =>
    obtain rfl := Except.ok.inj examined
    have nodes : plan.nodes [r] = [] := by simp [Plan.nodes, Plan.root?, unparsed]
    refine ⟨?_, ?_⟩
    · simp [nodeLines, silent, nodes, isNodeLine_skipTrace]
    · simp [nodes]
  | stopped => cases examined

/-- A survey that comes to an end shows what its visitor makes of the nodes. -/
theorem shows_run (shows : ShowsLines plan.visitor) {recipes : List Recipe} {report : Report}
    (completes : (plan.run recipes).result = .ok report) : Shows plan recipes report (plan.run recipes).trace := by
  induction recipes generalizing report with
  | nil =>
    obtain rfl := Except.ok.inj completes
    exact ⟨rfl, rfl⟩
  | cons r rest ih =>
    rw [Plan.run_cons] at completes ⊢
    cases examined : (plan.examine r).result with
    | error failure =>
      rw [Outcome.bind_error examined] at completes
      cases completes
    | ok first =>
      rw [Outcome.bind_ok examined] at completes ⊢
      cases surveyed : (plan.run rest).result with
      | error failure =>
        rw [Outcome.bind_error surveyed] at completes
        cases completes
      | ok others =>
        rw [Outcome.bind_ok surveyed] at completes ⊢
        obtain rfl := Except.ok.inj completes
        simpa using (shows_examine shows examined).append (ih surveyed)

end Run

/-- **Visitors leave a survey as it is.** If a survey comes to an end for one observer, it does for every other,
and the two agree in the sources that are parsed and skipped, in the number of nodes, in the calls of the index
and in every notice but the counts of hits. A visitor is an observer without memory. The visitor that shows
everything has a line for each of the nodes and no hit; the one that shows functions has a line and a hit for
each of those nodes that is a function. -/
theorem run_ignores_visitor {plan : Plan} {recipes : List Recipe} {σ : Type} {look : Observer σ} {memory : σ}
    {report : Report} (completes : (plan.runFor look memory recipes).1.result = .ok report) :
    (∀ (τ : Type) (other : Observer τ) (start : τ), ∃ same,
      (plan.runFor other start recipes).1.result = .ok same ∧ same.processed = report.processed ∧
      same.nodes = report.nodes ∧ same.failed = report.failed ∧
      (plan.runFor other start recipes).1.trace.calls = (plan.runFor look memory recipes).1.trace.calls ∧
      plainNotices (plan.runFor other start recipes).1.trace = plainNotices (plan.runFor look memory recipes).1.trace) ∧
    (∀ visitor, { plan with visitor }.run recipes = (plan.runFor (.ofVisitor visitor) () recipes).1) ∧
    report.nodes = (plan.nodes recipes).length ∧
    (∃ shown, ({ plan with visitor := .everything }.run recipes).result = .ok shown ∧ shown.matched = 0 ∧
      nodeLines ({ plan with visitor := .everything }.run recipes).trace = (plan.nodes recipes).map everyLine) ∧
    ∃ shown, ({ plan with visitor := .functions }.run recipes).result = .ok shown ∧
      shown.matched = (nodeLines ({ plan with visitor := .functions }.run recipes).trace).length ∧
      nodeLines ({ plan with visitor := .functions }.run recipes).trace =
        ((plan.nodes recipes).filter isFunction).map functionLine := by
  have goesOn := (exists_runFor_eq_ok_iff look memory).1 ⟨report, completes⟩
  have described : Describes plan recipes report (plan.runFor look memory recipes).1.trace := by
    obtain ⟨again, completes', described⟩ := describes_runFor look memory goesOn
    rwa [Except.ok.inj (completes.symm.trans completes')]
  have forVisitor : ∀ visitor, { plan with visitor }.run recipes = (plan.runFor (.ofVisitor visitor) () recipes).1 := by
    intro visitor
    rw [Plan.run, Plan.runFor_withVisitor]
  have finishes : ∀ visitor, ∃ shown, ({ plan with visitor }.run recipes).result = .ok shown := by
    intro visitor
    rw [forVisitor]
    exact (exists_runFor_eq_ok_iff _ ()).2 goesOn
  refine ⟨?_, forVisitor, described.nodes, ?_, ?_⟩
  · intro τ other start
    obtain ⟨same, completes', described'⟩ := describes_runFor other start goesOn
    exact ⟨same, completes', described'.processed.trans described.processed.symm,
      described'.nodes.trans described.nodes.symm, described'.failed.trans described.failed.symm,
      described'.calls.trans described.calls.symm, described'.notices.trans described.notices.symm⟩
  · obtain ⟨shown, completes'⟩ := finishes .everything
    have shows := shows_run showsLines_everything completes'
    refine ⟨shown, completes', shows.matched.trans (List.countP_eq_zero.2 fun _ _ => nofun), shows.lines.trans ?_⟩
    rw [List.map_eq_flatMap]
    rfl
  · obtain ⟨shown, completes'⟩ := finishes .functions
    have shows := shows_run showsLines_functions completes'
    have lines : nodeLines ({ plan with visitor := .functions }.run recipes).trace =
        ((plan.nodes recipes).filter isFunction).map functionLine := by
      rw [shows.lines, flatMap_functions]
      rfl
    refine ⟨shown, completes', ?_, lines⟩
    rw [lines, List.length_map, ← List.countP_eq_length_filter, shows.matched]
    exact List.countP_congr fun node _ => iff_of_eq (congrArg (· = true) (hit_functions node))

/-- An observer that counts, and counts every other node as a hit, sees what the visitor for functions sees. -/
theorem run_ignores_visitor_counting :
    let plan : Plan :=
      { disk := ⟨fun path => if path.name = "gone.cpp" then .absent else .file (.bytes [])⟩
        index := ⟨fun source _ => if source = "/w/bad.cpp" then .refused "broken"
          else .parsed (Ast.Cursor.blankUnit source) []⟩
        visitor := Visitor.everything }
    let recipes : List Recipe :=
      [⟨.ofText "/w", [], [], [], "c++20", [], false, .ofText "a.cpp", .here⟩,
       ⟨.ofText "/w", [], [], [], "c++20", [], false, .ofText "gone.cpp", .here⟩,
       ⟨.ofText "/w", [], [], [], "c++20", [], false, .ofText "bad.cpp", .here⟩]
    let look : Observer Nat := fun seen _ => (⟨[], seen % 2 = 0⟩, seen + 1)
    ∃ report, (plan.runFor look 0 recipes).1.result = .ok report ∧
      report.nodes = (plan.nodes recipes).length ∧
      ∃ same, (plan.runFor (.ofVisitor .functions) () recipes).1.result = .ok same ∧
        same.processed = report.processed ∧ same.failed = report.failed := by
  intro plan recipes look
  have goesOn : ∀ r ∈ recipes, plan.GoesOn r := by
    intro r listed
    simp only [recipes, List.mem_cons, List.not_mem_nil, or_false] at listed
    rcases listed with rfl | rfl | rfl
    · exact .inl rfl
    · exact .inr rfl
    · exact .inr rfl
  obtain ⟨report, completes⟩ := (exists_runFor_eq_ok_iff look 0).2 goesOn
  obtain ⟨others, -, nodes, -⟩ := run_ignores_visitor completes
  obtain ⟨same, completes', processed, -, failed, -⟩ := others Unit (.ofVisitor .functions) ()
  exact ⟨report, completes, nodes, same, completes', processed, failed⟩

end Survey

end CompileDb
