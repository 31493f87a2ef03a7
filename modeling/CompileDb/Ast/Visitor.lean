import CompileDb.Ast.Walk
import CompileDb.Markup
import CompileDb.Outcome

/-!
# Visitors

An observer looks at one node at a time: it shows something, says whether the node is a hit, and may
remember what it saw. What it says has no influence on which nodes it is shown. `Observer.tour` shows it
the nodes of a walk, which is what `traverse` does. A visitor is an observer that remembers nothing, so
what it makes of nodes is told one by one (`Node.tour_eq`).

`Visitor.everything` shows each node and counts none, as `AstDumpVisitor` does; `Visitor.functions`
shows functions, function templates and methods, and counts those, as `FunctionDumpVisitor` does.
-/

namespace CompileDb.Ast

/-- What a visitor makes of a node. -/
structure Sighting where
  /-- What is shown. -/
  events : List Event
  /-- Whether the node is a hit. -/
  hit : Bool
  deriving DecidableEq

/-- One who looks at nodes and remembers. -/
abbrev Observer (σ : Type) := σ → Node → Sighting × σ

/-- One who looks at nodes and remembers nothing. -/
abbrev Visitor := Node → Sighting

namespace Visitor

/-- The markup for where a node is. -/
def place (node : Node) : Text :=
  match node.location with
  | none => "[bold magenta]unknown[/bold magenta]"
  | some l =>
    "[bold magenta]" ++ Markup.escape l.fileName ++ "[/bold magenta]:[italic]" ++ toString l.line ++
      "[/italic]:[italic]" ++ toString l.column ++ "[/italic]"

/-- The name that is shown for a node. -/
def shownName (node : Node) : Text :=
  match node.name with
  | none | some [] => "<unknown>"
  | some name => name

/-- The markup for a node, behind its label. -/
def line (label : Text) (width : Nat) (node : Node) : Text :=
  "  " ++ label ++ " [bold green]" ++ Markup.padded width (Markup.escape (shownName node)) ++
    "[/bold green] in file <" ++ place node ++ ">"

/-- The label of a node of any kind. -/
def kindLabel (kind : Text) : Text := "[[bold]" ++ Markup.centred 24 kind ++ "[/bold]]"

/-- The labels of the kinds that are functions. -/
def functionLabels : List (Text × Text) :=
  [("FUNCTION_TEMPLATE", "[bright_magenta]template[/bright_magenta]"),
   ("FUNCTION_DECL", "[bright_blue]function[/bright_blue]"),
   ("CXX_METHOD", "[bright_cyan]method[/bright_cyan]")]

/-- Shows every node. -/
def everything : Visitor := fun node =>
  ⟨[.printed (line (kindLabel node.kind) 50 node)], false⟩

/-- Shows functions, function templates and methods. -/
def functions : Visitor := fun node =>
  match functionLabels.lookup node.kind with
  | some label => ⟨[.printed (line ("[bold]" ++ label ++ "[/bold]") 30 node)], true⟩
  | none => ⟨[], false⟩

/-- The visitors that a user can ask for, by name. -/
def byName : List (Text × Visitor) := [("ast", everything), ("functions", functions)]

end Visitor

/-- How many nodes were looked at, and how many were hits. -/
structure Count where
  visited : Nat
  matched : Nat
  deriving DecidableEq

namespace Observer

variable {σ : Type} (look : Observer σ)

/-- What an observer makes of nodes one after another, and what it remembers in the end. -/
def sightings (memory : σ) : List Node → List Sighting × σ
  | [] => ([], memory)
  | node :: rest =>
    let first := look memory node
    let others := sightings first.2 rest
    (first.1 :: others.1, others.2)

/-- An observer makes something of every node. -/
theorem length_sightings (memory : σ) (nodes : List Node) : (look.sightings memory nodes).1.length = nodes.length := by
  induction nodes generalizing memory with
  | nil => rfl
  | cons node rest ih => rw [sightings, List.length_cons, List.length_cons, ih]

/-- Shows the nodes of a tree to an observer. -/
def tour (ignored : Option (List Text)) (memory : σ) (root : Node) : Outcome Count × σ :=
  let seen := look.sightings memory (root.walk ignored)
  let count : Count := ⟨seen.1.length, seen.1.countP Sighting.hit⟩
  (⟨{ events := seen.1.flatMap Sighting.events
      notices := [.walked count.visited count.matched] }, .ok count⟩, seen.2)

/-- A visitor as an observer. -/
def ofVisitor (visitor : Visitor) : Observer Unit := fun _ node => (visitor node, ())

/-- What a visitor makes of nodes is told one by one. -/
theorem sightings_ofVisitor (visitor : Visitor) (nodes : List Node) :
    (ofVisitor visitor).sightings () nodes = (nodes.map visitor, ()) := by
  induction nodes with
  | nil => rfl
  | cons node rest ih =>
    show (visitor node :: ((ofVisitor visitor).sightings () rest).1, _) = _
    rw [ih, List.map_cons]

end Observer

/-- Shows the nodes of a tree to a visitor. -/
def Node.tour (visitor : Visitor) (ignored : Option (List Text)) (root : Node) : Outcome Count :=
  ((Observer.ofVisitor visitor).tour ignored () root).1

/-- A visitor is shown the nodes of the walk, and its hits are counted. -/
theorem Node.tour_eq (visitor : Visitor) (ignored : Option (List Text)) (root : Node) :
    root.tour visitor ignored =
      ⟨{ events := (root.walk ignored).flatMap fun node => (visitor node).events
         notices := [.walked (root.walk ignored).length ((root.walk ignored).countP fun node => (visitor node).hit)] },
        .ok ⟨(root.walk ignored).length, (root.walk ignored).countP fun node => (visitor node).hit⟩⟩ := by
  rw [tour, Observer.tour, Observer.sightings_ofVisitor]
  simp [List.countP_map, List.flatMap_map, Function.comp_def]

end CompileDb.Ast
