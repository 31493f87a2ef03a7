import CompileDb.Ast.Visitor
import CompileDb.Proofs.Markup.Lines

/-!
# The tags of the lines for nodes

The lines of the visitors as lines of markup, part by part (`markup_everyLine`, `markup_functionLine`). All their
parts are sound as long as the name of a kind has no letter with a meaning, so that neither the name of a node nor
the name of a file puts a tag into a line or takes one away (`tags_of_node_lines`).
-/

namespace CompileDb.Ast.Visitor

open Markup (Part Line bracketed opening backslash escape centred activeTags)

/-- The parts of a line that say where a node is. -/
def placeParts (node : Node) : List Part :=
  match node.location with
  | none => [⟨"bold magenta", .fixed "unknown"⟩, ⟨"/bold magenta", .fixed ">"⟩]
  | some l =>
    [⟨"bold magenta", .inserted 0 l.fileName⟩, ⟨"/bold magenta", .fixed ":"⟩,
      ⟨"italic", .fixed (toString l.line)⟩, ⟨"/italic", .fixed ":"⟩,
      ⟨"italic", .fixed (toString l.column)⟩, ⟨"/italic", .fixed ">"⟩]

/-- The parts of a line behind its label. -/
def nodeParts (width : Nat) (node : Node) : List Part :=
  ⟨"bold green", .inserted width (shownName node)⟩ :: ⟨"/bold green", .fixed " in file <"⟩ :: placeParts node

/-- The line for a node of any kind. -/
def everyLine (node : Node) : Line :=
  ⟨"  [", ⟨"bold", .fixed (centred 24 node.kind)⟩ :: ⟨"/bold", .fixed "] "⟩ :: nodeParts 50 node⟩

/-- The line for a function, with a coloured word for its kind. -/
def functionLine (colour word : Text) (node : Node) : Line :=
  ⟨"  ", ⟨"bold", .fixed []⟩ :: ⟨colour, .fixed word⟩ :: ⟨"/" ++ colour, .fixed []⟩ :: ⟨"/bold", .fixed " "⟩ ::
    nodeParts 30 node⟩

/-- The kinds that are functions, each with its colour and its word. -/
def functionWords : List (Text × Text × Text) :=
  [("FUNCTION_TEMPLATE", "bright_magenta", "template"), ("FUNCTION_DECL", "bright_blue", "function"),
    ("CXX_METHOD", "bright_cyan", "method")]

/-- The line for a node that is a function. -/
def functionLine? (node : Node) : Option Line :=
  (functionWords.lookup node.kind).map fun words => functionLine words.1 words.2 node

section Layout

open Markup (Field padded closing partsMarkup partsMarkup_cons)

theorem partsMarkup_placeParts (node : Node) : partsMarkup (placeParts node) = place node ++ ">" := by
  cases located : node.location with
  | none =>
    rw [placeParts, place, located]
    rfl
  | some l =>
    rw [placeParts, place, located]
    simp [partsMarkup, Part.markup, bracketed, Field.markup, padded, Markup.blanks, Text.ofString, Text.ofChars,
      opening, closing]

theorem partsMarkup_nodeParts (width : Nat) (node : Node) :
    partsMarkup (nodeParts width node) = "[bold green]" ++
      (padded width (escape (shownName node)) ++ ("[/bold green] in file <" ++ (place node ++ ">"))) := by
  rw [nodeParts, partsMarkup_cons, partsMarkup_cons, partsMarkup_placeParts]
  simp [Part.markup, bracketed, Field.markup, Text.ofString, Text.ofChars, opening, closing]

/-- A visitor's line is its label, a blank and the parts it shares with every other line. -/
theorem line_eq (label : Text) (width : Nat) (node : Node) :
    line label width node = "  " ++ (label ++ (" " ++ partsMarkup (nodeParts width node))) := by
  rw [line, partsMarkup_nodeParts]
  simp [Text.ofString, Text.ofChars]

/-- The parts of `everyLine` spell the line the visitor of all nodes prints. -/
theorem markup_everyLine (node : Node) : (everyLine node).markup = line (kindLabel node.kind) 50 node := by
  rw [line_eq, kindLabel, Line.markup, everyLine, partsMarkup_cons, partsMarkup_cons]
  simp [Part.markup, bracketed, Field.markup, Text.ofString, Text.ofChars, opening, closing]

/-- The parts of `functionLine` spell the line the visitor of functions prints. -/
theorem markup_functionLine (colour word : Text) (node : Node) :
    (functionLine colour word node).markup =
      line ("[bold]" ++ (bracketed colour ++ (word ++ bracketed ("/" ++ colour))) ++ "[/bold]") 30 node := by
  rw [line_eq, Line.markup, functionLine]
  simp [partsMarkup_cons, Part.markup, bracketed, Field.markup, Text.ofString, Text.ofChars, opening, closing]

theorem events_everything (node : Node) : (everything node).events = [.printed (everyLine node).markup] := by
  rw [everything, markup_everyLine]

theorem lookup_functionLabels (kind : Text) :
    functionLabels.lookup kind =
      (functionWords.lookup kind).map fun words => bracketed words.1 ++ (words.2 ++ bracketed ("/" ++ words.1)) := by
  have labels : functionLabels = functionWords.map fun entry =>
      (entry.1, bracketed entry.2.1 ++ (entry.2.2 ++ bracketed ("/" ++ entry.2.1))) := by decide +kernel
  rw [labels, List.lookup_eq_findSome?, List.lookup_eq_findSome?, List.findSome?_map, List.map_findSome?]
  congr 1
  funext entry
  simp only [Function.comp]
  cases kind == entry.1 <;> rfl

/-- The visitor of functions prints the line of a function and nothing for another node. -/
theorem events_functions (node : Node) :
    (functions node).events = ((functionLine? node).map fun line => .printed line.markup).toList := by
  rw [functions, lookup_functionLabels, functionLine?]
  cases functionWords.lookup node.kind with
  | none => rfl
  | some words =>
    simp only [Option.map_some, Option.toList_some]
    rw [markup_functionLine]

end Layout

/-- A number is written in digits and the minus sign. -/
theorem notMem_toString {a : Letter} (foreign : a.isIn Char.isDigit = false) (other : a ≠ '-') (n : Int) :
    a ∉ (toString n : Text) := by
  have digits : ∀ n : Nat, a ∉ Text.ofChars (Nat.toDigits 10 n) := by
    intro n listed
    obtain ⟨c, written, rfl⟩ := List.mem_map.1 listed
    have digit := Nat.isDigit_of_mem_toDigits (by omega) (by omega) written
    rw [Letter.isIn, digit] at foreign
    cases foreign
  cases n with
  | ofNat n =>
    have written : toString (Int.ofNat n) = Nat.repr n := rfl
    rw [Text.ofString, written, Nat.toList_repr]
    exact digits n
  | negSucc n =>
    have written : toString (Int.negSucc n) = "-" ++ Nat.repr (n + 1) := rfl
    rw [Text.ofString, written, String.toList_append, Nat.toList_repr, Text.ofChars, List.map_append, List.mem_append,
      not_or]
    exact ⟨fun sign => other (List.mem_singleton.1 sign), digits (n + 1)⟩

section Sound

variable {tag text : Text}

theorem sound_fixed (isInside : Markup.IsInside tag) (plain : opening ∉ text ∧ backslash ∉ text) :
    Part.Sound ⟨tag, .fixed text⟩ := ⟨isInside, plain⟩

theorem sound_inserted (isInside : Markup.IsInside tag) (width : Nat) (text : Text) :
    Part.Sound ⟨tag, .inserted width text⟩ := ⟨isInside, trivial⟩

theorem sound_placeParts (node : Node) : ∀ part ∈ placeParts node, part.Sound := by
  have number : ∀ n : Int, opening ∉ (toString n : Text) ∧ backslash ∉ (toString n : Text) := fun n =>
    ⟨notMem_toString (by decide) (by decide) n, notMem_toString (by decide) (by decide) n⟩
  rw [placeParts]
  split
  · simp only [List.forall_mem_cons]
    exact ⟨sound_fixed (by decide) (by decide), sound_fixed (by decide) (by decide), nofun⟩
  · next l _ =>
    simp only [List.forall_mem_cons]
    exact ⟨sound_inserted (by decide) _ _, sound_fixed (by decide) (by decide),
      sound_fixed (by decide) (number l.line), sound_fixed (by decide) (by decide),
      sound_fixed (by decide) (number l.column),
      sound_fixed (by decide) (by decide), nofun⟩

theorem sound_nodeParts (width : Nat) (node : Node) : ∀ part ∈ nodeParts width node, part.Sound := by
  rw [nodeParts, List.forall_mem_cons, List.forall_mem_cons]
  exact ⟨sound_inserted (by decide) _ _, sound_fixed (by decide) (by decide), sound_placeParts node⟩

/-- A kind without brackets and backslashes leaves `everyLine` sound, whatever the name and the location. -/
theorem sound_everyLine {node : Node} (unopened : opening ∉ node.kind) (unslashed : backslash ∉ node.kind) :
    (everyLine node).Sound := by
  have start : Markup.groups "  [" = [] ∧ ("  [" : Text).getLast? ≠ some backslash := by decide
  have kind : opening ∉ centred 24 node.kind ∧ backslash ∉ centred 24 node.kind :=
    ⟨Markup.notMem_centred (by decide) unopened 24, Markup.notMem_centred (by decide) unslashed 24⟩
  refine ⟨start.1, start.2, ?_⟩
  rw [everyLine, List.forall_mem_cons, List.forall_mem_cons]
  exact ⟨sound_fixed (by decide) kind, sound_fixed (by decide) (by decide), sound_nodeParts 50 node⟩

/-- The lines of functions are sound: their labels are fixed. -/
theorem sound_functionLine? {node : Node} {line : Line} (found : functionLine? node = some line) : line.Sound := by
  have words : ∀ entry ∈ functionWords, Markup.IsInside entry.2.1 ∧ Markup.IsInside ("/" ++ entry.2.1) ∧
      opening ∉ entry.2.2 ∧ backslash ∉ entry.2.2 := by decide +kernel
  obtain ⟨⟨colour, word⟩, looked, rfl⟩ := Option.map_eq_some_iff.1 found
  obtain ⟨before, behind, same, -⟩ := List.lookup_eq_some_iff.1 looked
  obtain ⟨opens, closes, plain⟩ := words (node.kind, colour, word) (by simp [same])
  have start : Markup.groups "  " = [] ∧ ("  " : Text).getLast? ≠ some backslash := by decide
  refine ⟨start.1, start.2, ?_⟩
  rw [functionLine, List.forall_mem_cons, List.forall_mem_cons, List.forall_mem_cons, List.forall_mem_cons]
  exact ⟨sound_fixed (by decide) (by decide), sound_fixed opens plain,
    sound_fixed closes (by decide), sound_fixed (by decide) (by decide), sound_nodeParts 30 node⟩

end Sound

theorem exists_inserted_mem_placeParts {node : Node} {text : Text} :
    (∃ tag width, ⟨tag, .inserted width text⟩ ∈ placeParts node) ↔
      ∃ l, node.location = some l ∧ text = l.fileName := by
  rw [placeParts]
  split
  · next nowhere => simp [nowhere]
  · next l located => simp [located]

/-- What is inserted behind the label are the name of the node and the name of its file. -/
theorem exists_inserted_mem_nodeParts {node : Node} {text : Text} (width : Nat) :
    (∃ tag width', ⟨tag, .inserted width' text⟩ ∈ nodeParts width node) ↔
      text = shownName node ∨ ∃ l, node.location = some l ∧ text = l.fileName := by
  rw [← exists_inserted_mem_placeParts]
  simp [nodeParts, exists_or]

/-- A line inserts two texts of its node: the name it shows and the file it names. -/
theorem exists_inserts {node : Node} {line : Line} (shown : line = everyLine node ∨ functionLine? node = some line)
    (text : Text) :
    (∃ before, line.Inserts before text) ↔ text = shownName node ∨ ∃ l, node.location = some l ∧ text = l.fileName := by
  rw [Line.exists_inserts_iff]
  rcases shown with rfl | found
  · rw [← exists_inserted_mem_nodeParts 50]
    simp [everyLine]
  · obtain ⟨words, -, rfl⟩ := Option.map_eq_some_iff.1 found
    rw [← exists_inserted_mem_nodeParts 30]
    simp [functionLine]

theorem getLast?_shownName {node : Node}
    (ends : ∀ name, node.name = some name → name.getLast? ≠ some backslash) :
    (shownName node).getLast? ≠ some backslash := by
  rw [shownName]
  split
  · decide
  · decide
  · next name _ named => exact ends name named

/-- **No name puts a tag into the lines for nodes, and none that ends with another letter takes one away.** The
visitors show lines of markup in which the name of the node and the name of its file are inserted. A group of
such a line that stands in an insertion, or reaches into it, is no tag. If the two names do not end with a
backslash, the tags of the line are the visitor's own. -/
theorem tags_of_node_lines {node : Node} (unopened : opening ∉ node.kind) (unslashed : backslash ∉ node.kind) :
    (everything node).events = [.printed (everyLine node).markup] ∧
    (functions node).events = ((functionLine? node).map fun line => .printed line.markup).toList ∧
    ∀ line, line = everyLine node ∨ functionLine? node = some line →
      (∀ text, (∃ before, line.Inserts before text) ↔
        text = shownName node ∨ ∃ l, node.location = some l ∧ text = l.fileName) ∧
      (∀ before text, line.Inserts before text → before ++ escape text <+: line.markup ∧
        ∀ g ∈ Markup.groups line.markup, g.isActive = true →
          g.stop ≤ before.length ∨ (before ++ escape text).length ≤ g.place) ∧
      ((∀ name, node.name = some name → name.getLast? ≠ some backslash) →
        (∀ l, node.location = some l → l.fileName.getLast? ≠ some backslash) →
        activeTags line.markup = line.ownTags) := by
  refine ⟨events_everything node, events_functions node, fun line shown => ?_⟩
  have sound : line.Sound := by
    rcases shown with rfl | found
    · exact sound_everyLine unopened unslashed
    · exact sound_functionLine? found
  refine ⟨exists_inserts shown, fun before text inserts => ⟨inserts.isPrefix, fun g found active => ?_⟩, ?_⟩
  · have tagged : g.toTag ∈ activeTags line.markup := List.mem_map.2 ⟨g, List.mem_filter.2 ⟨found, active⟩, rfl⟩
    exact inserts.separate ((Line.activeTags_sublist sound).subset tagged)
  · intro nameEnds fileEnds
    refine Line.activeTags_eq sound fun part listed => ?_
    obtain ⟨tag, field⟩ := part
    cases field with
    | fixed text => trivial
    | inserted width text =>
      rcases (exists_inserts shown text).1 (Line.exists_inserts_iff.2 ⟨tag, width, listed⟩) with rfl | ⟨l, located, rfl⟩
      · exact getLast?_shownName nameEnds
      · exact fileEnds l located

/-- A function with groups, backslashes and a line feed in its name, in a file with a group in its name. -/
theorem tags_of_node_lines_bracketed :
    let node : Node :=
      .mk "FUNCTION_DECL" (some "f[bold][[/bold]\\[#x]\n\\\\[@y]z")
        (some ⟨some (.ofText "/w/[red].h"), 3, 7⟩) false []
    opening ∉ node.kind ∧ backslash ∉ node.kind ∧
      activeTags (everyLine node).markup = (everyLine node).ownTags ∧
      ∃ line, functionLine? node = some line ∧ (functions node).events = [.printed line.markup] ∧
        (activeTags line.markup).map Markup.Tag.inside =
          ["bold", "bright_blue", "/bright_blue", "/bold", "bold green", "/bold green", "bold magenta", "/bold magenta",
            "italic", "/italic", "italic", "/italic"].map Text.ofString := by
  intro node
  have unopened : opening ∉ node.kind := by decide
  have unslashed : backslash ∉ node.kind := by decide
  obtain ⟨-, events, safe⟩ := tags_of_node_lines unopened unslashed
  have nameEnds : ∀ name, node.name = some name → name.getLast? ≠ some backslash := by
    intro name named
    obtain rfl := Option.some.inj named
    decide
  have fileEnds : ∀ l, node.location = some l → l.fileName.getLast? ≠ some backslash := by
    intro l located
    obtain rfl := Option.some.inj located
    decide
  have found : functionLine? node = some (functionLine "bright_blue" "function" node) := by rfl
  refine ⟨unopened, unslashed, (safe _ (.inl rfl)).2.2 nameEnds fileEnds, _, found, ?_, ?_⟩
  · rw [events, found]
    rfl
  · rw [(safe _ (.inr found)).2.2 nameEnds fileEnds]
    rfl

end CompileDb.Ast.Visitor
