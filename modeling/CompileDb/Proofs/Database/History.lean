import CompileDb.Database.Step
import CompileDb.Proofs.Database.Contents
import Mathlib.Algebra.GroupWithZero.Nat
import Mathlib.Data.List.Induction

/-!
# A database and its history

What a database holds after moves depends on little of them: on the entries that the last load found,
and on the tests that narrowing has asked for since (`LastLoad`). A step either loads, or keeps what
passes a test, or changes nothing (`after_of_loads`, `after_of_not_loads`). So moves that do not load keep
the recipes that pass all their tests, however often and in whatever order these are asked for
(`afterMoves_of_not_loads`), and every recipe that goes is counted (`sum_removals_add_size`).
-/

namespace CompileDb.Database

/-- The file that a load reads. -/
def Source.target (disk : Disk) (path : Path) : Source → Path
  | .file => path
  | .directory => fileIn path
  | .anywhere => if disk.look path = .directory then fileIn path else path

/-- A load finds entries: its file is there and states them. A build directory has to be one. -/
structure Source.Finds (source : Source) (disk : Disk) (path : Path) (entries : List Entry) : Prop where
  place : source = .directory → disk.look path = .directory
  stated : ∃ contents, disk.look (source.target disk path) = .file contents ∧
    entriesOf (source.target disk path) contents = .ok entries

theorem result_ofContents (path : Path) (contents : Contents) :
    (ofContents path contents).result = (entriesOf path contents).map fun entries => ⟨entries.map Recipe.ofEntry⟩ := by
  rw [ofContents, Outcome.bind_ok rfl]
  cases stated : entriesOf path contents with
  | error failure => rw [Outcome.bind_error rfl]; rfl
  | ok entries => rw [Outcome.bind_ok rfl]; rfl

/-- A file is loaded from what its contents state. -/
theorem result_loadFile_of_file {disk : Disk} {path : Path} {contents : Contents}
    (found : disk.look path = .file contents) :
    (loadFile disk path).result = (entriesOf path contents).map fun entries => ⟨entries.map Recipe.ofEntry⟩ := by
  rw [loadFile, found]
  exact result_ofContents path contents

/-- A load succeeds on a file whose contents are accepted, and gives the recipes of its entries. -/
theorem result_loadFile_eq_ok_iff {disk : Disk} {path : Path} {d : Database} :
    (loadFile disk path).result = .ok d ↔ ∃ contents entries, disk.look path = .file contents ∧
      entriesOf path contents = .ok entries ∧ d = ⟨entries.map Recipe.ofEntry⟩ := by
  cases found : disk.look path with
  | file contents =>
    rw [result_loadFile_of_file found]
    cases stated : entriesOf path contents with
    | error failure => simp [Except.map, stated]
    | ok entries => simp [Except.map, stated, eq_comm]
  | _ => simp [loadFile, found, Outcome.fail]

/-- A load from a build directory or a file reads one file, its target, if it may read anything. -/
theorem result_loadFrom (source : Source) (disk : Disk) (path : Path)
    (place : source = .directory → disk.look path = .directory) (d : Database) :
    (loadFrom source disk path).result = .ok d ↔ (loadFile disk (source.target disk path)).result = .ok d := by
  cases source with
  | file => rfl
  | directory =>
    show (loadDirectory disk path).result = .ok d ↔ _
    rw [loadDirectory, place rfl]
    rfl
  | anywhere =>
    show (load disk path).result = .ok d ↔ _
    unfold load Source.target
    cases found : disk.look path with
    | outOfReach => simp [loadFile, found, Outcome.fail]
    | _ => simp

/-- A load succeeds exactly when it finds entries, and the database is then made of them. -/
theorem result_loadFrom_eq_ok_iff {source : Source} {disk : Disk} {path : Path} {d : Database} :
    (loadFrom source disk path).result = .ok d ↔
      ∃ entries, source.Finds disk path entries ∧ d = ⟨entries.map Recipe.ofEntry⟩ := by
  by_cases place : source = .directory → disk.look path = .directory
  · rw [result_loadFrom source disk path place, result_loadFile_eq_ok_iff]
    constructor
    · rintro ⟨contents, entries, found, stated, made⟩
      exact ⟨entries, ⟨place, contents, found, stated⟩, made⟩
    · rintro ⟨entries, ⟨-, contents, found, stated⟩, made⟩
      exact ⟨contents, entries, found, stated, made⟩
  · constructor
    · intro loaded
      obtain ⟨rfl, elsewhere⟩ := Classical.not_imp.1 place
      have refused : (loadDirectory disk path).result = .ok d := loaded
      unfold loadDirectory at refused
      split at refused
      · cases refused
      · cases refused
      · cases refused
      · cases refused
      · next found => exact absurd found elsewhere
    · rintro ⟨entries, finds, -⟩
      exact absurd finds.place place

/-- The test that a step narrows a database to. -/
def Step.test? : Step → Option (Recipe → Bool)
  | keep test => some test
  | dropTests _ => some fun r => !isTest r
  | _ => none

/-- A move loads entries. -/
def Move.Loads (m : Move) (entries : List Entry) : Prop :=
  ∃ source path, m.step = .load source path ∧ source.Finds m.disk path entries

/-- How many recipes a step took out. -/
def removals (outcome : Outcome (Database × Nat)) : Nat :=
  match outcome.result with
  | .ok (_, removed) => removed
  | .error _ => 0

section Step

variable {d : Database} {m : Move}

/-- A move that loads replaces the database by the recipes of the entries, whatever was there. -/
theorem after_of_loads {entries : List Entry} (loads : m.Loads entries) :
    d.after m.disk m.step = ⟨entries.map Recipe.ofEntry⟩ := by
  obtain ⟨source, path, step, finds⟩ := loads
  have loaded := result_loadFrom_eq_ok_iff.2 ⟨entries, finds, rfl⟩
  rw [after, step, Step.outcome, Outcome.bind_ok loaded]
  rfl

@[simp] theorem keep_true (d : Database) : d.keep (fun _ => true) = d :=
  congrArg mk (List.filter_eq_self.2 fun _ _ => rfl)

/-- What a test removes and what it keeps make up the database. -/
theorem removedBy_add_size (d : Database) (test : Recipe → Bool) : d.removedBy test + (d.keep test).size = d.size :=
  Nat.sub_add_cancel (List.length_filter_le test d.recipes)

/-- A step with a test keeps what passes it, and takes out the rest. -/
theorem outcome_of_test? {test : Recipe → Bool} (narrows : m.step.test? = some test) :
    (m.step.outcome m.disk d).result = .ok (d.keep test, d.removedBy test) := by
  obtain ⟨disk, step⟩ := m
  cases step with
  | keep test' =>
    obtain rfl := Option.some.inj narrows
    rfl
  | dropTests toConsole =>
    obtain rfl := Option.some.inj narrows
    rfl
  | load source path => cases narrows
  | observe view => cases narrows

/-- A step without a test that does not load changes nothing. -/
theorem after_of_idle (idle : ∀ entries, ¬ m.Loads entries) (narrows : m.step.test? = none) :
    d.after m.disk m.step = d ∧ removals (m.step.outcome m.disk d) = 0 := by
  obtain ⟨disk, step⟩ := m
  cases step with
  | keep test => cases narrows
  | dropTests toConsole => cases narrows
  | observe view => exact ⟨rfl, rfl⟩
  | load source path =>
    cases loaded : (loadFrom source disk path).result with
    | ok d' =>
      obtain ⟨entries, finds, -⟩ := result_loadFrom_eq_ok_iff.1 loaded
      exact absurd ⟨source, path, rfl, finds⟩ (idle entries)
    | error failure =>
      simp only [after, removals, Step.outcome]
      rw [Outcome.bind_error loaded]
      exact ⟨rfl, rfl⟩

/-- A step that does not load keeps what passes its test, if it has one, and counts the rest. -/
theorem after_of_not_loads (idle : ∀ entries, ¬ m.Loads entries) :
    d.after m.disk m.step = d.keep (fun r => m.step.test?.all fun test => test r) ∧
    removals (m.step.outcome m.disk d) + (d.after m.disk m.step).size = d.size := by
  cases narrows : m.step.test? with
  | none =>
    obtain ⟨same, nothing⟩ := after_of_idle (d := d) idle narrows
    rw [same, nothing]
    exact ⟨d.keep_true.symm, Nat.zero_add _⟩
  | some test =>
    have outcome := outcome_of_test? (d := d) narrows
    rw [after, removals, outcome]
    exact ⟨rfl, removedBy_add_size d test⟩

end Step

/-- The tests that narrow a database in moves, in their order. -/
def tests (moves : List Move) : List (Recipe → Bool) := moves.filterMap fun m => m.step.test?

section Run

variable {moves : List Move}

/-- Moves that do not load keep what passes all their tests. -/
theorem afterMoves_of_not_loads (idle : ∀ m ∈ moves, ∀ entries, ¬ m.Loads entries) (d : Database) :
    afterMoves d moves = d.keep fun r => (tests moves).all fun test => test r := by
  induction moves generalizing d with
  | nil => exact d.keep_true.symm
  | cons m rest ih =>
    have first := (after_of_not_loads (d := d) (idle m (by simp))).1
    have others := ih (fun m' listed => idle m' (List.mem_cons_of_mem m listed)) (d.after m.disk m.step)
    rw [afterMoves, List.foldl_cons, ← afterMoves, others, first, keep, keep, List.filter_filter, keep]
    congr 1
    apply List.filter_congr
    intro r _
    cases narrows : m.step.test? <;> simp [tests, narrows, Bool.and_comm]

/-- Moves that do not load count every recipe that goes. -/
theorem sum_removals_add_size (idle : ∀ m ∈ moves, ∀ entries, ¬ m.Loads entries) (d : Database) :
    ((outcomes d moves).map removals).sum + (afterMoves d moves).size = d.size := by
  induction moves generalizing d with
  | nil => exact Nat.zero_add _
  | cons m rest ih =>
    have first := (after_of_not_loads (d := d) (idle m (by simp))).2
    have others := ih (fun m' listed => idle m' (List.mem_cons_of_mem m listed)) (d.after m.disk m.step)
    rw [outcomes, List.map_cons, List.sum_cons, afterMoves, List.foldl_cons, ← afterMoves]
    omega

end Run

/-- More moves go on from where the moves before them ended. -/
theorem afterMoves_append (d : Database) (moves more : List Move) :
    afterMoves d (moves ++ more) = afterMoves (afterMoves d moves) more := List.foldl_append

/-- The outcomes of more moves follow those of the moves before them. -/
theorem outcomes_append (d : Database) (moves more : List Move) :
    outcomes d (moves ++ more) = outcomes d moves ++ outcomes (afterMoves d moves) more := by
  induction moves generalizing d with
  | nil => rfl
  | cons m rest ih =>
    rw [List.cons_append, outcomes, ih, outcomes, List.cons_append]
    rfl

theorem length_outcomes (d : Database) (moves : List Move) : (outcomes d moves).length = moves.length := by
  induction moves generalizing d with
  | nil => rfl
  | cons m rest ih => rw [outcomes, List.length_cons, List.length_cons, ih]

/-- The entries that the last successful load among moves found, and the moves since then. Without such a
load there are no entries, and the moves are all there are. -/
inductive LastLoad : List Move → List Entry → List Move → Prop where
  | never {moves : List Move} (idle : ∀ m ∈ moves, ∀ entries, ¬ m.Loads entries) : LastLoad moves [] moves
  | load {earlier since : List Move} {m : Move} {entries : List Entry} (loads : m.Loads entries)
      (idle : ∀ m ∈ since, ∀ entries, ¬ m.Loads entries) : LastLoad (earlier ++ m :: since) entries since

/-- Every sequence of moves has a last load, the empty database standing for none. -/
theorem exists_lastLoad (moves : List Move) : ∃ entries since, LastLoad moves entries since := by
  induction moves using List.reverseRecOn with
  | nil => exact ⟨[], [], .never (by simp)⟩
  | append_singleton moves m ih =>
    -- A last move that loads is the last load; any other is one of those since.
    by_cases loads : ∃ entries, m.Loads entries
    · obtain ⟨entries, loads⟩ := loads
      exact ⟨entries, [], .load loads (by simp)⟩
    · have idle : ∀ since : List Move, (∀ m' ∈ since, ∀ entries, ¬ m'.Loads entries) →
          ∀ m' ∈ since ++ [m], ∀ entries, ¬ m'.Loads entries := by
        intro since before m' listed entries finds
        rcases List.mem_append.1 listed with earlier | last
        · exact before m' earlier entries finds
        · exact loads ⟨entries, List.mem_singleton.1 last ▸ finds⟩
      obtain ⟨entries, since, last⟩ := ih
      cases last with
      | never before => exact ⟨[], moves ++ [m], .never (idle moves before)⟩
      | @load earlier since load entries loads before =>
        refine ⟨entries, since ++ [m], ?_⟩
        rw [List.append_assoc, List.cons_append]
        exact .load loads (idle since before)

section LastLoad

variable {moves since : List Move} {entries : List Entry}

/-- The moves since the last load start from the database that it made. -/
theorem LastLoad.afterAll_eq (last : LastLoad moves entries since) :
    afterAll moves = afterMoves ⟨entries.map Recipe.ofEntry⟩ since := by
  cases last with
  | never idle => rfl
  | load loads idle =>
    rw [afterAll, afterMoves_append, afterMoves, List.foldl_cons, after_of_loads loads]
    rfl

/-- Since the last load, the outcomes are those of a fresh database with its recipes. -/
theorem LastLoad.drop_outcomes (last : LastLoad moves entries since) :
    (outcomes {} moves).drop (moves.length - since.length) = outcomes ⟨entries.map Recipe.ofEntry⟩ since := by
  cases last with
  | never idle => rw [Nat.sub_self, List.drop_zero]; rfl
  | @load earlier since m entries loads idle =>
    have front : (earlier ++ m :: since).length - since.length = (outcomes {} earlier).length + 1 := by
      rw [length_outcomes, List.length_append, List.length_cons]
      omega
    rw [front, outcomes_append, List.drop_length_add_append, outcomes, after_of_loads loads]
    rfl

/-- No move since the last load is a load. -/
theorem LastLoad.idle (last : LastLoad moves entries since) : ∀ m ∈ since, ∀ es, ¬ m.Loads es := by
  cases last with
  | never idle => exact idle
  | load loads idle => exact idle

end LastLoad

/-- **A database is its last load, narrowed by every test since.** Its recipes are those of the entries that
the last successful load found, in their order, less those that fail a test asked for since. As many have
been taken out as are missing. Neither the order of the tests matters nor how often they are asked for.
A load succeeds just when it finds entries; one that fails and a look at the database leave it as it is. -/
theorem afterAll_eq_last_load_narrowed (moves : List Move) :
    (∃ entries since, LastLoad moves entries since) ∧
    (∀ entries since, LastLoad moves entries since →
      (afterAll moves).recipes =
        (entries.map Recipe.ofEntry).filter (fun r => (tests since).all fun test => test r) ∧
      (((outcomes {} moves).drop (moves.length - since.length)).map removals).sum + (afterAll moves).size =
        entries.length ∧
      ∀ moves' since', LastLoad moves' entries since' → (∀ test, test ∈ tests since' ↔ test ∈ tests since) →
        afterAll moves' = afterAll moves) ∧
    (∀ disk source path, (∃ loaded, (loadFrom source disk path).result = .ok loaded) ↔
      ∃ entries, source.Finds disk path entries) ∧
    (∀ disk source path failure, (loadFrom source disk path).result = .error failure →
      (afterAll moves).after disk (.load source path) = afterAll moves) ∧
    ∀ disk view, (afterAll moves).after disk (.observe view) = afterAll moves := by
  refine ⟨exists_lastLoad moves, ?_, ?_, ?_, ?_⟩
  · intro entries since last
    have narrowed := afterMoves_of_not_loads last.idle ⟨entries.map Recipe.ofEntry⟩
    refine ⟨?_, ?_, ?_⟩
    · rw [last.afterAll_eq, narrowed]
      rfl
    · have counted := sum_removals_add_size last.idle ⟨entries.map Recipe.ofEntry⟩
      rw [last.drop_outcomes, last.afterAll_eq, counted, size, List.length_map]
    · intro moves' since' last' same
      rw [last.afterAll_eq, last'.afterAll_eq, narrowed, afterMoves_of_not_loads last'.idle]
      congr 1
      funext r
      rw [Bool.eq_iff_iff, List.all_eq_true, List.all_eq_true]
      exact forall_congr' fun test => by rw [same test]
  · intro disk source path
    constructor
    · rintro ⟨loaded, success⟩
      obtain ⟨entries, finds, -⟩ := result_loadFrom_eq_ok_iff.1 success
      exact ⟨entries, finds⟩
    · rintro ⟨entries, finds⟩
      exact ⟨_, result_loadFrom_eq_ok_iff.2 ⟨entries, finds, rfl⟩⟩
  · intro disk source path failure failed
    simp only [after, Step.outcome]
    rw [Outcome.bind_error failed]
  · intro disk view
    rfl

/-- A load, a test, a load that fails, test sources taken out, and a look; and the same tests the other way round. -/
theorem afterAll_eq_last_load_narrowed_reordered :
    let objects : List (List (String × String)) :=
      [[("directory", "/"), ("file", "a.c"), ("command", "c")],
        [("directory", "/"), ("file", "a_test.c"), ("command", "c")]]
    let bytes := Text.Utf8.encode (Json.objectList objects)
    let disk : Disk := ⟨fun path => if path.text = "/db" then .directory
      else if path.text = "/db/compile_commands.json" then .file (.bytes bytes) else .absent⟩
    let test : Recipe → Bool := fun r => r.definitions.isEmpty
    let earlier : List Move := [⟨disk, .keep fun _ => false⟩]
    let load : Move := ⟨disk, .load .anywhere (.ofText "/db")⟩
    let since : List Move := [⟨disk, .keep test⟩, ⟨disk, .load .file (.ofText "/no")⟩, ⟨disk, .dropTests false⟩,
      ⟨disk, .observe .size⟩]
    let since' : List Move := [⟨disk, .dropTests false⟩, ⟨disk, .keep test⟩, ⟨disk, .keep test⟩]
    let moves : List Move := earlier ++ load :: since
    let kept : Entry := ⟨.ofText "/", "c", .ofText "a.c", .here⟩
    let tested : Entry := ⟨.ofText "/", "c", .ofText "a_test.c", .here⟩
    LastLoad moves [kept, tested] since ∧ (afterAll moves).recipes = [Recipe.ofEntry kept] ∧
      (((outcomes {} moves).drop 2).map removals).sum + (afterAll moves).size = 2 ∧
      afterAll (earlier ++ load :: since') = afterAll moves ∧
      (loadFrom .file disk (.ofText "/no")).result = .error (.fault (.notFound (.ofText "/no") .file)) ∧
      (afterAll moves).after disk (.load .file (.ofText "/no")) = afterAll moves := by
  intro objects bytes disk test earlier load since since' moves kept tested
  have accepted : Entry.allOfValue (.list (objects.map fun fields => .table (fields.map Json.fieldOf))) =
      .ok [kept, tested] := by
    decide +kernel
  have stated : entriesOf (.ofText "/db/compile_commands.json") (.bytes bytes) = .ok [kept, tested] :=
    entriesOf_eq_ok_iff.2 ⟨bytes, rfl, _, listsItems_objectList objects, accepted⟩
  have look : ∀ path : Path, disk.look path = if path.text = "/db" then .directory
      else if path.text = "/db/compile_commands.json" then .file (.bytes bytes) else .absent := fun _ => rfl
  have place : disk.look (.ofText "/db") = .directory := by
    rw [look, if_pos (by decide)]
  have target : Source.target disk (.ofText "/db") .anywhere = .ofText "/db/compile_commands.json" := by
    rw [Source.target, if_pos place]
    rfl
  have found : disk.look (.ofText "/db/compile_commands.json") = .file (.bytes bytes) := by
    rw [look, if_neg (by decide), if_pos (by decide)]
  have loads : load.Loads [kept, tested] :=
    ⟨.anywhere, .ofText "/db", rfl, nofun, .bytes bytes, target ▸ found, target ▸ stated⟩
  have absent : disk.look (.ofText "/no") = .absent := by
    rw [look, if_neg (by decide), if_neg (by decide)]
  have failed : (loadFrom .file disk (.ofText "/no")).result =
      .error (.fault (.notFound (.ofText "/no") .file)) := by
    rw [loadFrom, loadFile, absent]
    rfl
  have missing : ∀ es, ¬ Source.file.Finds disk (.ofText "/no") es := by
    rintro es ⟨-, bytes', present, -⟩
    exact absurd (absent.symm.trans present) nofun
  have idle : ∀ m ∈ since, ∀ es, ¬ m.Loads es := by
    rintro m listed es ⟨source, path, step, finds⟩
    simp only [since, List.mem_cons, List.not_mem_nil, or_false] at listed
    rcases listed with rfl | rfl | rfl | rfl
    · cases step
    · cases step
      exact missing es finds
    · cases step
    · cases step
  have idle' : ∀ m ∈ since', ∀ es, ¬ m.Loads es := by
    rintro m listed es ⟨source, path, step, finds⟩
    simp only [since', List.mem_cons, List.not_mem_nil, or_false] at listed
    rcases listed with rfl | rfl | rfl <;> cases step
  have last : LastLoad moves [kept, tested] since := .load loads idle
  have last' : LastLoad (earlier ++ load :: since') [kept, tested] since' := .load loads idle'
  obtain ⟨-, narrowed, -, failing, -⟩ := afterAll_eq_last_load_narrowed moves
  obtain ⟨recipes, counted, reordered⟩ := narrowed [kept, tested] since last
  refine ⟨last, ?_, counted, reordered _ since' last' ?_, failed, failing disk .file _ _ failed⟩
  · rw [recipes]
    rfl
  · intro t
    simp [tests, since, since', Step.test?, or_comm]

end CompileDb.Database
