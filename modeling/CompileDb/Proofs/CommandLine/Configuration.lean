import CompileDb.Proofs.CommandLine.Endings
import CompileDb.Proofs.Settings.Merging
import CompileDb.Proofs.Survey.Agreement

/-!
# The settings file and the command line

A survey is told which kinds to ignore and which directories to search in two places, the settings file and the
command line. Once the settings are known, a survey is one by a plan that has both (`surveyInput_of_states`). The
kinds are a set there: surveys of the same sources by the same set are the same (`surveyInput_congr`). The
directories are a list, and every call of the index has it behind the arguments of its recipe
(`calls_surveyInput`).
-/

namespace CompileDb

/-- A load looks at its path and, for a directory, at the database inside, at nothing else of the disk. -/
theorem Database.load_congr {disk other : Disk} {path : Path} (same : other.look path = disk.look path)
    (inside : other.look (fileIn path) = disk.look (fileIn path)) : load other path = load disk path := by
  unfold load loadFile
  rw [same, inside]

namespace CommandLine

open Settings (Reads States documentOrEmpty ofDocument setting?)

/-- Two worlds that are alike to a survey of an input, their settings files apart: the same database is loaded, and
of its sources the same are there. -/
structure World.Alike (world other : World) (input : Path) : Prop where
  index : other.index = world.index
  library : other.library = world.library
  namedLibrary : other.namedLibrary = world.namedLibrary
  database : Database.load other.disk input = Database.load world.disk input
  sources : ∀ d, (Database.load world.disk input).result = .ok d → ∀ r ∈ d.recipes,
    (other.disk.look r.anchoredSource).withoutBytes = (world.disk.look r.anchoredSource).withoutBytes

/-- Worlds whose disks differ in nothing but the settings file are alike to a survey, unless that file is the
database or one of its sources. -/
theorem World.alike_of_elsewhere (world : World) (disk : Disk) {input : Path}
    (elsewhere : ∀ path, path ≠ world.settingsFile → disk.look path = world.disk.look path)
    (input_ne : input ≠ world.settingsFile) (inside_ne : Database.fileIn input ≠ world.settingsFile)
    (sources_ne : ∀ d, (Database.load world.disk input).result = .ok d → ∀ r ∈ d.recipes,
      r.anchoredSource ≠ world.settingsFile) : world.Alike { world with disk } input where
  index := rfl
  library := rfl
  namedLibrary := rfl
  database := Database.load_congr (elsewhere input input_ne) (elsewhere _ inside_ne)
  sources := fun d loaded r listed => by rw [elsewhere _ (sources_ne d loaded r listed)]

/-- Two documents that set the same, the kinds to ignore and the directories to search apart. -/
structure SameBesides (document other : Value.Fields) : Prop where
  library : setting? "clang" "library_file" other = setting? "clang" "library_file" document
  tests : setting? "process" "exclude_tests" other = setting? "process" "exclude_tests" document

section Alike

variable {world other : World} {document document' : Value.Fields} {input : Path} {keepTests : Bool}

theorem loadInput_congr (alike : world.Alike other input) (same : SameBesides document document') :
    loadInput other.disk input keepTests (ofDocument document') =
      loadInput world.disk input keepTests (ofDocument document) := by
  unfold loadInput
  rw [alike.database, Settings.excludesTests_congr same.tests]

/-- The settings that say which library to load are read alike from either document. -/
theorem startIndex_congr (alike : world.Alike other input) (same : SameBesides document document') :
    startIndex other (ofDocument document') = startIndex world (ofDocument document) := by
  unfold startIndex
  rw [alike.library, alike.namedLibrary, Settings.chosenLibrary_congr same.library]

/-- Plans that agree on the recipes survey them alike. -/
theorem survey_congr (alike : world.Alike other input) (same : SameBesides document document')
    {plan plan' : Survey.Plan}
    {d : Database} (agrees : plan.Agrees plan' d.recipes) :
    survey other (ofDocument document') plan' d = survey world (ofDocument document) plan d := by
  unfold survey
  rw [startIndex_congr alike same, Survey.run_congr agrees]

/-- What is left of a database was loaded. -/
theorem subset_of_loadInput {settings : Settings} {left : Database}
    (result : (loadInput world.disk input keepTests settings).result = .ok left) :
    ∃ d, (Database.load world.disk input).result = .ok d ∧ left.recipes ⊆ d.recipes := by
  rw [loadInput_eq] at result
  cases loaded : (Database.load world.disk input).result with
  | error failure =>
    rw [Outcome.bind_error loaded] at result
    cases result
  | ok d =>
    rw [Outcome.bind_ok loaded] at result
    obtain rfl := Except.ok.inj result
    refine ⟨d, rfl, ?_⟩
    unfold remaining
    split
    · exact List.filter_subset_self _
    · exact List.Subset.refl _

end Alike

section Configured

variable {world other : World} {document document' : Value.Fields} {mode : Text}
  {kinds kinds' dirs configuredKinds configuredKinds' configuredDirs : List Text}

/-- The plan of a survey with kinds and directories from the settings file and from the command line. -/
def planOf (world : World) (visitor : Ast.Visitor) (kinds dirs : List Text) : Survey.Plan :=
  { disk := world.disk, index := world.index, visitor, includeDirs := some dirs, ignored := givenKinds kinds }

/-- No kinds are ignored when none are given, whether a list of none is given or not. -/
theorem ignores_givenKinds (kinds : List Text) (kind : Text) :
    Ast.Node.ignores (givenKinds kinds) kind = Ast.Node.ignores (some kinds) kind := by
  cases kinds <;> rfl

/-- A survey whose settings are known: the kinds of the command line stand behind those of the settings file, and
so do the directories. -/
theorem surveyInput_of_states (reads : Reads world.reader world.disk world.settingsFile document)
    (states : States document configuredKinds configuredDirs) (input : Path) (keepTests showOptions : Bool) :
    surveyInput world input mode kinds dirs keepTests showOptions = visitorOf mode >>= fun visitor =>
      loadInput world.disk input keepTests (ofDocument document) >>= fun database =>
      announce showOptions database >>= fun _ =>
      survey world (ofDocument document) (planOf world visitor (configuredKinds ++ kinds) (configuredDirs ++ dirs))
        database := by
  rw [surveyInput_eq]
  apply Outcome.bind_congr
  intro visitor _
  rw [reads.load, Outcome.pure_bind, states.ignoredKinds, states.includeDirs]
  rfl

/-- Surveys of the same sources are the same when the same kinds are ignored, wherever these are given. -/
theorem surveyInput_congr {input : Path} (reads : Reads world.reader world.disk world.settingsFile document)
    (states : States document configuredKinds configuredDirs)
    (reads' : Reads other.reader other.disk other.settingsFile document')
    (states' : States document' configuredKinds' configuredDirs) (alike : world.Alike other input)
    (same : SameBesides document document')
    (members : ∀ kind, kind ∈ configuredKinds' ++ kinds' ↔ kind ∈ configuredKinds ++ kinds)
    (keepTests showOptions : Bool) :
    surveyInput other input mode kinds' dirs keepTests showOptions =
      surveyInput world input mode kinds dirs keepTests showOptions := by
  rw [surveyInput_of_states reads states, surveyInput_of_states reads' states', loadInput_congr alike same]
  apply Outcome.bind_congr
  intro visitor _
  apply Outcome.bind_congr
  intro left result
  obtain ⟨d, loaded, subset⟩ := subset_of_loadInput result
  have agrees : (planOf world visitor (configuredKinds ++ kinds) (configuredDirs ++ dirs)).Agrees
      (planOf other visitor (configuredKinds' ++ kinds') (configuredDirs ++ dirs)) left.recipes :=
    { index := alike.index
      visitor := rfl
      includeDirs := rfl
      ignores := fun kind => by
        rw [planOf, planOf, ignores_givenKinds, ignores_givenKinds, Ast.Node.ignores_congr members]
      sources := fun r listed => alike.sources d loaded r (subset listed) }
  rw [survey_congr alike same agrees]

/-- The calls for the sources of recipes that are there. -/
def callsFor (world : World) (dirs : List Text) (recipes : List Recipe) : List Call :=
  (recipes.filter fun r => (world.disk.look r.anchoredSource).isFile).map (Survey.callFor dirs)

/-- A survey calls the index for the sources that are there, one by one, and for all of them when it is done. -/
theorem calls_survey (world : World) (settings : Settings) (visitor : Ast.Visitor) (kinds dirs : List Text)
    (d : Database) :
    (survey world settings (planOf world visitor kinds dirs) d).trace.calls <+: callsFor world dirs d.recipes ∧
      ((survey world settings (planOf world visitor kinds dirs) d).result = .ok () →
        (survey world settings (planOf world visitor kinds dirs) d).trace.calls = callsFor world dirs d.recipes) := by
  have texts : (planOf world visitor kinds dirs).includeDirs = some dirs := rfl
  have calls : callsFor world dirs d.recipes =
      d.recipes.flatMap fun r => ((planOf world visitor kinds dirs).parse r).trace.calls :=
    (Survey.flatMap_calls_parse texts d.recipes).symm
  by_cases nothing : d.recipes = []
  · rw [survey_of_empty _ nothing, nothing]
    exact ⟨List.nil_prefix, fun _ => rfl⟩
  · rw [survey_of_ne_nil _ nothing, calls]
    have starts := starts_startIndex world settings
    cases started : (startIndex world settings).result with
    | error failure =>
      rw [Outcome.bind_error started, starts.calls]
      exact ⟨List.nil_prefix, nofun⟩
    | ok _ =>
      rw [Outcome.bind_ok started, Trace.calls_append, starts.calls, List.nil_append]
      cases surveyed : ((planOf world visitor kinds dirs).run d.recipes).result with
      | error failure =>
        rw [Outcome.bind_error surveyed]
        exact ⟨Survey.calls_run_prefix d.recipes, nofun⟩
      | ok report =>
        rw [Outcome.bind_ok surveyed]
        have every := (List.append_nil _).trans (Survey.calls_run_of_ok surveyed)
        exact ⟨every ▸ List.prefix_refl _, fun _ => every⟩

/-- A mode names a visitor or is a mistake on the command line. -/
theorem visitorOf_cases (mode : Text) :
    (∃ visitor, visitorOf mode = pure visitor) ∨ ∃ misuse, visitorOf mode = Outcome.fail (.misuse misuse) := by
  unfold visitorOf
  split
  · exact .inl ⟨_, rfl⟩
  · exact .inr ⟨_, rfl⟩

/-- A survey whose settings are known calls the index for what is left of its database. -/
theorem calls_surveyInput (reads : Reads world.reader world.disk world.settingsFile document)
    (states : States document configuredKinds configuredDirs) (input : Path) (mode : Text) (kinds dirs : List Text)
    (keepTests showOptions : Bool) :
    let o := surveyInput world input mode kinds dirs keepTests showOptions
    let calls := fun d => callsFor world (configuredDirs ++ dirs) (remaining (ofDocument document) keepTests d).recipes
    (o.trace.calls = [] ∨ ∃ d, (Database.load world.disk input).result = .ok d ∧ o.trace.calls <+: calls d) ∧
      (o.result = .ok () → ∃ d, (Database.load world.disk input).result = .ok d ∧ o.trace.calls = calls d) := by
  intro o calls
  have whole : o = visitorOf mode >>= fun visitor => _ := surveyInput_of_states reads states input keepTests showOptions
  rcases visitorOf_cases mode with ⟨visitor, found⟩ | ⟨misuse, unknown⟩
  · rw [found, Outcome.pure_bind] at whole
    cases loaded : (Database.load world.disk input).result with
    | error failure =>
      rw [loadInput_eq, Outcome.bind_error loaded, Outcome.bind_error rfl] at whole
      rw [whole]
      exact ⟨.inl (Database.isQuiet_load world.disk input).calls, nofun⟩
    | ok d =>
      obtain ⟨before, idle, -, outcome⟩ := exists_before loaded (ofDocument document) keepTests showOptions
        (planOf world visitor (configuredKinds ++ kinds) (configuredDirs ++ dirs))
      obtain ⟨front, complete⟩ := calls_survey world (ofDocument document) visitor (configuredKinds ++ kinds)
        (configuredDirs ++ dirs) (remaining (ofDocument document) keepTests d)
      rw [whole, outcome, Trace.calls_append, idle.calls, List.nil_append]
      exact ⟨.inr ⟨d, rfl, front⟩, fun done => ⟨d, rfl, complete done⟩⟩
  · rw [unknown, Outcome.bind_error rfl] at whole
    rw [whole]
    exact ⟨.inl rfl, nofun⟩

theorem Ending.ofResult_eq_done_iff {result : Except Failure Unit} : ofResult result = done ↔ result = .ok () := by
  cases result with
  | ok _ => exact iff_of_true rfl rfl
  | error failure => cases failure <;> exact iff_of_false nofun nofun

/-- **Settings are merged wherever they are given.** What a session with a survey does depends on the kinds to ignore
through the set of those in the settings file and on the command line: kinds that are given in another order, more
than once or in the other place make no difference to it, as long as nothing else is asked for and there is nothing
else to be found. Whatever is handed to the index goes with the arguments for indexing, then the directories of the
settings file and then those of the command line, each behind its switch. When all is done, every source that is
there has been handed over. -/
theorem session_merges_settings {arguments : List Text} {input : Text} {keepTests showOptions verbose : Bool}
    (parsed : Request.parse arguments = .ok ⟨.process input mode kinds dirs keepTests showOptions, verbose⟩)
    (reads : Reads world.reader world.disk world.settingsFile document)
    (states : States document configuredKinds configuredDirs) :
    (∀ other arguments' kinds' document' configuredKinds',
      Request.parse arguments' = .ok ⟨.process input mode kinds' dirs keepTests showOptions, verbose⟩ →
      Reads other.reader other.disk other.settingsFile document' → States document' configuredKinds' configuredDirs →
      world.Alike other (.ofText input) → SameBesides document document' →
      (∀ kind, kind ∈ configuredKinds' ++ kinds' ↔ kind ∈ configuredKinds ++ kinds) →
      session other arguments' = session world arguments) ∧
    (∀ call ∈ (session world arguments).trace.calls,
      ∃ d, (Database.load world.disk (.ofText input)).result = .ok d ∧
      ∃ r ∈ (remaining (ofDocument document) keepTests d).recipes, call.source = r.anchoredSource.text ∧
        call.arguments = r.arguments .forIndexing ++
          (configuredDirs.flatMap fun dir => [Text.ofString "-isystem", dir]) ++
          dirs.flatMap fun dir => [Text.ofString "-isystem", dir]) ∧
    ((session world arguments).ending = .done → ∃ d, (Database.load world.disk (.ofText input)).result = .ok d ∧
      (session world arguments).trace.calls =
        callsFor world (configuredDirs ++ dirs) (remaining (ofDocument document) keepTests d).recipes) := by
  obtain ⟨made, complete⟩ :=
    calls_surveyInput reads states (.ofText input) mode kinds dirs keepTests showOptions
  refine ⟨?_, ?_, ?_⟩
  · intro other arguments' kinds' document' configuredKinds' parsed' reads' states' alike same members
    rw [session_eq parsed, session_eq parsed', surveyInput_congr reads states reads' states' alike same members]
  · intro call listed
    rw [trace_session parsed] at listed
    rcases made with idle | ⟨d, loaded, front⟩
    · rw [idle] at listed
      cases listed
    · obtain ⟨r, there, rfl⟩ := List.mem_map.1 (front.subset listed)
      refine ⟨d, loaded, r, List.mem_of_mem_filter there, rfl, ?_⟩
      rw [Survey.callFor, List.flatMap_append, List.append_assoc]
  · intro done
    rw [ending_session parsed, Ending.ofResult_eq_done_iff] at done
    rw [trace_session parsed]
    exact complete done

end Configured

/-- The sample world with a settings file, and with one of its sources. -/
def configuredWorld (settings : List Char) : World :=
  { sampleWorld with
    disk := ⟨fun path =>
      if path = sampleWorld.settingsFile then .file (.bytes (Text.Utf8.encode settings))
      else if path = .ofText "/a/x.c" then .file (.bytes [])
      else sampleWorld.disk.look path⟩
    index := ⟨fun source _ => .parsed (.mk (some (Text.ofString "A")) source none 0 0 false [.blankUnit source]) []⟩ }

section Sample

variable (settings other : List Char)

theorem load_configuredWorld :
    (Database.load (configuredWorld settings).disk (.ofText "db")).result = .ok ⟨sampleRecipes⟩ := by
  have same : ∀ path, path ≠ sampleWorld.settingsFile → path ≠ .ofText "/a/x.c" →
      (configuredWorld settings).disk.look path = sampleWorld.disk.look path := by
    intro path noSettings noSource
    exact (if_neg noSettings).trans (if_neg noSource)
  have database := same (.ofText "db") (by decide +kernel) (by decide +kernel)
  have inside := same (Database.fileIn (.ofText "db")) (by decide +kernel) (by decide +kernel)
  rw [Database.load_congr database inside]
  exact load_sampleWorld

theorem alike_configuredWorld : (configuredWorld settings).Alike (configuredWorld other) (.ofText "db") := by
  have place : (configuredWorld settings).settingsFile = sampleWorld.settingsFile := rfl
  apply World.alike_of_elsewhere (configuredWorld settings) (configuredWorld other).disk
  · intro path noSettings
    exact (if_neg noSettings).trans (if_neg noSettings).symm
  · rw [place]
    decide +kernel
  · rw [place]
    decide +kernel
  · intro d loaded
    obtain rfl := Except.ok.inj (loaded.symm.trans (load_configuredWorld settings))
    rw [place]
    decide +kernel

end Sample

/-- Kinds that are given in the settings file alone, and kinds that are given in both places. -/
theorem session_merges_settings_moved :
    let inFile := "[process]\nignore_kinds=[\"A\",\"B\"]\ninclude_flags=[\"/s\"]".toList
    let inBoth := "process=\x7bignore_kinds=[\"B\"],include_flags=[\"/s\"]\x7d".toList
    let short := session (configuredWorld inFile) ["process", "db", "-I/t"]
    session (configuredWorld inBoth) ["process", "-kA", "db", "-k", "B", "-I", "/t", "-kA"] = short ∧
    session (configuredWorld inBoth) ["process", "db", "-I/t"] ≠ short ∧ short.ending = .done ∧
    short.trace.calls =
      [⟨"/a/x.c", ["-x", "c++", "-g", "-std=c++20", "-D", "A=x y", "-isystem", "/s", "-isystem", "/t"]⟩] := by
  intro inFile inBoth short
  have members : ∀ kind, kind ∈ (["B", "A", "B", "A"] : List Text) ↔ kind ∈ (["A", "B"] : List Text) := by
    intro kind
    simp only [List.mem_cons, List.not_mem_nil, or_false]
    tauto
  have stated : (Settings.documentOf .toml inFile).isOk = true ∧
      States (documentOrEmpty .toml inFile) ["A", "B"] ["/s"] ∧
      (setting? "clang" "library_file" (documentOrEmpty .toml inFile)).isNone = true ∧
      (setting? "process" "exclude_tests" (documentOrEmpty .toml inFile)).isNone = true := by decide +kernel
  have stated' : (Settings.documentOf .toml inBoth).isOk = true ∧
      States (documentOrEmpty .toml inBoth) ["B"] ["/s"] ∧
      (setting? "clang" "library_file" (documentOrEmpty .toml inBoth)).isNone = true ∧
      (setting? "process" "exclude_tests" (documentOrEmpty .toml inBoth)).isNone = true := by decide +kernel
  simp only [Option.isNone_iff_eq_none] at stated stated'
  obtain ⟨accepted, states, library, tests⟩ := stated
  obtain ⟨accepted', states', library', tests'⟩ := stated'
  have reads : Reads (configuredWorld inFile).reader (configuredWorld inFile).disk
      (configuredWorld inFile).settingsFile (documentOrEmpty .toml inFile) :=
    Settings.reads_of_isOk rfl accepted
  have reads' : Reads (configuredWorld inBoth).reader (configuredWorld inBoth).disk
      (configuredWorld inBoth).settingsFile (documentOrEmpty .toml inBoth) :=
    Settings.reads_of_isOk rfl accepted'
  have same : SameBesides (documentOrEmpty .toml inFile) (documentOrEmpty .toml inBoth) :=
    ⟨library'.trans library.symm, tests'.trans tests.symm⟩
  have parsed : Request.parse ["process", "db", "-I/t"] =
      .ok ⟨.process "db" "functions" [] ["/t"] false false, false⟩ := by decide +kernel
  have parsed' : Request.parse ["process", "-kA", "db", "-k", "B", "-I", "/t", "-kA"] =
      .ok ⟨.process "db" "functions" ["A", "B", "A"] ["/t"] false false, false⟩ := by decide +kernel
  obtain ⟨congr, -, complete⟩ := session_merges_settings parsed reads states
  obtain ⟨done, differs⟩ : short.ending = .done ∧
      session (configuredWorld inBoth) ["process", "db", "-I/t"] ≠ short := by decide +kernel
  obtain ⟨d, loaded, calls⟩ := complete done
  obtain rfl := Except.ok.inj (loaded.symm.trans (load_configuredWorld inFile))
  have moved := congr _ _ _ _ _ parsed' reads' states' (alike_configuredWorld inFile inBoth) same members
  exact ⟨moved, differs, done, calls.trans (by decide +kernel)⟩

end CommandLine

end CompileDb
