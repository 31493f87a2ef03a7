import CompileDb.Database
import CompileDb.Settings

/-!
# Actions that show nothing

Reading a database or a settings file leaves notices and nothing else: nothing is shown, no source is
handed to the index and no library is chosen. None of the notices is that the index is ready.
-/

namespace CompileDb

/-- A trace of an action that leaves the index and its library alone. -/
structure Trace.IsIdle (t : Trace) : Prop where
  calls : t.calls = []
  libraries : t.libraries = []
  unready : Notice.indexReady ∉ t.notices

/-- A trace of notices alone. -/
structure Trace.IsQuiet (t : Trace) : Prop extends t.IsIdle where
  events : t.events = []

theorem Trace.isIdle_empty : (∅ : Trace).IsIdle := ⟨rfl, rfl, List.not_mem_nil⟩

theorem Trace.isIdle_ofEvents (events : List Event) : Trace.IsIdle { events := events } :=
  ⟨rfl, rfl, List.not_mem_nil⟩

theorem Trace.IsIdle.append {s t : Trace} (first : s.IsIdle) (second : t.IsIdle) : (s ++ t).IsIdle := by
  constructor
  · rw [Trace.calls_append, first.calls, second.calls, List.append_nil]
  · rw [Trace.libraries_append, first.libraries, second.libraries, List.append_nil]
  · rw [Trace.notices_append, List.mem_append, not_or]
    exact ⟨first.unready, second.unready⟩

theorem Trace.IsQuiet.ofNotices {notices : List Notice} (unready : Notice.indexReady ∉ notices) :
    Trace.IsQuiet { notices := notices } :=
  ⟨⟨rfl, rfl, unready⟩, rfl⟩

theorem Trace.IsQuiet.append {s t : Trace} (first : s.IsQuiet) (second : t.IsQuiet) : (s ++ t).IsQuiet := by
  refine ⟨first.toIsIdle.append second.toIsIdle, ?_⟩
  rw [Trace.events_append, first.events, second.events, List.append_nil]

namespace Outcome

variable {α β : Type}

theorem isQuiet_fail (failure : Failure) : (fail failure : Outcome α).trace.IsQuiet := .ofNotices (by simp)

theorem isQuiet_pure (a : α) : (pure a : Outcome α).trace.IsQuiet := .ofNotices (by simp)

/-- Quiet steps make a quiet run. -/
theorem isQuiet_bind {x : Outcome α} {f : α → Outcome β} (first : x.trace.IsQuiet) (next : ∀ a, (f a).trace.IsQuiet) :
    (x >>= f).trace.IsQuiet := by
  cases result : x.result with
  | ok a =>
    rw [bind_ok result]
    exact first.append (next a)
  | error failure =>
    rw [bind_error result]
    exact first

end Outcome

/-- Reading a command reports on words, never on the library. -/
theorem Switch.indexReady_notMem_notices (command : Text) : Notice.indexReady ∉ notices command := by
  rw [notices, List.mem_append, not_or]
  constructor
  · unfold Words.notices
    split <;> simp
  · rw [List.mem_filterMap]
    rintro ⟨switch, -, told⟩
    cases switch <;> simp [notice?] at told

namespace Database

theorem isQuiet_ofEntries (entries : List Entry) : (ofEntries entries).trace.IsQuiet := by
  apply Trace.IsQuiet.ofNotices
  rw [List.mem_flatMap]
  rintro ⟨entry, -, told⟩
  exact Switch.indexReady_notMem_notices entry.command told

theorem isQuiet_ofContents (path : Path) (contents : Contents) : (ofContents path contents).trace.IsQuiet := by
  apply Outcome.isQuiet_bind (.ofNotices (by simp))
  intro _
  apply Outcome.isQuiet_bind (.ofNotices (by simp))
  intro entries
  apply Outcome.isQuiet_bind (isQuiet_ofEntries entries)
  intro database
  exact Outcome.isQuiet_bind (.ofNotices (by simp)) fun _ => Outcome.isQuiet_pure database

/-- No load makes the library ready. -/
theorem isQuiet_loadFile (disk : Disk) (path : Path) : (loadFile disk path).trace.IsQuiet := by
  unfold loadFile
  split
  · exact Outcome.isQuiet_fail _
  · exact Outcome.isQuiet_fail _
  · exact Outcome.isQuiet_fail _
  · exact Outcome.isQuiet_fail _
  · exact isQuiet_ofContents path _

/-- Loading a database shows nothing. -/
theorem isQuiet_load (disk : Disk) (path : Path) : (load disk path).trace.IsQuiet := by
  unfold load
  split
  · exact Outcome.isQuiet_fail _
  · exact isQuiet_loadFile disk (fileIn path)
  · exact isQuiet_loadFile disk path

end Database

namespace Settings

variable (reader : Reader)

theorem isQuiet_ignoring (path : Path) (reason : Text) : (ignoring path reason).trace.IsQuiet := .ofNotices (by simp)

theorem isQuiet_ofText (path : Path) (text : List Char) : (ofText reader path text).trace.IsQuiet := by
  unfold ofText
  split
  · exact Outcome.isQuiet_pure _
  · exact Outcome.isQuiet_fail _
  · exact isQuiet_ignoring path _

theorem isQuiet_ofContents (path : Path) (contents : Contents) : (ofContents reader path contents).trace.IsQuiet := by
  unfold ofContents
  split
  · exact isQuiet_ignoring path _
  · split
    · exact Outcome.isQuiet_fail _
    · exact isQuiet_ofText reader path _

/-- Loading settings shows nothing. -/
theorem isQuiet_load (disk : Disk) (path : Path) : (load reader disk path).trace.IsQuiet := by
  unfold load
  split
  · exact Outcome.isQuiet_fail _
  · exact Outcome.isQuiet_pure _
  · exact isQuiet_ignoring path _
  · exact isQuiet_ofContents reader path _
  · exact isQuiet_ofContents reader path _

end Settings

end CompileDb
