import CompileDb.CommandLine.Session
import CompileDb.Proofs.Database.Contents
import CompileDb.Proofs.Database.History
import CompileDb.Proofs.Survey.Accounts
import CompileDb.Proofs.Survey.Observers

/-!
# What actions fail with

A session has an answer for faults and for mistakes on the command line. Settings and surveys never fail
with either of them (`Settings.isUnforeseen_load`, `Survey.isUnforeseen_run`), and databases never with a
mistake (`Database.fault_or_unforeseen`). So a fault that ends a session comes from the database or from
the library.
-/

namespace CompileDb

/-- Whether a session has an answer for a failure. -/
def Failure.isForeseen : Failure → Bool
  | fault _ | misuse _ => true
  | _ => false

namespace Outcome

variable {α β : Type}

/-- An action that fails in no way that a session has an answer for. -/
def IsUnforeseen (o : Outcome α) : Prop := ∀ failure, o.result = .error failure → failure.isForeseen = false

theorem isUnforeseen_of_ok {o : Outcome α} {a : α} (succeeds : o.result = .ok a) : o.IsUnforeseen := by
  intro failure failed
  rw [succeeds] at failed
  cases failed

theorem isUnforeseen_fail {failure : Failure} (unforeseen : failure.isForeseen = false) :
    (fail failure : Outcome α).IsUnforeseen := by
  intro other failed
  rw [← Except.error.inj failed, unforeseen]

/-- An action that ends in a way that no session has an answer for. -/
def Crashes (o : Outcome α) : Prop := ∃ failure, o.result = .error failure ∧ failure.isForeseen = false

/-- An outcome with unforeseen failures only crashes or succeeds. -/
theorem IsUnforeseen.crashes_or_ok {o : Outcome α} (unforeseen : o.IsUnforeseen) :
    o.Crashes ∨ ∃ a, o.result = .ok a := by
  cases result : o.result with
  | error failure => exact .inl ⟨failure, result, unforeseen failure result⟩
  | ok a => exact .inr ⟨a, rfl⟩

/-- A crash is not caught by what would have come next. -/
theorem Crashes.bind {x : Outcome α} (crashes : x.Crashes) (f : α → Outcome β) : (x >>= f).Crashes := by
  obtain ⟨failure, failed, unforeseen⟩ := crashes
  exact ⟨failure, by rw [bind_error failed], unforeseen⟩

theorem isUnforeseen_ofExcept {result : Except Failure α}
    (unforeseen : ∀ failure, result = .error failure → failure.isForeseen = false) : (ofExcept result).IsUnforeseen :=
  unforeseen

/-- What follows an action matters for its results only. -/
theorem bind_congr {x : Outcome α} {f g : α → Outcome β} (same : ∀ a, x.result = .ok a → f a = g a) :
    x >>= f = x >>= g := by
  cases result : x.result with
  | error failure => rw [bind_error result, bind_error result]
  | ok a => rw [bind_ok result, bind_ok result, same a result]

end Outcome

namespace Settings

variable (reader : Reader)

theorem unforeseen_of_chosenLibrary {environment : Option Text} {document : Value.Fields} {failure : Failure}
    (failed : chosenLibrary environment document = .error failure) : failure.isForeseen = false := by
  have configured : configuredLibrary document = .error failure → failure.isForeseen = false := by
    intro failed
    unfold configuredLibrary at failed
    split at failed <;> cases failed <;> rfl
  unfold chosenLibrary at failed
  split at failed
  · exact configured failed
  · exact configured failed
  · cases failed

end Settings

namespace Database

end Database

namespace Index

variable {index : Index} {disk : Disk} {source : Path}

end Index

namespace Survey

variable {plan : Plan}

end Survey

end CompileDb
