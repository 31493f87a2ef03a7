import CompileDb.Failure
import CompileDb.Notice
import CompileDb.Table

/-!
# Traces and outcomes

Everything an action does to the world is data: a `Trace` lists the notices, what was shown, the
calls of the index and the libraries chosen, each in order. Traces are appended, and appending is
associative with the empty trace as its unit.

An `Outcome` is a trace together with a result or a failure. Outcomes are chained as usual; what
was done before a failure stays done (`bind_ok`, `bind_error`).
-/

namespace CompileDb

/-- Something shown to the user. -/
inductive Event where
  /-- A line of markup. -/
  | printed (markup : Text)
  /-- A table. -/
  | tabulated (table : Table)
  /-- Plain text, its line end included. -/
  | echoed (text : Text)
  /-- The name of a node that was looked at. -/
  | seen (name : Option Text)
  deriving DecidableEq

/-- A call of the index. -/
structure Call where
  /-- The text of the path to parse. -/
  source : Text
  /-- The arguments to parse it with. -/
  arguments : List Text
  deriving DecidableEq

/-- What an action did. -/
@[ext] structure Trace where
  notices : List Notice := []
  events : List Event := []
  calls : List Call := []
  /-- The libraries that the index was told to use. -/
  libraries : List Text := []
  deriving DecidableEq

namespace Trace

instance : Append Trace where
  append s t :=
    ⟨s.notices ++ t.notices, s.events ++ t.events, s.calls ++ t.calls, s.libraries ++ t.libraries⟩

instance : EmptyCollection Trace := ⟨{}⟩

@[simp] theorem notices_append (s t : Trace) : (s ++ t).notices = s.notices ++ t.notices := rfl

@[simp] theorem events_append (s t : Trace) : (s ++ t).events = s.events ++ t.events := rfl

@[simp] theorem calls_append (s t : Trace) : (s ++ t).calls = s.calls ++ t.calls := rfl

@[simp] theorem libraries_append (s t : Trace) : (s ++ t).libraries = s.libraries ++ t.libraries :=
  rfl

@[simp] theorem empty_append (t : Trace) : (∅ : Trace) ++ t = t := rfl

@[simp] theorem append_empty (t : Trace) : t ++ (∅ : Trace) = t :=
  Trace.ext (List.append_nil _) (List.append_nil _) (List.append_nil _) (List.append_nil _)

/-- How traces are grouped does not show. -/
theorem append_assoc (s t u : Trace) : s ++ t ++ u = s ++ (t ++ u) :=
  Trace.ext (List.append_assoc ..) (List.append_assoc ..) (List.append_assoc ..)
    (List.append_assoc ..)

end Trace

/-- What an action did, and its result or failure. -/
@[ext] structure Outcome (α : Type) where
  trace : Trace
  result : Except Failure α

namespace Outcome

variable {α β γ : Type}

/-- The outcome of the action that does nothing. -/
protected def pure (a : α) : Outcome α := ⟨∅, .ok a⟩

/-- One action after another. -/
protected def bind (x : Outcome α) (f : α → Outcome β) : Outcome β :=
  match x.result with
  | .ok a => ⟨x.trace ++ (f a).trace, (f a).result⟩
  | .error e => ⟨x.trace, .error e⟩

instance : Monad Outcome where
  pure := Outcome.pure
  bind := Outcome.bind

def fail (failure : Failure) : Outcome α := ⟨∅, .error failure⟩

/-- The action that only leaves a trace. -/
def leave (trace : Trace) : Outcome Unit := ⟨trace, .ok ()⟩

def notify (notices : List Notice) : Outcome Unit := leave { notices := notices }

def display (event : Event) : Outcome Unit := leave { events := [event] }

/-- The action that has a result without doing anything. -/
def ofExcept (result : Except Failure α) : Outcome α := ⟨∅, result⟩

@[simp] theorem trace_pure (a : α) : (pure a : Outcome α).trace = ∅ := rfl

@[simp] theorem result_pure (a : α) : (pure a : Outcome α).result = .ok a := rfl

/-- After a step that gives a result the next one runs, and its trace follows. -/
theorem bind_ok {x : Outcome α} {a : α} (h : x.result = .ok a) (f : α → Outcome β) :
    x >>= f = ⟨x.trace ++ (f a).trace, (f a).result⟩ := by
  show Outcome.bind x f = _
  simp [Outcome.bind, h]

/-- A step that fails is the last one, and its trace is the whole trace. -/
theorem bind_error {x : Outcome α} {e : Failure} (h : x.result = .error e) (f : α → Outcome β) :
    x >>= f = ⟨x.trace, .error e⟩ := by
  show Outcome.bind x f = _
  simp [Outcome.bind, h]

/-- A step that does nothing hands its value on. -/
theorem pure_bind (a : α) (f : α → Outcome β) : (pure a : Outcome α) >>= f = f a :=
  bind_ok rfl f

/-- Handing the result on adds nothing. -/
theorem bind_pure (x : Outcome α) : x >>= pure = x := by
  cases h : x.result with
  | ok a => rw [bind_ok h]; ext1 <;> simp [h]
  | error e => rw [bind_error h]; ext1 <;> simp [h]

/-- How the steps of a run are grouped does not show. -/
theorem bind_assoc (x : Outcome α) (f : α → Outcome β) (g : β → Outcome γ) :
    x >>= f >>= g = x >>= fun a => f a >>= g := by
  cases h : x.result with
  | error e => rw [bind_error h, bind_error h, bind_error rfl]
  | ok a =>
    rw [bind_ok h, bind_ok h]
    cases hf : (f a).result with
    | error e => rw [bind_error rfl, bind_error hf]
    | ok b => rw [bind_ok rfl, bind_ok hf, Trace.append_assoc]

instance : LawfulMonad Outcome := LawfulMonad.mk' Outcome bind_pure pure_bind bind_assoc

end Outcome

end CompileDb
