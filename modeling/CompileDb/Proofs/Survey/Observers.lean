import CompileDb.Survey
import Mathlib.Algebra.BigOperators.Group.List.Basic

/-!
# Who looks at a survey

What a survey does is settled by its recipes alone. `Describes` says so without a word about the observer:
which sources are parsed or skipped, which nodes are shown, which calls and notices are left behind. It holds
of every survey that comes to an end (`describes_runFor`), and whether one does is no business of the observer
either (`exists_runFor_eq_ok_iff`). So two observers of the same recipes see the same survey, and a visitor,
which is an observer without memory, sees it too.
-/

namespace CompileDb

namespace Survey

open Ast (Node Observer Visitor)

namespace Plan

variable (plan : Plan)

/-- A survey for an observer has no use for a visitor. -/
theorem runFor_withVisitor (visitor : Visitor) {σ : Type} (look : Observer σ) (memory : σ) (recipes : List Recipe) :
    { plan with visitor }.runFor look memory recipes = plan.runFor look memory recipes := by
  induction recipes generalizing memory with
  | nil => rfl
  | cons r rest ih =>
    have first : { plan with visitor }.examineFor look memory r = plan.examineFor look memory r := rfl
    rw [runFor_cons, runFor_cons, first, ih]

/-- The root of the syntax tree of a recipe, when its source can be parsed. -/
def root? (r : Recipe) : Option Node :=
  match (plan.parse r).result with
  | .ok root => some root
  | .error _ => none

/-- The source of a recipe and why it is skipped, when it cannot be parsed. -/
def skip? (r : Recipe) : Option (Path × Text) :=
  match (plan.parse r).result with
  | .error (.fault (.unparsed source reason)) => some (source, reason)
  | _ => none

/-- The nodes that are shown in a survey. -/
def nodes (recipes : List Recipe) : List Node :=
  (recipes.filterMap plan.root?).flatMap fun root => root.walk plan.ignored

/-- A survey goes on behind a recipe: its source is parsed, or it is skipped. -/
def GoesOn (r : Recipe) : Prop := (plan.root? r).isSome = true ∨ (plan.skip? r).isSome = true

end Plan

/-- Whether a notice tells that a syntax tree has been walked through. -/
def isWalk : Notice → Bool
  | .walked _ _ => true
  | _ => false

/-- The notices of a trace without those that count the nodes of a walk and the hits among them. -/
def plainNotices (trace : Trace) : List Notice := trace.notices.filter fun notice => !isWalk notice

/-- What a survey of recipes comes to and leaves behind, whoever looks at the nodes. -/
structure Describes (plan : Plan) (recipes : List Recipe) (report : Report) (trace : Trace) : Prop where
  processed : report.processed = (recipes.filterMap plan.root?).length
  nodes : report.nodes = (plan.nodes recipes).length
  failed : report.failed = (recipes.filterMap plan.skip?).map Prod.fst
  calls : trace.calls = recipes.flatMap fun r => (plan.parse r).trace.calls
  notices : plainNotices trace = recipes.flatMap fun r =>
    plainNotices (plan.parse r).trace ++ ((plan.skip? r).map fun s => Notice.skipping s.1 s.2).toList

theorem Describes.nil (plan : Plan) : Describes plan [] 0 ∅ := ⟨rfl, rfl, rfl, rfl, rfl⟩

/-- What describes two runs describes them in a row. -/
theorem Describes.append {plan : Plan} {xs ys : List Recipe} {first second : Report} {trace later : Trace}
    (front : Describes plan xs first trace) (back : Describes plan ys second later) :
    Describes plan (xs ++ ys) (first + second) (trace ++ later) where
  processed := by rw [Report.add_def, List.filterMap_append, List.length_append, front.processed, back.processed]
  nodes := by
    rw [Report.add_def, Plan.nodes, List.filterMap_append, List.flatMap_append, List.length_append, front.nodes,
      back.nodes, Plan.nodes, Plan.nodes]
  failed := by rw [Report.add_def, List.filterMap_append, List.map_append, front.failed, back.failed]
  calls := by rw [Trace.calls_append, List.flatMap_append, front.calls, back.calls]
  notices := by
    rw [plainNotices, Trace.notices_append, List.filter_append, List.flatMap_append, ← front.notices, ← back.notices]
    rfl

/-- How the survey of one recipe ends for a visitor. -/
inductive ExamineEnds (plan : Plan) (r : Recipe) : Outcome Report → Prop
  /-- Its source is parsed, and the nodes are shown. -/
  | shown {root : Node} (parsed : (plan.parse r).result = .ok root) :
    ExamineEnds plan r ⟨(plan.parse r).trace ++ (root.tour plan.visitor plan.ignored).trace,
      .ok ⟨1, (root.walk plan.ignored).length, (root.walk plan.ignored).countP fun node => (plan.visitor node).hit, []⟩⟩
  /-- Its source cannot be parsed, and is listed. -/
  | skipped {source : Path} {reason : Text}
    (unparsed : (plan.parse r).result = .error (.fault (.unparsed source reason))) :
    ExamineEnds plan r ⟨(plan.parse r).trace ++ skipTrace source reason, .ok ⟨0, 0, 0, [source]⟩⟩
  /-- Anything else goes wrong. -/
  | stopped {failure : Failure} (failed : (plan.parse r).result = .error failure)
    (other : ∀ source reason, failure ≠ .fault (.unparsed source reason)) :
    ExamineEnds plan r ⟨(plan.parse r).trace, .error failure⟩

theorem examineEnds (plan : Plan) (r : Recipe) : ExamineEnds plan r (plan.examine r) := by
  cases parsed : (plan.parse r).result with
  | ok root =>
    rw [Plan.examine_of_ok parsed]
    exact .shown parsed
  | error failure =>
    by_cases skipped : ∃ source reason, failure = .fault (.unparsed source reason)
    · obtain ⟨source, reason, rfl⟩ := skipped
      rw [Plan.examine, Plan.examineFor_of_unparsed parsed]
      exact .skipped parsed
    · have other : ∀ source reason, failure ≠ .fault (.unparsed source reason) :=
        fun source reason same => skipped ⟨source, reason, same⟩
      rw [Plan.examine, Plan.examineFor_of_error parsed other]
      exact .stopped parsed other

section Run

variable {plan : Plan} {σ : Type} (look : Observer σ) (memory : σ)

/-- A recipe whose source is parsed. -/
theorem describes_of_ok {r : Recipe} {root : Node} (parsed : (plan.parse r).result = .ok root) :
    ∃ report, (plan.examineFor look memory r).1.result = .ok report ∧
      Describes plan [r] report (plan.examineFor look memory r).1.trace := by
  have root? : plan.root? r = some root := by rw [Plan.root?, parsed]
  have skip? : plan.skip? r = none := by rw [Plan.skip?, parsed]
  rw [Plan.examineFor_of_ok parsed]
  refine ⟨_, rfl, ?_, ?_, ?_, ?_, ?_⟩
  · simp [root?]
  · simp [Plan.nodes, root?, Observer.length_sightings]
  · simp [skip?]
  · simp [Observer.tour]
  · simp [plainNotices, skip?, Observer.tour, isWalk]

/-- A recipe whose source is skipped. -/
theorem describes_of_unparsed {r : Recipe} {source : Path} {reason : Text}
    (unparsed : (plan.parse r).result = .error (.fault (.unparsed source reason))) :
    ∃ report, (plan.examineFor look memory r).1.result = .ok report ∧
      Describes plan [r] report (plan.examineFor look memory r).1.trace := by
  have root? : plan.root? r = none := by rw [Plan.root?, unparsed]
  have skip? : plan.skip? r = some (source, reason) := by rw [Plan.skip?, unparsed]
  rw [Plan.examineFor_of_unparsed unparsed]
  refine ⟨_, rfl, ?_, ?_, ?_, ?_, ?_⟩
  · simp [root?]
  · simp [Plan.nodes, root?]
  · simp [skip?]
  · simp [skipTrace]
  · simp [plainNotices, skip?, skipTrace, isWalk]

/-- Anything else that goes wrong ends the survey. -/
theorem examineFor_of_not_goesOn {r : Recipe} (stops : ¬ plan.GoesOn r) :
    ∃ failure, (plan.examineFor look memory r).1.result = .error failure ∧
      (plan.parse r).result = .error failure ∧ ∀ source reason, failure ≠ .fault (.unparsed source reason) := by
  cases parsed : (plan.parse r).result with
  | ok root => exact absurd (Or.inl (by rw [Plan.root?, parsed]; rfl)) stops
  | error failure =>
    have other : ∀ source reason, failure ≠ .fault (.unparsed source reason) := by
      rintro source reason rfl
      exact stops (Or.inr (by rw [Plan.skip?, parsed]; rfl))
    exact ⟨failure, by rw [Plan.examineFor_of_error parsed other], rfl, other⟩

/-- One recipe that goes on is described, whatever the observer. -/
theorem describes_examineFor {r : Recipe} (goesOn : plan.GoesOn r) :
    ∃ report, (plan.examineFor look memory r).1.result = .ok report ∧
      Describes plan [r] report (plan.examineFor look memory r).1.trace := by
  cases parsed : (plan.parse r).result with
  | ok root => exact describes_of_ok look memory parsed
  | error failure =>
    rcases goesOn with there | skipped
    · rw [Plan.root?, parsed] at there
      cases there
    · obtain ⟨⟨source, reason⟩, skip?⟩ := Option.isSome_iff_exists.1 skipped
      unfold Plan.skip? at skip?
      split at skip?
      · next unparsed => exact describes_of_unparsed look memory unparsed
      · cases skip?

/-- A survey that goes on behind every recipe is described by them. -/
theorem describes_runFor {recipes : List Recipe} (goesOn : ∀ r ∈ recipes, plan.GoesOn r) :
    ∃ report, (plan.runFor look memory recipes).1.result = .ok report ∧
      Describes plan recipes report (plan.runFor look memory recipes).1.trace := by
  induction recipes generalizing memory with
  | nil => exact ⟨0, rfl, .nil plan⟩
  | cons r rest ih =>
    obtain ⟨first, examined, front⟩ := describes_examineFor look memory (goesOn r (by simp))
    obtain ⟨others, surveyed, back⟩ :=
      ih (plan.examineFor look memory r).2 fun r' listed => goesOn r' (List.mem_cons_of_mem r listed)
    refine ⟨first + others, ?_, ?_⟩
    · rw [Plan.runFor_cons, Outcome.bind_ok examined, Outcome.bind_ok surveyed]
      rfl
    · rw [Plan.runFor_cons, Outcome.bind_ok examined, Outcome.bind_ok surveyed]
      simpa using front.append back

/-- A survey comes to an end exactly when it goes on behind every recipe. -/
theorem exists_runFor_eq_ok_iff {recipes : List Recipe} :
    (∃ report, (plan.runFor look memory recipes).1.result = .ok report) ↔ ∀ r ∈ recipes, plan.GoesOn r := by
  constructor
  · rintro ⟨report, completes⟩
    induction recipes generalizing memory report with
    | nil => simp
    | cons r rest ih =>
      rw [Plan.runFor_cons] at completes
      by_cases goesOn : plan.GoesOn r
      · obtain ⟨first, examined, -⟩ := describes_examineFor look memory goesOn
        rw [Outcome.bind_ok examined] at completes
        cases others : (plan.runFor look (plan.examineFor look memory r).2 rest).1.result with
        | error failure =>
          rw [Outcome.bind_error others] at completes
          cases completes
        | ok more =>
          intro r' listed
          rcases List.mem_cons.1 listed with rfl | later
          · exact goesOn
          · exact ih _ more others r' later
      · obtain ⟨failure, stopped, -⟩ := examineFor_of_not_goesOn look memory goesOn
        rw [Outcome.bind_error stopped] at completes
        cases completes
  · intro goesOn
    obtain ⟨report, completes, -⟩ := describes_runFor look memory goesOn
    exact ⟨report, completes⟩

end Run

end Survey

end CompileDb
