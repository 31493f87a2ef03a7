import CompileDb.Proofs.Switch.Positions
import CompileDb.Recipe

/-!
# What holds of every recipe

A recipe is sound when its parts could have been written as switches: names without an equals sign,
warnings that are asked for by name and only once, a standard that is not empty. The recipe of an
entry is sound (`isSound_ofEntry`), because each of its parts is read from a word by a rule.
-/

namespace CompileDb

/-- What is kept of a command could have been written with its value attached. -/
theorem Switch.exists_reads_of_mem_ofCommand {command : Text} {switch : Switch}
    (listed : switch ∈ ofCommand command) (kept : isKept switch = true) :
    ∃ (rule : Rule) (token : Text), rule.Reads token switch := by
  obtain ⟨found, finds, scanned⟩ := exists_finds_scan (Words.split command) [] (not_isValue_zero _)
  have among : switch ∈ found.map Prod.snd := by
    rw [← scanned]
    exact List.mem_filter.2 ⟨listed, kept⟩
  obtain ⟨⟨i, switch⟩, place, rfl⟩ := List.mem_map.1 among
  cases ((finds.mem_iff i switch).1 place).2 with
  | value here taken nonempty => exact ⟨_, _, .systemDir nonempty⟩
  | attached here free reads => exact ⟨_, _, reads⟩

namespace Recipe

/-- A warning that is asked for by its name: it is not the one that makes errors of all warnings, and
what begins with `l,`, `a,` or `p,` is none. -/
structure IsWarning (name : Text) : Prop where
  nonempty : name ≠ []
  ordinary : name ≠ errorWarning
  own : ∀ kind ∈ (["l,", "a,", "p,"] : List Text), ¬ kind <+: name

/-- What the parts of a recipe satisfy when they can be written as switches. -/
structure IsSound (r : Recipe) : Prop where
  named : ∀ d ∈ r.definitions, d.1 ≠ [] ∧ Rule.equalsSign ∉ d.1
  warnings : ∀ name ∈ r.warnings, IsWarning name
  distinct : r.warnings.Nodup
  standard : r.standard ≠ []

theorem nodup_eraseDups {α : Type} [BEq α] [LawfulBEq α] : ∀ xs : List α, xs.eraseDups.Nodup
  | [] => List.nodup_nil
  | x :: xs => by
    rw [List.eraseDups_cons, List.nodup_cons, List.mem_eraseDups]
    exact ⟨by simp, nodup_eraseDups (xs.filter fun y => !y == x)⟩
termination_by xs => xs.length
decreasing_by exact Nat.lt_succ_of_le (List.length_filter_le ..)

theorem eraseDups_eq_self {α : Type} [BEq α] [LawfulBEq α] {xs : List α} (distinct : xs.Nodup) :
    xs.eraseDups = xs := by
  induction xs with
  | nil => rfl
  | cons x xs ih =>
    obtain ⟨fresh, rest⟩ := List.nodup_cons.1 distinct
    have kept : (xs.filter fun y => !y == x) = xs := by
      rw [List.filter_eq_self]
      intro y listed
      have other : y ≠ x := fun same => fresh (same ▸ listed)
      simp [other]
    rw [List.eraseDups_cons, kept, ih rest]

open Switch

/-- A definition has a name, and the name no equals sign. -/
theorem definition_of_mem {entry : Entry} {d : Text × Text} (listed : d ∈ (ofEntry entry).definitions) :
    d.1 ≠ [] ∧ Rule.equalsSign ∉ d.1 := by
  obtain ⟨switch, scanned, category⟩ := List.mem_filterMap.1 listed
  cases switch with
  | definition name value =>
    cases category
    obtain ⟨rule, token, reads⟩ := exists_reads_of_mem_ofCommand scanned rfl
    cases reads with
    | definition value named first => exact ⟨named, first⟩
  | _ => cases category

/-- The warnings of a recipe are names of warnings. -/
theorem isWarning_of_mem {entry : Entry} {name : Text} (listed : name ∈ (ofEntry entry).warnings) :
    IsWarning name := by
  obtain ⟨named, ordinary⟩ := List.mem_filter.1 (List.mem_eraseDups.1 listed)
  obtain ⟨switch, scanned, category⟩ := List.mem_filterMap.1 named
  cases switch with
  | warning name =>
    cases category
    obtain ⟨rule, token, reads⟩ := exists_reads_of_mem_ofCommand scanned rfl
    cases reads with
    | warning nonempty own => exact ⟨nonempty, by simpa using ordinary, own⟩
  | _ => cases category

/-- The standard is the first that a word states, or else the default. -/
theorem standard_ofEntry_ne_nil (entry : Entry) : (ofEntry entry).standard ≠ [] := by
  show ((ofCommand entry.command).filterMap standard?).head?.getD defaultStandard ≠ []
  cases first : ((ofCommand entry.command).filterMap standard?).head? with
  | none => decide
  | some name =>
    obtain ⟨switch, scanned, category⟩ := List.mem_filterMap.1 (List.mem_of_mem_head? first)
    cases switch with
    | standard name =>
      cases category
      obtain ⟨rule, token, reads⟩ := exists_reads_of_mem_ofCommand scanned rfl
      cases reads with
      | standard nonempty => exact nonempty
    | _ => cases category

/-- Every entry is read as a sound recipe. -/
theorem isSound_ofEntry (entry : Entry) : (ofEntry entry).IsSound where
  named _ listed := definition_of_mem listed
  warnings _ listed := isWarning_of_mem listed
  distinct := nodup_eraseDups _
  standard := standard_ofEntry_ne_nil entry

end Recipe

end CompileDb
