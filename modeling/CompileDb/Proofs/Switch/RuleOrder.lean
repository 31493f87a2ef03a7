import CompileDb.Proofs.Switch.Concatenation

/-!
# Rules in any order

No word is known to two rules, so it makes no difference which of them is asked first: tables of the same rules
come to the same verdict on every word (`Rule.firstVerdict_congr`), and verdicts are all that a scan asks a table
for (`scanWith_congr`). The order of the table is therefore nothing that a scan depends on
(`scan_of_rearranged_rules`).
-/

namespace CompileDb

/-- No word is known to both of two rules, the bare flag included. -/
def Rule.Excludes (rule other : Rule) : Prop := ∀ token, rule.judge token = none ∨ other.judge token = none

/-- No word is judged by two rules. -/
theorem Rule.excludes_of_ne {rule other : Rule} (different : rule ≠ other) : rule.Excludes other := by
  intro token
  cases known : rule.judge token with
  | none => exact .inl rfl
  | some verdict =>
    right
    rw [Option.eq_none_iff_forall_not_mem]
    intro verdict' known'
    exact different (marker_injective (marker_isPrefix_of_judge known) (marker_isPrefix_of_judge known'))

/-- Tables of the same rules agree on every word. -/
theorem Rule.firstVerdict_congr {rules others : List Rule} (same : ∀ rule, rule ∈ others ↔ rule ∈ rules)
    (token : Text) : firstVerdict others token = firstVerdict rules token := by
  apply Option.ext
  intro verdict
  rw [firstVerdict_eq_some_iff, firstVerdict_eq_some_iff]
  exact exists_congr fun rule => and_congr_left fun _ => same rule

namespace Switch

/-- A scan asks its table for the verdicts on words and for nothing else. -/
theorem scanWith_congr {rules others : List Rule}
    (same : ∀ token, Rule.firstVerdict others token = Rule.firstVerdict rules token) (tokens : List Text) :
    scanWith others tokens = scanWith rules tokens := by
  fun_induction scanWith rules tokens with
  | case1 => rfl
  | case2 token bare =>
    rw [scanWith]
    exact (same token).trans bare
  | case3 token value rest bare ih =>
    rw [scanWith, ih]
    exact (same token).trans bare
  | case4 token switch rest known ih =>
    rw [scanWith, ih]
    exact (same token).trans known
  | case5 token rest unknown ih =>
    have unknown' := (same token).trans unknown
    simp only [scanWith, unknown', ih]

/-- The categories of a command line under a table of rules. -/
def Categories.ofCommandWith (rules : List Rule) (command : Text) : Categories :=
  sort (scanWith rules (Words.split command))

/-- The records that reading a command line under a table of rules leaves. -/
def noticesWith (rules : List Rule) (command : Text) : List Notice :=
  Words.notices command ++ (scanWith rules (Words.split command)).filterMap notice?

/-- **The order of the rules is immaterial.** In whatever order the rules are tried, no two of them know the same
word, every category of a command has the same switches in the same order, and the same records are left. -/
theorem scan_of_rearranged_rules {rules : List Rule} (rearranged : rules.Perm Rule.all) (command : Text) :
    rules.Pairwise Rule.Excludes ∧
      Categories.ofCommandWith rules command = Categories.ofCommand command ∧
      noticesWith rules command = notices command := by
  have distinct : rules.Nodup := rearranged.nodup_iff.2 (by decide)
  have same : scanWith rules (Words.split command) = ofCommand command :=
    scanWith_congr (Rule.firstVerdict_congr fun rule => rearranged.mem_iff) _
  refine ⟨distinct.imp Rule.excludes_of_ne, ?_, ?_⟩
  · rw [Categories.ofCommandWith, same]
    rfl
  · rw [noticesWith, same]
    rfl

/-- The rules from the last to the first. -/
theorem scan_of_rearranged_rules_reversed :
    let command : Text := "cc -isystem -DA=1 -D=2 -Iinc -Wall -isystem/x -DB=-I -std=c++17 -Wl,-s -isystem"
    Rule.all.reverse.Perm Rule.all ∧
      Categories.ofCommandWith Rule.all.reverse command =
        { definitions := [("B", "-I")], includeDirs := [.ofText "inc"],
          systemDirs := [.ofText "-DA=1", .ofText "/x"], warnings := ["all"], standards := ["c++17"] } ∧
      noticesWith Rule.all.reverse command = [.incompleteDefinition "-D=2"] := by
  intro command
  have rearranged : Rule.all.reverse.Perm Rule.all := List.reverse_perm _
  obtain ⟨-, categories, notices⟩ := scan_of_rearranged_rules rearranged command
  refine ⟨rearranged, ?_, ?_⟩
  · rw [categories]
    decide +kernel
  · rw [notices]
    decide +kernel

end Switch

end CompileDb
