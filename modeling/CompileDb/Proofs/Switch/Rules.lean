import CompileDb.Switch
import Mathlib.Data.List.Infix
import Mathlib.Data.List.TakeWhile

/-!
# What the rules read

Each rule knows the words that begin with its marker, and no marker begins another
(`marker_injective`). So at most one rule knows a word, and the verdict of a table is that of any
of its rules that gives one (`firstVerdict_eq_some_iff`), wherever in the table the rule stands.

`Reads` states what the rules read, each by the form of its words.
-/

namespace CompileDb.Rule

/-- The text that all words of a rule begin with. -/
def marker : Rule → Text
  | definition => "-D"
  | includeDir => "-I"
  | systemDir => "-isystem"
  | warning => "-W"
  | standard => "-std="

/-- What a rule reads from a word that carries its value. -/
inductive Reads : Rule → Text → Switch → Prop where
  /-- The name of a definition ends at the first equals sign. -/
  | definition {name : Text} (value : Text) (named : name ≠ []) (first : equalsSign ∉ name) :
      Reads definition ("-D" ++ name ++ equalsSign :: value) (.definition name value)
  | includeDir {value : Text} (nonempty : value ≠ []) :
      Reads includeDir ("-I" ++ value) (.includeDir (.ofText value))
  | systemDir {value : Text} (nonempty : value ≠ []) :
      Reads systemDir ("-isystem" ++ value) (.systemDir (.ofText value))
  /-- What begins with `l,`, `a,` or `p,` is handed on to another program. -/
  | warning {value : Text} (nonempty : value ≠ [])
      (own : ∀ kind ∈ (["l,", "a,", "p,"] : List Text), ¬ kind <+: value) :
      Reads warning ("-W" ++ value) (.warning value)
  | standard {value : Text} (nonempty : value ≠ []) : Reads standard ("-std=" ++ value) (.standard value)

/-- An attached value is what follows the marker, and not empty. -/
theorem attached?_eq_some_iff {marker token value : Text} :
    attached? marker token = some value ↔ token = marker ++ value ∧ value ≠ [] := by
  simp [attached?, Option.filter_eq_some_iff, Text.after?_eq_some_iff]

theorem isForwarded_iff {value : Text} :
    isForwarded value = true ↔ ∃ kind ∈ (["l,", "a,", "p,"] : List Text), kind <+: value := by
  constructor
  · intro forwarded
    unfold isForwarded at forwarded
    split at forwarded
    · next kind rest =>
      simp only [Bool.or_eq_true, beq_iff_eq] at forwarded
      rcases forwarded with (rfl | rfl) | rfl
      · exact ⟨"l,", by simp, rest, rfl⟩
      · exact ⟨"a,", by simp, rest, rfl⟩
      · exact ⟨"p,", by simp, rest, rfl⟩
    · cases forwarded
  · rintro ⟨kind, listed, rest, rfl⟩
    simp only [List.mem_cons, List.not_mem_nil, or_false] at listed
    rcases listed with rfl | rfl | rfl <;> rfl

/-- A definition is split at its first equals sign. -/
theorem nameAndValue?_eq_some_iff {text name value : Text} :
    nameAndValue? text = some (name, value) ↔
      text = name ++ equalsSign :: value ∧ name ≠ [] ∧ equalsSign ∉ name := by
  constructor
  · intro cut
    unfold nameAndValue? at cut
    split at cut
    · next first front sign back taken dropped =>
      simp only [Option.some.injEq, Prod.mk.injEq] at cut
      obtain ⟨rfl, rfl⟩ := cut
      have stops : (text.dropWhile (· != equalsSign)).head? = some sign := by rw [dropped]; rfl
      have isSign : sign = equalsSign := by
        have := List.head?_dropWhile_not (· != equalsSign) text
        rw [stops] at this
        simpa using this
      have whole := List.takeWhile_append_dropWhile (p := (· != equalsSign)) (l := text)
      rw [taken, dropped, isSign] at whole
      refine ⟨whole.symm, by simp, ?_⟩
      intro inside
      rw [← taken] at inside
      simpa using List.mem_takeWhile_imp inside
    · cases cut
  · rintro ⟨rfl, named, first⟩
    have front : ∀ a ∈ name, (a != equalsSign) = true := by
      intro a inside
      simp only [bne_iff_ne]
      rintro rfl
      exact first inside
    rw [nameAndValue?, List.takeWhile_append_of_pos front, List.dropWhile_append_of_pos front]
    cases name with
    | nil => exact absurd rfl named
    | cons a name => simp

theorem judge_systemDir (token : Text) : systemDir.judge token =
    if token = "-isystem" then some .awaitsValue
    else (attached? "-isystem" token).map fun value => .reads (.systemDir (.ofText value)) := rfl

/-- A rule reads a switch from a word iff the word has the form that the switch is written in. -/
theorem judge_eq_reads_iff {rule : Rule} {token : Text} {switch : Switch} :
    rule.judge token = some (.reads switch) ↔ Reads rule token switch := by
  constructor
  · intro judged
    cases rule with
    | definition =>
      obtain ⟨d, cut, same⟩ := Option.map_eq_some_iff.1 judged
      obtain ⟨rest, marked, cut⟩ := Option.bind_eq_some_iff.1 cut
      obtain ⟨rfl, named, first⟩ := nameAndValue?_eq_some_iff.1 cut
      obtain rfl := Text.after?_eq_some_iff.1 marked
      cases same
      rw [← List.append_assoc]
      exact .definition d.2 named first
    | includeDir =>
      obtain ⟨value, attached, same⟩ := Option.map_eq_some_iff.1 judged
      obtain ⟨rfl, nonempty⟩ := attached?_eq_some_iff.1 attached
      cases same
      exact .includeDir nonempty
    | systemDir =>
      rw [judge_systemDir] at judged
      split at judged
      · cases judged
      · obtain ⟨value, attached, same⟩ := Option.map_eq_some_iff.1 judged
        obtain ⟨rfl, nonempty⟩ := attached?_eq_some_iff.1 attached
        cases same
        exact .systemDir nonempty
    | warning =>
      obtain ⟨value, kept, same⟩ := Option.map_eq_some_iff.1 judged
      obtain ⟨attached, own⟩ := Option.filter_eq_some_iff.1 kept
      obtain ⟨rfl, nonempty⟩ := attached?_eq_some_iff.1 attached
      cases same
      apply Reads.warning nonempty
      intro kind listed begins
      rw [isForwarded_iff.2 ⟨kind, listed, begins⟩] at own
      cases own
    | standard =>
      obtain ⟨value, attached, same⟩ := Option.map_eq_some_iff.1 judged
      obtain ⟨rfl, nonempty⟩ := attached?_eq_some_iff.1 attached
      cases same
      exact .standard nonempty
  · intro reads
    cases reads with
    | definition value named first =>
      rw [judge, List.append_assoc, Text.after?_eq_some_iff.2 rfl, Option.bind_some,
        nameAndValue?_eq_some_iff.2 ⟨rfl, named, first⟩]
      rfl
    | includeDir nonempty => rw [judge, attached?_eq_some_iff.2 ⟨rfl, nonempty⟩, Option.map_some]
    | systemDir nonempty =>
      rw [judge, if_neg (by simpa using nonempty), attached?_eq_some_iff.2 ⟨rfl, nonempty⟩, Option.map_some]
    | @warning value nonempty own =>
      have kept : isForwarded value = false := by
        rw [← Bool.not_eq_true, isForwarded_iff]
        rintro ⟨kind, listed, begins⟩
        exact own kind listed begins
      rw [judge, attached?_eq_some_iff.2 ⟨rfl, nonempty⟩, Option.filter_some, kept]
      rfl
    | standard nonempty => rw [judge, attached?_eq_some_iff.2 ⟨rfl, nonempty⟩, Option.map_some]

/-- Only the rule of system directories asks for the next word. -/
theorem judge_eq_awaitsValue_iff {rule : Rule} {token : Text} :
    rule.judge token = some .awaitsValue ↔ rule = systemDir ∧ token = "-isystem" := by
  constructor
  · intro judged
    cases rule with
    | systemDir =>
      rw [judge_systemDir] at judged
      split at judged
      · next bare => exact ⟨rfl, bare⟩
      · obtain ⟨value, -, same⟩ := Option.map_eq_some_iff.1 judged
        cases same
    | _ =>
      obtain ⟨value, -, same⟩ := Option.map_eq_some_iff.1 judged
      cases same
  · rintro ⟨rfl, rfl⟩
    rfl

/-- The words of a rule begin with its marker. -/
theorem marker_isPrefix_of_judge {rule : Rule} {token : Text} {verdict : Verdict}
    (judged : rule.judge token = some verdict) : rule.marker <+: token := by
  cases verdict with
  | awaitsValue =>
    obtain ⟨rfl, rfl⟩ := judge_eq_awaitsValue_iff.1 judged
    exact List.prefix_rfl
  | reads switch =>
    cases judge_eq_reads_iff.1 judged with
    | definition value named first =>
      rw [List.append_assoc]
      exact List.prefix_append ..
    | _ => exact List.prefix_append ..

/-- No marker begins another. -/
theorem marker_injective {rule other : Rule} {token : Text} (begins : rule.marker <+: token)
    (begins' : other.marker <+: token) : rule = other := by
  have apart : ∀ r s : Rule, r.marker <+: s.marker → r = s := by
    intro r s
    cases r <;> cases s <;> decide
  rcases List.prefix_or_prefix_of_prefix begins begins' with first | second
  · exact apart rule other first
  · exact (apart other rule second).symm

theorem firstVerdict_eq_some_iff {rules : List Rule} {token : Text} {verdict : Verdict} :
    firstVerdict rules token = some verdict ↔ ∃ rule ∈ rules, rule.judge token = some verdict := by
  constructor
  · exact List.exists_of_findSome?_eq_some
  · rintro ⟨rule, listed, judged⟩
    have known : (rules.findSome? fun r => r.judge token).isSome :=
      List.findSome?_isSome_iff.2 ⟨rule, listed, by rw [judged]; rfl⟩
    obtain ⟨verdict', found⟩ := Option.isSome_iff_exists.1 known
    obtain ⟨other, -, judged'⟩ := List.exists_of_findSome?_eq_some found
    obtain rfl := marker_injective (marker_isPrefix_of_judge judged) (marker_isPrefix_of_judge judged')
    rw [judged] at judged'
    rw [firstVerdict, found, judged']

theorem mem_all (rule : Rule) : rule ∈ all := by cases rule <;> decide

/-- A word is read as a switch when some rule reads it so. -/
theorem firstVerdict_all_eq_reads_iff {token : Text} {switch : Switch} :
    firstVerdict all token = some (.reads switch) ↔ ∃ rule : Rule, rule.Reads token switch := by
  rw [firstVerdict_eq_some_iff]
  exact exists_congr fun rule => by rw [judge_eq_reads_iff, and_iff_right rule.mem_all]

end CompileDb.Rule
