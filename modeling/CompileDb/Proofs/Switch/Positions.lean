import CompileDb.Proofs.Switch.Rules
import Mathlib.Data.List.TakeWhile

/-!
# Switches by the positions of their words

A scan goes on by one word or by two, so where it looks for a switch depends on all words before.
Here the words are judged by their positions alone: a word is a value iff the bare words `-isystem`
directly before it are odd in number (`IsValue`), and `Contributes` says what it contributes as a
value and what otherwise.

The scan of what is left of the words, from a position that holds no value on, finds exactly what
the positions from there on contribute (`exists_finds_scan`).
-/

namespace CompileDb.Switch

/-- The bare word whose value is the next word. -/
def flag : Text := "-isystem"

/-- How many flags stand directly before a position. -/
def flagsBefore (tokens : List Text) (i : Nat) : Nat := ((tokens.take i).reverse.takeWhile (· == flag)).length

/-- The word at a position is the value of the flag before it. -/
def IsValue (tokens : List Text) (i : Nat) : Prop := flagsBefore tokens i % 2 = 1

/-- What the word at a position contributes: as a value a directory, whatever it looks like, and
otherwise what a rule reads from it. -/
inductive Contributes (tokens : List Text) (i : Nat) : Switch → Prop where
  | value {token : Text} (here : tokens[i]? = some token) (taken : IsValue tokens i) (nonempty : token ≠ []) :
      Contributes tokens i (.systemDir (.ofText token))
  | attached {token : Text} {rule : Rule} {switch : Switch} (here : tokens[i]? = some token)
      (free : ¬ IsValue tokens i) (reads : rule.Reads token switch) : Contributes tokens i switch

/-- A switch that has a category. -/
def isKept (switch : Switch) : Bool := switch.notice?.isNone

/-- The flags right before a place, counted one word further. -/
theorem flagsBefore_succ {tokens : List Text} {i : Nat} {token : Text} (here : tokens[i]? = some token) :
    flagsBefore tokens (i + 1) = if token = flag then flagsBefore tokens i + 1 else 0 := by
  rw [flagsBefore, List.take_add_one, here, Option.toList_some, List.reverse_append, List.reverse_singleton,
    List.singleton_append, List.takeWhile_cons]
  by_cases bare : token = flag <;> simp [bare, flagsBefore]

/-- A value stands behind a flag that is no value itself. -/
theorem isValue_succ {tokens : List Text} {i : Nat} {token : Text} (here : tokens[i]? = some token) :
    IsValue tokens (i + 1) ↔ token = flag ∧ ¬ IsValue tokens i := by
  rw [IsValue, flagsBefore_succ here, IsValue]
  by_cases bare : token = flag
  · simp only [bare, if_true, true_and]
    omega
  · simp [bare]

theorem not_isValue_zero (tokens : List Text) : ¬ IsValue tokens 0 := by simp [IsValue, flagsBefore]

section Position

variable {tokens : List Text} {i : Nat} {token : Text}

/-- A value contributes the system directory it names, if it names one. -/
theorem contributes_of_isValue (here : tokens[i]? = some token) (taken : IsValue tokens i) {switch : Switch} :
    Contributes tokens i switch ↔ token ≠ [] ∧ switch = .systemDir (.ofText token) := by
  constructor
  · intro contributes
    cases contributes with
    | value here' _ nonempty =>
      obtain rfl := Option.some.inj (here.symm.trans here')
      exact ⟨nonempty, rfl⟩
    | attached _ free _ => exact absurd taken free
  · rintro ⟨nonempty, rfl⟩
    exact .value here taken nonempty

/-- A word that is no value contributes what the table of rules reads from it. -/
theorem contributes_of_free (here : tokens[i]? = some token) (free : ¬ IsValue tokens i) {switch : Switch} :
    Contributes tokens i switch ↔ Rule.firstVerdict Rule.all token = some (.reads switch) := by
  rw [Rule.firstVerdict_all_eq_reads_iff]
  constructor
  · intro contributes
    cases contributes with
    | value _ taken _ => exact absurd taken free
    | @attached token' rule _ here' _ reads =>
      obtain rfl := Option.some.inj (here.symm.trans here')
      exact ⟨rule, reads⟩
  · rintro ⟨rule, reads⟩
    exact .attached here free reads

/-- The bare flag is the only word that awaits a value. -/
theorem firstVerdict_eq_awaitsValue_iff : Rule.firstVerdict Rule.all token = some .awaitsValue ↔ token = flag := by
  rw [Rule.firstVerdict_eq_some_iff]
  constructor
  · rintro ⟨rule, -, judged⟩
    exact (Rule.judge_eq_awaitsValue_iff.1 judged).2
  · intro bare
    exact ⟨.systemDir, Rule.mem_all _, Rule.judge_eq_awaitsValue_iff.2 ⟨rfl, bare⟩⟩

end Position

/-- A word no rule reads contributes at most a report. -/
theorem scan_cons_of_unknown {word : Text} (unknown : Rule.firstVerdict Rule.all word = none) (rest : List Text) :
    scan (word :: rest) = ofUnknown word ++ scan rest := by
  simp only [scan, scanWith, unknown]

/-- A word some rule reads contributes its switch. -/
theorem scan_cons_of_reads {rule : Rule} {word : Text} {switch : Switch} (reads : rule.Reads word switch)
    (rest : List Text) : scan (word :: rest) = switch :: scan rest := by
  rw [scan, scanWith]
  · rfl
  · exact Rule.firstVerdict_all_eq_reads_iff.2 ⟨rule, reads⟩

/-- A flag takes the next word, whatever that is. -/
theorem scan_flag_cons (value : Text) (rest : List Text) :
    scan (flag :: value :: rest) = ofSystemValue value :: scan rest := by
  have bare : Rule.firstVerdict Rule.all flag = some .awaitsValue := firstVerdict_eq_awaitsValue_iff.2 rfl
  rw [scan, scanWith]
  · rfl
  · exact bare

/-- What is found from a position on, by position. -/
structure Finds (tokens : List Text) (start : Nat) (found : List (Nat × Switch)) : Prop where
  ordered : found.Pairwise fun s t => s.1 < t.1
  mem_iff : ∀ i switch, (i, switch) ∈ found ↔ start ≤ i ∧ Contributes tokens i switch

namespace Finds

variable {tokens : List Text} {start : Nat} {found : List (Nat × Switch)}

theorem nil (past : tokens.length ≤ start) : Finds tokens start [] := by
  refine ⟨.nil, fun i switch => ⟨fun h => by simp at h, ?_⟩⟩
  rintro ⟨late, contributes⟩
  have inside : i < tokens.length := by
    cases contributes with
    | value here => exact (List.getElem?_eq_some_iff.1 here).1
    | attached here => exact (List.getElem?_eq_some_iff.1 here).1
  omega

/-- What a position contributes stands before what is found behind it. -/
theorem cons (later : Finds tokens (start + 1) found) {first : Option Switch}
    (here : ∀ switch, Contributes tokens start switch ↔ first = some switch) :
    Finds tokens start ((first.map fun switch => (start, switch)).toList ++ found) := by
  constructor
  · rw [List.pairwise_append]
    refine ⟨by cases first <;> simp, later.ordered, ?_⟩
    intro s atStart t behind
    obtain ⟨switch, -, rfl⟩ := Option.map_eq_some_iff.1 (Option.mem_toList.1 atStart)
    exact ((later.mem_iff t.1 t.2).1 behind).1
  · intro i switch
    rw [List.mem_append, later.mem_iff, Option.mem_toList, Option.map_eq_some_iff]
    constructor
    · rintro (⟨switch', only, same⟩ | ⟨late, contributes⟩)
      · cases same
        exact ⟨Nat.le_refl _, (here switch).2 only⟩
      · exact ⟨by omega, contributes⟩
    · rintro ⟨reached, contributes⟩
      by_cases equal : i = start
      · subst equal
        exact .inl ⟨switch, (here switch).1 contributes, rfl⟩
      · exact .inr ⟨by omega, contributes⟩

end Finds

/-- What is kept of the switch that a flag makes of its value. -/
def valueSwitch (value : Text) : Option Switch := if value = [] then none else some (.systemDir (.ofText value))

theorem valueSwitch_eq_some_iff {value : Text} {switch : Switch} :
    valueSwitch value = some switch ↔ value ≠ [] ∧ switch = .systemDir (.ofText value) := by
  by_cases empty : value = [] <;> simp [valueSwitch, empty, eq_comm]

theorem filter_isKept_ofSystemValue (value : Text) :
    [ofSystemValue value].filter isKept = (valueSwitch value).toList := by
  by_cases empty : value = []
  · subst empty
    rfl
  · have named : ¬ value = (("" : String) : Text) := empty
    rw [ofSystemValue, if_neg named, valueSwitch, if_neg empty]
    rfl

theorem filter_isKept_ofUnknown (token : Text) : (ofUnknown token).filter isKept = [] := by
  rw [ofUnknown]
  split <;> rfl

theorem isKept_of_firstVerdict {token : Text} {switch : Switch}
    (known : Rule.firstVerdict Rule.all token = some (.reads switch)) : isKept switch = true := by
  obtain ⟨rule, reads⟩ := Rule.firstVerdict_all_eq_reads_iff.1 known
  cases reads <;> rfl

/-- A word that is no flag adds what it contributes to what is found behind it. -/
theorem exists_finds_cons {rest : List Text} {switches : List Switch}
    (later : ∀ before : List Text, ¬ IsValue (before ++ rest) before.length →
      ∃ found, Finds (before ++ rest) before.length found ∧ switches.filter isKept = found.map Prod.snd)
    {before : List Text} {token : Text} (free : ¬ IsValue (before ++ token :: rest) before.length)
    (other : token ≠ flag) {first : Option Switch}
    (read : ∀ s, Rule.firstVerdict Rule.all token = some (.reads s) ↔ first = some s) :
    ∃ found, Finds (before ++ token :: rest) before.length found ∧
      first.toList ++ switches.filter isKept = found.map Prod.snd := by
  have here : (before ++ token :: rest)[before.length]? = some token := by simp
  have freeAgain : ¬ IsValue (before ++ token :: rest) (before.length + 1) := by
    rw [isValue_succ here]
    exact fun taken => other taken.1
  have same : before ++ token :: rest = (before ++ [token]) ++ rest := by simp
  have reach : (before ++ [token]).length = before.length + 1 := by simp
  obtain ⟨found, finds, scanned⟩ := later (before ++ [token]) (by rw [reach, ← same]; exact freeAgain)
  rw [reach, ← same] at finds
  refine ⟨_, finds.cons fun s => (contributes_of_free here free).trans (read s), ?_⟩
  rw [scanned]
  cases first <;> rfl

/-- A flag adds what its value contributes to what is found behind the value; by itself it adds nothing. -/
theorem exists_finds_flag_cons {rest : List Text} {switches : List Switch}
    (later : ∀ before : List Text, ¬ IsValue (before ++ rest) before.length →
      ∃ found, Finds (before ++ rest) before.length found ∧ switches.filter isKept = found.map Prod.snd)
    {before : List Text} {token value : Text} (free : ¬ IsValue (before ++ token :: value :: rest) before.length)
    (bare : Rule.firstVerdict Rule.all token = some .awaitsValue) :
    ∃ found, Finds (before ++ token :: value :: rest) before.length found ∧
      (valueSwitch value).toList ++ switches.filter isKept = found.map Prod.snd := by
  have here : (before ++ token :: value :: rest)[before.length]? = some token := by simp
  have next : (before ++ token :: value :: rest)[before.length + 1]? = some value := by simp
  have taken : IsValue (before ++ token :: value :: rest) (before.length + 1) :=
    (isValue_succ here).2 ⟨firstVerdict_eq_awaitsValue_iff.1 bare, free⟩
  -- Even where the value is spelled like a flag, it is taken already and does not wait for the next word.
  have freeAgain : ¬ IsValue (before ++ token :: value :: rest) (before.length + 1 + 1) := by
    rw [isValue_succ next]
    exact fun ends => ends.2 taken
  have same : before ++ token :: value :: rest = (before ++ [token, value]) ++ rest := by simp
  have reach : (before ++ [token, value]).length = before.length + 1 + 1 := by simp
  obtain ⟨found, finds, scanned⟩ := later (before ++ [token, value]) (by rw [reach, ← same]; exact freeAgain)
  rw [reach, ← same] at finds
  have swallowed : ∀ switch, Contributes (before ++ token :: value :: rest) (before.length + 1) switch ↔
      valueSwitch value = some switch := by
    intro switch
    rw [contributes_of_isValue next taken, valueSwitch_eq_some_iff]
  have nothing : ∀ switch, Contributes (before ++ token :: value :: rest) before.length switch ↔
      none = some switch := by
    intro switch
    rw [contributes_of_free here free, bare]
    simp
  refine ⟨_, (finds.cons swallowed).cons nothing, ?_⟩
  rw [scanned]
  cases valueSwitch value <;> rfl

/-- From a position without a value on, a scan finds what the positions contribute. -/
theorem exists_finds_scan (rest : List Text) : ∀ before : List Text,
    ¬ IsValue (before ++ rest) before.length →
    ∃ found, Finds (before ++ rest) before.length found ∧ (scan rest).filter isKept = found.map Prod.snd := by
  unfold scan
  fun_induction scanWith Rule.all rest with
  | case1 =>
    intro before _
    exact ⟨[], .nil (by simp), rfl⟩
  | case2 token bare =>
    intro before free
    have here : (before ++ [token])[before.length]? = some token := by simp
    have later : Finds (before ++ [token]) (before.length + 1) [] := .nil (by simp)
    have nothing : ∀ switch, Contributes (before ++ [token]) before.length switch ↔ none = some switch := by
      intro switch
      rw [contributes_of_free here free, bare]
      simp
    exact ⟨_, later.cons nothing, rfl⟩
  | case3 token value rest bare ih =>
    intro before free
    obtain ⟨found, finds, scanned⟩ := exists_finds_flag_cons ih free bare
    refine ⟨found, finds, ?_⟩
    rw [← scanned, ← filter_isKept_ofSystemValue, ← List.filter_append]
    rfl
  | case4 token switch rest known ih =>
    intro before free
    have other : token ≠ flag := by
      apply firstVerdict_eq_awaitsValue_iff.not.1
      rw [known]
      simp
    have read : ∀ s, Rule.firstVerdict Rule.all token = some (.reads s) ↔ some switch = some s := by
      intro s
      rw [known]
      simp
    obtain ⟨found, finds, scanned⟩ := exists_finds_cons ih free other read
    refine ⟨found, finds, ?_⟩
    rw [← scanned, List.filter_cons_of_pos (isKept_of_firstVerdict known)]
    rfl
  | case5 token rest unknown ih =>
    intro before free
    have other : token ≠ flag := by
      apply firstVerdict_eq_awaitsValue_iff.not.1
      rw [unknown]
      simp
    have read : ∀ s, Rule.firstVerdict Rule.all token = some (.reads s) ↔ none = some s := by
      intro s
      rw [unknown]
      simp
    obtain ⟨found, finds, scanned⟩ := exists_finds_cons ih free other read
    refine ⟨found, finds, ?_⟩
    rw [← scanned, List.filter_append, filter_isKept_ofUnknown]
    rfl

/-- Two switches end up in no category: the empty system directory and the incomplete definition. -/
theorem dropped_cases {switch : Switch} (dropped : isKept switch = false) :
    switch = .emptySystemDir ∨ ∃ token, switch = .incompleteDefinition token := by
  cases switch with
  | emptySystemDir => exact .inl rfl
  | incompleteDefinition token => exact .inr ⟨token, rfl⟩
  | _ => cases dropped

/-- A category without dropped switches is not changed by leaving them out. -/
theorem filterMap_filter_isKept {α : Type} {category : Switch → Option α} (empty : category .emptySystemDir = none)
    (incomplete : ∀ token, category (.incompleteDefinition token) = none) (switches : List Switch) :
    (switches.filter isKept).filterMap category = switches.filterMap category := by
  rw [List.filterMap_filter]
  apply List.filterMap_congr
  intro switch _
  cases kept : isKept switch with
  | true => rfl
  | false =>
    rcases dropped_cases kept with rfl | ⟨token, rfl⟩
    · exact empty.symm
    · exact (incomplete token).symm

/-- **Each word contributes by its position.** In every category the switches of a command are what
its words contribute, in the order of the words; a word contributes at most one. -/
theorem categories_eq_contributions (command : Text) :
    ∃ found : List (Nat × Switch), found.Pairwise (fun s t => s.1 < t.1) ∧
      (∀ i switch, (i, switch) ∈ found ↔ Contributes (Words.split command) i switch) ∧
      (ofCommand command).filterMap definition? = found.filterMap (fun f => f.2.definition?) ∧
      (ofCommand command).filterMap includeDir? = found.filterMap (fun f => f.2.includeDir?) ∧
      (ofCommand command).filterMap systemDir? = found.filterMap (fun f => f.2.systemDir?) ∧
      (ofCommand command).filterMap warning? = found.filterMap (fun f => f.2.warning?) ∧
      (ofCommand command).filterMap standard? = found.filterMap (fun f => f.2.standard?) := by
  obtain ⟨found, finds, scanned⟩ := exists_finds_scan (Words.split command) [] (not_isValue_zero _)
  have sorted : ∀ {α : Type} {category : Switch → Option α}, category .emptySystemDir = none →
      (∀ token, category (.incompleteDefinition token) = none) →
      (ofCommand command).filterMap category = found.filterMap fun f => category f.2 := by
    intro α category empty incomplete
    rw [ofCommand, ← filterMap_filter_isKept empty incomplete, scanned, List.filterMap_map]
    rfl
  refine ⟨found, finds.ordered, fun i switch => by simpa using finds.mem_iff i switch, ?_⟩
  exact ⟨sorted rfl fun _ => rfl, sorted rfl fun _ => rfl, sorted rfl fun _ => rfl, sorted rfl fun _ => rfl,
    sorted rfl fun _ => rfl⟩

example : ofCommand (("c++ -isystem -isystem -DX=1" : String) : Text) =
    [.systemDir (.ofText "-isystem"), .definition "X" "1"] := by decide

end CompileDb.Switch
