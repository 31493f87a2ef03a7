import CompileDb.Proofs.Switch.Concatenation

/-!
# No definition is lost

Among the words that are no value of a flag, those that begin like a definition are of two kinds. A complete one
states a name and a value and is found as a definition; an incomplete one is dropped, and a record of it is left
behind (`definitions_and_reports`). Both counts go through the words one by one: behind a word a scan has found what
it found before and what that word comes to (`scan_snoc`), so what a scan picks out of the words is settled by what
it makes of each alone (`filterMap_scan`).
-/

namespace CompileDb

namespace Notice

/-- What the record of a dropped definition begins with. -/
def dropMessage : Text := "Dropping macro definition without a value: "

/-- The word that a record reports as a dropped definition. -/
def droppedWord? (notice : Notice) : Option Text :=
  if notice.level = .debug then Text.after? dropMessage notice.message else none

/-- No other record reads like that of a dropped definition. -/
theorem droppedWord?_eq_some_iff {notice : Notice} {token : Text} :
    notice.droppedWord? = some token ↔ notice = .incompleteDefinition token := by
  cases notice with
  | incompleteDefinition dropped =>
    have read : (incompleteDefinition dropped).droppedWord? = some dropped := Text.after?_eq_some_iff.2 rfl
    rw [read, Option.some.injEq, incompleteDefinition.injEq]
  | _ => exact iff_of_false nofun nofun

end Notice

namespace Switch

instance (tokens : List Text) (i : Nat) : Decidable (IsValue tokens i) := inferInstanceAs (Decidable (_ = _))

instance (tokens : List Text) : Decidable (Waits tokens) := inferInstanceAs (Decidable (IsValue ..))

/-- The words that are no value of a flag, in their order. -/
def freeWords (tokens : List Text) : List Text :=
  (tokens.zipIdx.filter fun word => ¬ IsValue tokens word.2).map Prod.fst

/-- A word that begins like a definition. -/
def BeginsDefinition (token : Text) : Prop := Rule.definition.marker <+: token

/-- The text of a definition is incomplete: it has no equals sign, or no name in front of it. -/
def IsIncomplete (token : Text) : Prop :=
  let text := token.drop Rule.definition.marker.length
  Rule.equalsSign ∉ text ∨ text.head? = some Rule.equalsSign

instance (token : Text) : Decidable (BeginsDefinition token) := inferInstanceAs (Decidable (_ <+: _))

instance (token : Text) : Decidable (IsIncomplete token) := inferInstanceAs (Decidable (_ ∨ _))

/-- The word that states a definition. -/
def spelledDefinition (d : Text × Text) : Text := "-D" ++ d.1 ++ "=" ++ d.2

section Words

variable {tokens : List Text} {token : Text}

/-- One word more. -/
theorem scan_snoc : scan (tokens ++ [token]) =
    scan tokens ++ if Waits tokens then [ofSystemValue token] else scan [token] := by
  split
  · next waits => exact (seam tokens).waiting waits token []
  · next free => exact (seam tokens).free free [token]

/-- A word is free when no value is awaited before it. -/
theorem freeWords_snoc : freeWords (tokens ++ [token]) =
    freeWords tokens ++ if Waits tokens then [] else [token] := by
  have before : ∀ i ≤ tokens.length, (IsValue (tokens ++ [token]) i ↔ IsValue tokens i) := by
    intro i inside
    rw [IsValue, IsValue, flagsBefore, flagsBefore, List.take_append_of_le_length inside]
  have front : (tokens.zipIdx.filter fun word => ¬ IsValue (tokens ++ [token]) word.2) =
      tokens.zipIdx.filter fun word => ¬ IsValue tokens word.2 := by
    apply List.filter_congr
    intro word listed
    have inside : word.2 < tokens.length := by
      have := List.snd_lt_of_mem_zipIdx listed
      omega
    simp only [before word.2 (Nat.le_of_lt inside)]
  have last : (¬ IsValue (tokens ++ [token]) tokens.length) ↔ ¬ Waits tokens := not_congr (before _ (Nat.le_refl _))
  rw [freeWords, List.zipIdx_append, List.filter_append, front, List.map_append, ← freeWords]
  by_cases waits : Waits tokens <;> simp [last, waits]

/-- What a scan picks out of words, when it picks nothing out of values: the words that it picks when it meets
them alone. -/
theorem filterMap_scan {pick : Switch → Option Text} {isPicked : Text → Bool}
    (value : ∀ token, pick (ofSystemValue token) = none)
    (alone : ∀ token, (scan [token]).filterMap pick = [token].filter isPicked) (tokens : List Text) :
    (scan tokens).filterMap pick = (freeWords tokens).filter isPicked := by
  induction tokens using List.reverseRecOn with
  | nil => rfl
  | append_singleton tokens token before =>
    rw [scan_snoc, freeWords_snoc, List.filterMap_append, List.filter_append, before]
    split
    · rw [List.filterMap_cons_none (value token)]
      rfl
    · rw [alone]

end Words

section Word

variable {token : Text}

/-- A complete word states a definition. -/
theorem exists_reads_of_complete (begins : BeginsDefinition token) (complete : ¬ IsIncomplete token) :
    ∃ d, Rule.definition.Reads token (.definition d.1 d.2) ∧ spelledDefinition d = token := by
  obtain ⟨text, rfl⟩ := begins
  have rest : (Rule.definition.marker ++ text).drop Rule.definition.marker.length = text := List.drop_left ..
  rw [IsIncomplete, rest, not_or, not_not] at complete
  obtain ⟨name, value, rfl, first⟩ := List.eq_append_cons_of_mem complete.1
  have named : name ≠ [] := by
    rintro rfl
    exact complete.2 rfl
  refine ⟨(name, value), ?_, ?_⟩
  · rw [← List.append_assoc]
    exact .definition value named first
  · simp [spelledDefinition, Rule.marker, Rule.equalsSign, Text.ofString, Text.ofChars]

/-- No rule reads an incomplete word. -/
theorem firstVerdict_of_incomplete (begins : BeginsDefinition token) (incomplete : IsIncomplete token) :
    Rule.firstVerdict Rule.all token = none := by
  rw [Option.eq_none_iff_forall_not_mem]
  intro verdict known
  obtain ⟨rule, -, judged⟩ := Rule.firstVerdict_eq_some_iff.1 known
  obtain rfl := Rule.marker_injective begins (Rule.marker_isPrefix_of_judge judged)
  cases verdict with
  | awaitsValue => cases (Rule.judge_eq_awaitsValue_iff.1 judged).1
  | reads switch =>
    cases Rule.judge_eq_reads_iff.1 judged with
    | @definition name value named first =>
      have rest : (("-D" : Text) ++ name ++ Rule.equalsSign :: value).drop Rule.definition.marker.length =
          name ++ Rule.equalsSign :: value := by
        rw [List.append_assoc]
        exact List.drop_left ..
      rw [IsIncomplete, rest] at incomplete
      rcases incomplete with absent | atOnce
      · exact absent (by simp)
      · obtain ⟨a, letters, rfl⟩ := List.exists_cons_of_ne_nil named
        have isSign : a = Rule.equalsSign := Option.some.inj atOnce
        exact first (by simp [isSign])

theorem ofUnknown_eq : ofUnknown token = if BeginsDefinition token then [.incompleteDefinition token] else [] :=
  if_congr Text.isSome_after?_iff rfl rfl

/-- An incomplete definition is scanned as one. -/
theorem scan_of_incomplete (begins : BeginsDefinition token) (incomplete : IsIncomplete token) :
    scan [token] = [.incompleteDefinition token] := by
  rw [scan_cons_of_unknown (firstVerdict_of_incomplete begins incomplete), ofUnknown_eq, if_pos begins]
  rfl

/-- A word that does not begin like a definition has nothing to do with one. -/
theorem scan_of_other (other : ¬ BeginsDefinition token) {switch : Switch} (found : switch ∈ scan [token]) :
    switch.definition? = none ∧ switch.notice? = none := by
  cases known : Rule.firstVerdict Rule.all token with
  | none =>
    rw [scan_cons_of_unknown known, ofUnknown_eq, if_neg other] at found
    cases found
  | some verdict =>
    obtain ⟨rule, -, judged⟩ := Rule.firstVerdict_eq_some_iff.1 known
    cases verdict with
    | awaitsValue =>
      obtain ⟨-, rfl⟩ := Rule.judge_eq_awaitsValue_iff.1 judged
      cases found
    | reads switch' =>
      have reads := Rule.judge_eq_reads_iff.1 judged
      rw [scan_cons_of_reads reads] at found
      obtain rfl := List.mem_singleton.1 found
      cases reads with
      | definition value named first => exact absurd (Rule.marker_isPrefix_of_judge judged) other
      | _ => exact ⟨rfl, rfl⟩

/-- The definition that a switch states, as a word. -/
def spelled? (switch : Switch) : Option Text := switch.definition?.map spelledDefinition

/-- The word that a switch leaves a record of, as a dropped definition. -/
def reported? (switch : Switch) : Option Text := switch.notice?.bind Notice.droppedWord?

theorem spelled?_ofSystemValue (value : Text) : spelled? (ofSystemValue value) = none := by
  rw [ofSystemValue]
  split <;> rfl

theorem reported?_ofSystemValue (value : Text) : reported? (ofSystemValue value) = none := by
  rw [ofSystemValue]
  split <;> rfl

/-- A word on its own is spelled out just when it states a definition. -/
theorem filterMap_spelled?_scan_singleton (token : Text) : (scan [token]).filterMap spelled? =
    [token].filter fun token => ¬ IsIncomplete token && BeginsDefinition token := by
  by_cases begins : BeginsDefinition token
  · by_cases incomplete : IsIncomplete token
    · rw [scan_of_incomplete begins incomplete, List.filter_cons_of_neg (by simp [incomplete])]
      rfl
    · obtain ⟨d, reads, spells⟩ := exists_reads_of_complete begins incomplete
      have found : spelled? (.definition d.1 d.2) = some token := congrArg some spells
      rw [scan_cons_of_reads reads, List.filterMap_cons_some found,
        List.filter_cons_of_pos (by simp [begins, incomplete])]
      rfl
  · rw [List.filter_cons_of_neg (by simp [begins]), List.filter_nil, List.filterMap_eq_nil_iff]
    intro switch found
    rw [spelled?, (scan_of_other begins found).1, Option.map_none]

/-- A word on its own is reported just when it is incomplete. -/
theorem filterMap_reported?_scan_singleton (token : Text) : (scan [token]).filterMap reported? =
    [token].filter fun token => IsIncomplete token && BeginsDefinition token := by
  by_cases begins : BeginsDefinition token
  · by_cases incomplete : IsIncomplete token
    · have reported : reported? (.incompleteDefinition token) = some token := Notice.droppedWord?_eq_some_iff.2 rfl
      rw [scan_of_incomplete begins incomplete, List.filterMap_cons_some reported,
        List.filter_cons_of_pos (by simp [begins, incomplete])]
      rfl
    · obtain ⟨d, reads, -⟩ := exists_reads_of_complete begins incomplete
      rw [scan_cons_of_reads reads, List.filter_cons_of_neg (by simp [incomplete])]
      rfl
  · rw [List.filter_cons_of_neg (by simp [begins]), List.filter_nil, List.filterMap_eq_nil_iff]
    intro switch found
    rw [reported?, (scan_of_other begins found).2, Option.bind_none]

end Word

/-- **No definition is lost.** Take the words of a command that begin like a definition and are no value of a flag.
There are as many of them as there are definitions found and records of dropped definitions together. The records
are, in order, of the words that have no equals sign or have it in front; the definitions state the others, in
order as well. -/
theorem definitions_and_reports (command : Text) :
    let words := (freeWords (Words.split command)).filter BeginsDefinition
    let definitions := (Categories.ofCommand command).definitions
    let reported := (notices command).filterMap Notice.droppedWord?
    definitions.length + reported.length = words.length ∧
      reported = words.filter (fun word => IsIncomplete word) ∧
      definitions.map spelledDefinition = words.filter (fun word => ¬ IsIncomplete word) := by
  intro words definitions reported
  have dropped : reported = words.filter (fun word => IsIncomplete word) := by
    have elsewhere : (Words.notices command).filterMap Notice.droppedWord? = [] := by
      rw [Words.notices]
      split <;> rfl
    have picked : reported = (scan (Words.split command)).filterMap reported? :=
      calc reported = (Words.notices command).filterMap Notice.droppedWord? ++
            ((ofCommand command).filterMap notice?).filterMap Notice.droppedWord? := List.filterMap_append
        _ = ((ofCommand command).filterMap notice?).filterMap Notice.droppedWord? := by rw [elsewhere, List.nil_append]
        _ = (scan (Words.split command)).filterMap reported? := List.filterMap_filterMap
    rw [picked, filterMap_scan reported?_ofSystemValue filterMap_reported?_scan_singleton, List.filter_filter]
  have stated : definitions.map spelledDefinition = words.filter (fun word => ¬ IsIncomplete word) := by
    have picked : definitions.map spelledDefinition = (scan (Words.split command)).filterMap spelled? :=
      List.map_filterMap
    rw [picked, filterMap_scan spelled?_ofSystemValue filterMap_spelled?_scan_singleton, List.filter_filter]
  refine ⟨?_, dropped, stated⟩
  have both := words.length_eq_length_filter_add fun word => decide (IsIncomplete word)
  have stated' : definitions.length = (words.filter fun word => ¬ IsIncomplete word).length := by
    rw [← stated, List.length_map]
  simp only [decide_not] at stated'
  rw [dropped]
  omega

example : (notices (("cc -isystem -DA -DB -D=2 -DC=x=y -isystem -isystem -DE" : String) : Text)).filterMap
    Notice.droppedWord? = ["-DB", "-D=2", "-DE"] := by decide +kernel

end Switch

end CompileDb
