import CompileDb.Proofs.Words.Quotation
import Mathlib.Data.List.Induction
import Mathlib.Order.Basic

/-!
# The words of a command line are its stretches

A command line is cut at its gaps, the separators outside quotation. A stretch is a maximal run of
places without a gap, and its token is what stands there without delimiters. Nothing here follows
the reading letter by letter: gaps and tokens are told by `markAt`, the mark in front of a place.

`Progress` ties the two together. It says what a reading holds when it has come to the end of a
text: the tokens of the stretches that a gap has closed, and what has been read of the last one.
-/

namespace CompileDb.Words

/-- The mark of the quotation that is open in front of a place. -/
def markAt (text : Text) (i : Nat) : Option Letter := (text.take i).foldl markAfter none

/-- A separator outside quotation stands at a place. -/
def IsGap (text : Text) (i : Nat) : Prop := ∃ a, text[i]? = some a ∧ breaks (markAt text i) a = true

/-- The places from `i` up to `j` are a maximal run without a gap. -/
structure IsStretch (text : Text) (i j : Nat) : Prop where
  nonempty : i < j
  inside : j ≤ text.length
  unbroken : ∀ k, i ≤ k → k < j → ¬ IsGap text k
  left : i = 0 ∨ IsGap text (i - 1)
  right : j = text.length ∨ IsGap text j

/-- The letters between two places. -/
def between (text : Text) (span : Nat × Nat) : Text := (text.take span.2).drop span.1

/-- What stands between two places, without the letters that open or close a quotation. -/
def token (text : Text) (span : Nat × Nat) : Text := unquoted (markAt text span.1) (between text span)

/-- A text of quotations with nothing in them, one after another. -/
def IsEmptyQuotations (text : Text) : Prop :=
  ∃ marks : List Letter, (∀ m ∈ marks, isMark m = true) ∧ text = marks.flatMap fun m => [m, m]

/-- The mark at a place depends on the letters before it. -/
theorem markAt_append {text : Text} {i : Nat} (inside : i ≤ text.length) (rest : Text) :
    markAt (text ++ rest) i = markAt text i := by
  rw [markAt, markAt, List.take_append_of_le_length inside]

theorem markAt_length (text : Text) : markAt text text.length = text.foldl markAfter none := by
  rw [markAt, List.take_length]

/-- One letter further, the mark is the one after that letter. -/
theorem markAt_succ {text : Text} {i : Nat} {a : Letter} (here : text[i]? = some a) :
    markAt text (i + 1) = markAfter (markAt text i) a := by
  rw [markAt, markAt, List.take_add_one, here, List.foldl_append]
  rfl

theorem markAt_snoc_length (text : Text) (a : Letter) :
    markAt (text ++ [a]) (text ++ [a]).length = markAfter (markAt text text.length) a := by
  rw [markAt_length, markAt_length, List.foldl_append]
  rfl

theorem read_snoc (text : Text) (a : Letter) : read (text ++ [a]) = (read text).step a := by
  rw [read, List.foldl_append]
  rfl

theorem IsGap.lt_length {text : Text} {i : Nat} (gap : IsGap text i) : i < text.length := by
  obtain ⟨a, here, -⟩ := gap
  exact (List.getElem?_eq_some_iff.1 here).1

theorem IsGap.markAt_eq_none {text : Text} {i : Nat} (gap : IsGap text i) :
    markAt text i = none ∧ markAt text (i + 1) = none := by
  obtain ⟨a, here, ends⟩ := gap
  rw [markAt_succ here]
  exact markAfter_of_breaks ends

/-- Whether a letter is a gap does not depend on what follows it. -/
theorem isGap_append {text : Text} {i : Nat} (inside : i < text.length) (rest : Text) :
    IsGap (text ++ rest) i ↔ IsGap text i := by
  unfold IsGap
  rw [List.getElem?_append_left inside, markAt_append (Nat.le_of_lt inside)]

/-- The last letter is a gap when it ends a word. -/
theorem isGap_snoc {text : Text} {a : Letter} :
    IsGap (text ++ [a]) text.length ↔ breaks (markAt text text.length) a = true := by
  simp [IsGap, markAt_append]

/-- A gap of a longer text is a gap of the text, or the letter behind it. -/
theorem isGap_snoc_cases {text : Text} {a : Letter} {k : Nat} (gap : IsGap (text ++ [a]) k) :
    IsGap text k ∨ k = text.length := by
  have bound := gap.lt_length
  rw [List.length_append, List.length_singleton] at bound
  rcases Nat.lt_succ_iff_lt_or_eq.1 bound with before | last
  · exact .inl ((isGap_append before [a]).1 gap)
  · exact .inr last

/-- No quotation is open at the beginning of a text or behind a gap. -/
theorem markAt_of_edge {text : Text} {i : Nat} (edge : i = 0 ∨ IsGap text (i - 1)) : markAt text i = none := by
  cases i with
  | zero => rfl
  | succ i =>
    rcases edge with zero | gap
    · cases zero
    · exact gap.markAt_eq_none.2

theorem IsStretch.markAt_left {text : Text} {i j : Nat} (stretch : IsStretch text i j) : markAt text i = none :=
  markAt_of_edge stretch.left

theorem IsStretch.markAt_right {text : Text} {i j : Nat} (stretch : IsStretch text i j)
    (outside : markAt text text.length = none) : markAt text j = none := by
  rcases stretch.right with rfl | gap
  · exact outside
  · exact gap.markAt_eq_none.1

/-- The letters between two places lead from the mark in front of them to the mark behind them. -/
theorem foldl_between {text : Text} {i j : Nat} (outside : markAt text i = none) (proper : i ≤ j) :
    (between text (i, j)).foldl markAfter none = markAt text j := by
  have first : (text.take j).take i = text.take i := by rw [List.take_take, Nat.min_eq_left (by omega)]
  calc (between text (i, j)).foldl markAfter none
      = (between text (i, j)).foldl markAfter ((text.take i).foldl markAfter none) := by
        rw [← markAt, outside]
    _ = ((text.take j).take i ++ (text.take j).drop i).foldl markAfter none := by
        rw [first, List.foldl_append, between]
    _ = markAt text j := by rw [List.take_append_drop, markAt]

theorem token_append {text : Text} {span : Nat × Nat} (proper : span.1 < span.2)
    (inside : span.2 ≤ text.length) (rest : Text) : token (text ++ rest) span = token text span := by
  rw [token, token, between, between, markAt_append (by omega), List.take_append_of_le_length inside]

theorem map_token_append {text : Text} {spans : List (Nat × Nat)}
    (stretches : ∀ s ∈ spans, IsStretch text s.1 s.2) (rest : Text) :
    spans.map (token (text ++ rest)) = spans.map (token text) := by
  apply List.map_congr_left
  intro s listed
  exact token_append (stretches s listed).nonempty (stretches s listed).inside rest

/-- Whether a stretch is one depends on the gaps up to its end alone. -/
theorem IsStretch.transfer {s t : Text} {i j : Nat} (stretch : IsStretch s i j)
    (same : ∀ k, k < j → (IsGap s k ↔ IsGap t k)) (inside : j ≤ t.length)
    (right : j = t.length ∨ IsGap t j) : IsStretch t i j := by
  have proper := stretch.nonempty
  refine ⟨proper, inside, ?_, stretch.left.imp_right (same (i - 1) (by omega)).1, right⟩
  intro k low high gap
  exact stretch.unbroken k low high ((same k high).2 gap)

/-- The stretches that a gap follows stay the same when the text goes on. -/
theorem closed_append {text : Text} {i j : Nat} (before : j < text.length) (rest : Text) :
    IsStretch (text ++ rest) i j ∧ IsGap (text ++ rest) j ↔ IsStretch text i j ∧ IsGap text j := by
  rw [isGap_append before]
  apply and_congr_left
  intro gap
  have same : ∀ k, k < j → (IsGap (text ++ rest) k ↔ IsGap text k) :=
    fun k lt => isGap_append (by omega) rest
  constructor
  · intro stretch
    exact stretch.transfer same (by omega) (.inr gap)
  · intro stretch
    refine stretch.transfer (fun k lt => (same k lt).symm) ?_ (.inr ((isGap_append before rest).2 gap))
    rw [List.length_append]
    omega

/-- A gap behind a text closes all its stretches. -/
theorem closed_snoc_of_gap {text : Text} {a : Letter} (gap : IsGap (text ++ [a]) text.length) {i j : Nat} :
    IsStretch (text ++ [a]) i j ∧ IsGap (text ++ [a]) j ↔ IsStretch text i j := by
  constructor
  · rintro ⟨stretch, closing⟩
    have bound := closing.lt_length
    rw [List.length_append, List.length_singleton] at bound
    apply stretch.transfer (fun k lt => isGap_append (by omega) [a]) (by omega)
    exact (isGap_snoc_cases closing).symm
  · intro stretch
    have inside := stretch.inside
    have closing : IsGap (text ++ [a]) j := by
      rcases stretch.right with last | inner
      · rw [last]
        exact gap
      · exact (isGap_append inner.lt_length [a]).2 inner
    refine ⟨stretch.transfer (fun k lt => (isGap_append (by omega) [a]).symm) ?_ (.inr closing), closing⟩
    rw [List.length_append]
    omega

/-- How far a reading has come at the end of a text: `spans` are the stretches that a gap has closed,
and the last stretch begins at `start`. -/
structure Progress (text : Text) (spans : List (Nat × Nat)) (start : Nat) : Prop where
  start_le : start ≤ text.length
  edge : start = 0 ∨ IsGap text (start - 1)
  unbroken : ∀ k, start ≤ k → ¬ IsGap text k
  closed : ∀ s, s ∈ spans ↔ IsStretch text s.1 s.2 ∧ IsGap text s.2
  ordered : spans.Pairwise fun s t => s.2 < t.1
  reading : read text =
    { finished := (spans.map (token text)).reverse
      word := if start = text.length then none else some (unquoted none (text.drop start)).reverse
      mark := markAt text text.length }

namespace Progress

variable {text : Text} {spans : List (Nat × Nat)} {start : Nat}

theorem nil : Progress [] [] 0 := by
  refine ⟨Nat.le_refl 0, .inl rfl, ?_, ?_, .nil, rfl⟩
  · intro k _ gap
    exact absurd gap.lt_length (Nat.not_lt_zero k)
  · intro s
    constructor
    · intro listed
      simp at listed
    · intro closed
      exact absurd closed.2.lt_length (Nat.not_lt_zero s.2)

theorem markAt_start (p : Progress text spans start) : markAt text start = none := markAt_of_edge p.edge

theorem mark_read (p : Progress text spans start) : (read text).mark = markAt text text.length := by
  rw [p.reading]

/-- A quotation is open only behind the beginning of the last stretch. -/
theorem word_of_mark (p : Progress text spans start) (quoted : (read text).mark.isSome) :
    (read text).word.isSome := by
  rw [p.mark_read] at quoted
  rw [p.reading]
  by_cases fresh : start = text.length
  · rw [← fresh, p.markAt_start] at quoted
    cases quoted
  · simp [fresh]

theorem foldl_markAfter_drop (p : Progress text spans start) :
    (text.drop start).foldl markAfter none = markAt text text.length := by
  have whole : between text (start, text.length) = text.drop start := by rw [between, List.take_length]
  rw [← whole, foldl_between p.markAt_start p.start_le]

/-- All stretches of the text: those that are closed, and the last one when it has begun. -/
def stretches (text : Text) (spans : List (Nat × Nat)) (start : Nat) : List (Nat × Nat) :=
  spans ++ if start = text.length then [] else [(start, text.length)]

/-- A stretch that no gap closes is the one that begins at `start`. -/
theorem isStretch_iff (p : Progress text spans start) {i j : Nat} :
    IsStretch text i j ↔
      IsStretch text i j ∧ IsGap text j ∨ i = start ∧ j = text.length ∧ start ≠ text.length := by
  constructor
  · intro s
    have proper := s.nonempty
    have bound := p.start_le
    rcases s.right with rfl | gap
    · -- neither edge of the two can lie behind the other, for a gap stands directly before it
      have first : i = start := by
        rcases Nat.lt_trichotomy i start with lt | same | gt
        · rcases p.edge with zero | gap
          · omega
          · exact absurd gap (s.unbroken (start - 1) (by omega) (by omega))
        · exact same
        · rcases s.left with zero | gap
          · omega
          · exact absurd gap (p.unbroken (i - 1) (by omega))
      exact .inr ⟨first, rfl, by omega⟩
    · exact .inl ⟨s, gap⟩
  · rintro (⟨s, -⟩ | ⟨rfl, rfl, begun⟩)
    · exact s
    · have bound := p.start_le
      exact ⟨by omega, Nat.le_refl _, fun k lo _ => p.unbroken k lo, p.edge, .inl rfl⟩

/-- The spans a reading has gone through are the stretches of the text. -/
theorem mem_stretches (p : Progress text spans start) {s : Nat × Nat} :
    s ∈ stretches text spans start ↔ IsStretch text s.1 s.2 := by
  obtain ⟨i, j⟩ := s
  rw [p.isStretch_iff, stretches, List.mem_append, p.closed]
  apply or_congr_right
  split
  · next done => simp [done]
  · next begun => simp [begun]

/-- The stretches of a reading come in order, with a gap between any two. -/
theorem pairwise_stretches (p : Progress text spans start) :
    (stretches text spans start).Pairwise fun s t => s.2 < t.1 := by
  rw [stretches, List.pairwise_append]
  refine ⟨p.ordered, by split <;> simp, ?_⟩
  intro s closed t last
  have gap := ((p.closed s).1 closed).2
  have before : s.2 < start := by
    by_contra late
    exact p.unbroken s.2 (by omega) gap
  split at last
  · simp at last
  · rw [List.mem_singleton.1 last]
    exact before

/-- Finishing the reading yields the words of the stretches. -/
theorem finish_reading (p : Progress text spans start) :
    (read text).finish = { finished := ((stretches text spans start).map (token text)).reverse
                           mark := markAt text text.length } := by
  rw [p.reading, Reading.finish, stretches]
  by_cases fresh : start = text.length
  · simp [fresh]
  · simp [fresh, token, between, p.markAt_start]

/-- A gap closes the last stretch. -/
theorem snoc_gap (p : Progress text spans start) {a : Letter} (gap : IsGap (text ++ [a]) text.length) :
    Progress (text ++ [a]) (stretches text spans start) (text.length + 1) := by
  have ends : breaks (markAt text text.length) a = true := isGap_snoc.1 gap
  refine ⟨by simp, .inr gap, ?_, ?_, p.pairwise_stretches, ?_⟩
  · intro k late early
    have bound := early.lt_length
    rw [List.length_append, List.length_singleton] at bound
    omega
  · intro s
    rw [p.mem_stretches, closed_snoc_of_gap gap]
  · have tokens := map_token_append (fun s listed => p.mem_stretches.1 listed) [a]
    have still : markAfter (markAt text text.length) a = markAt text text.length := by
      obtain ⟨before, behind⟩ := markAfter_of_breaks ends
      rw [behind, before]
    rw [read_snoc, Reading.step_of_breaks (by rw [p.mark_read]; exact ends), p.finish_reading, tokens,
      markAt_snoc_length, still]
    simp

/-- Any other letter belongs to the last stretch. -/
theorem snoc_letter (p : Progress text spans start) {a : Letter}
    (letter : ¬ IsGap (text ++ [a]) text.length) : Progress (text ++ [a]) spans start := by
  have goesOn : breaks (markAt text text.length) a = false := by simpa using isGap_snoc.not.1 letter
  have bound := p.start_le
  have before : ∀ k, IsGap (text ++ [a]) k → IsGap text k := by
    intro k gap
    rcases isGap_snoc_cases gap with before | rfl
    · exact before
    · exact absurd gap letter
  refine ⟨by rw [List.length_append]; omega, ?_, ?_, ?_, p.ordered, ?_⟩
  · exact p.edge.imp_right fun gap => (isGap_append gap.lt_length [a]).2 gap
  · intro k late gap
    exact p.unbroken k late (before k gap)
  · intro s
    rw [p.closed]
    constructor
    · intro closed
      exact (closed_append closed.2.lt_length [a]).2 closed
    · intro closed
      exact (closed_append (before s.2 closed.2).lt_length [a]).1 closed
  · have tokens := map_token_append (fun s listed => ((p.closed s).1 listed).1) [a]
    have segment : unquoted none ((text ++ [a]).drop start) =
        unquoted none (text.drop start) ++ unquoted (markAt text text.length) [a] := by
      rw [List.drop_append_of_le_length bound, unquoted_append, p.foldl_markAfter_drop]
    have ongoing : start ≠ (text ++ [a]).length := by
      rw [List.length_append, List.length_singleton]
      omega
    rw [read_snoc, Reading.step_of_not_breaks (by rw [p.mark_read]; exact goesOn) p.word_of_mark, p.mark_read,
      tokens, markAt_snoc_length, segment, if_neg ongoing, List.reverse_append, reverse_unquoted_singleton,
      p.reading]
    by_cases fresh : start = text.length
    · simp [fresh, unquoted]
    · simp [fresh]

end Progress

/-- Every text is read with some progress, letter by letter. -/
theorem exists_progress (text : Text) : ∃ spans start, Progress text spans start := by
  induction text using List.reverseRecOn with
  | nil => exact ⟨[], 0, .nil⟩
  | append_singleton text a ih =>
    obtain ⟨spans, start, p⟩ := ih
    by_cases gap : IsGap (text ++ [a]) text.length
    · exact ⟨_, _, p.snoc_gap gap⟩
    · exact ⟨_, _, p.snoc_letter gap⟩

/-- Nothing is left of a text without its delimiters iff it is made of empty quotations. -/
theorem unquoted_eq_nil_iff {text : Text} (closed : text.foldl markAfter none = none) :
    unquoted none text = [] ↔ IsEmptyQuotations text := by
  constructor
  · intro empty
    match text, closed, empty with
    | [], _, _ => exact ⟨[], by simp, rfl⟩
    | [a], closed, empty =>
      cases quotes : isMark a <;> simp [unquoted, delimits, markAfter, quotes] at closed empty
    | a :: b :: rest, closed, empty =>
      cases quotes : isMark a with
      | false => simp [unquoted, delimits, quotes] at empty
      | true =>
        by_cases same : b = a
        · subst same
          simp [unquoted, delimits, markAfter, quotes] at closed empty
          obtain ⟨marks, opening, rfl⟩ := (unquoted_eq_nil_iff closed).1 empty
          exact ⟨b :: marks, by simpa [quotes] using opening, rfl⟩
        · simp [unquoted, delimits, markAfter, quotes, same] at empty
  · rintro ⟨marks, opening, rfl⟩
    clear closed
    induction marks with
    | nil => rfl
    | cons m marks ih =>
      have quotes := opening m (by simp)
      have rest := ih fun n listed => opening n (by simp [listed])
      simp [unquoted, delimits, markAfter, quotes, rest]

/-- **A command line is cut into its stretches.** It falls back to blanks exactly when it ends inside
a quotation. Otherwise its words are the tokens of its stretches, in their order, and a word is empty
exactly when its stretch consists of empty quotations. -/
theorem split_eq_tokens_of_stretches (command : Text) :
    (split? command = none ↔ markAt command command.length ≠ none) ∧
    (markAt command command.length ≠ none → split command = Text.blankWords command) ∧
    ∃ spans : List (Nat × Nat), (∀ s, s ∈ spans ↔ IsStretch command s.1 s.2) ∧
      spans.Pairwise (fun s t => s.2 < t.1) ∧
      (markAt command command.length = none →
        split command = spans.map (token command) ∧
        ∀ s ∈ spans, token command s = [] ↔ IsEmptyQuotations (between command s)) := by
  have fails : split? command = none ↔ markAt command command.length ≠ none := by
    rw [markAt_length]
    exact split?_eq_none_iff
  refine ⟨fails, ?_, ?_⟩
  · intro quoted
    rw [split, fails.2 quoted, Option.getD_none]
  · obtain ⟨spans, start, p⟩ := exists_progress command
    refine ⟨Progress.stretches command spans start, fun s => p.mem_stretches, p.pairwise_stretches, ?_⟩
    intro outside
    constructor
    · have mark : (read command).mark = none := p.mark_read.trans outside
      rw [split, split?, Reading.words?, mark, p.finish_reading]
      simp
    · intro s listed
      have stretch := p.mem_stretches.1 listed
      rw [token, stretch.markAt_left]
      apply unquoted_eq_nil_iff
      rw [foldl_between stretch.markAt_left (Nat.le_of_lt stretch.nonempty), stretch.markAt_right outside]

theorem split_eq_tokens_of_stretches_mixed :
    let command : Text := "-I'a b'\"'\" '' \\x"
    markAt command command.length = none ∧
      ∃ spans : List (Nat × Nat), (∀ s, s ∈ spans ↔ IsStretch command s.1 s.2) ∧
        spans.Pairwise (fun s t => s.2 < t.1) ∧ split command = spans.map (token command) ∧
        ∀ s ∈ spans, token command s = [] ↔ IsEmptyQuotations (between command s) := by
  intro command
  have outside : markAt command command.length = none := by decide
  obtain ⟨spans, stretches, ordered, words⟩ := (split_eq_tokens_of_stretches command).2.2
  exact ⟨outside, spans, stretches, ordered, words outside⟩

example : split ("-I'a b'\"'\" '' \\x" : Text) = ([.ofString "-Ia b'", .ofString "", .ofString "\\x"] : List Text) := by
  decide

end CompileDb.Words
