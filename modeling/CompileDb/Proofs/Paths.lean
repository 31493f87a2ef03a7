import CompileDb.Path

/-!
# Paths and their texts

The text of a path names that path (`ofText_text`): between slashes the parts are found again
(`partsOf_intercalate`), and since no part begins with a slash, the slashes in front of them are
those of the anchor (`Anchor.ofText_append`). So different paths have different texts.

What can be a part occurs in the text of a path just where it occurs in some part
(`infix_text_iff`). Normal form drops nothing but slashes and the parts `.`, so it is all the same to look
for it in a text or in the path that the text names (`infix_text_ofText_iff`).
-/

namespace CompileDb

/-- A text that does not begin with a slash leaves the anchor in front of it as it is. -/
theorem Anchor.ofText_append {anchor : Anchor} {text : Text} (begins : text.head? ≠ some slash) :
    ofText (anchor.text ++ text) = anchor := by
  cases text with
  | nil => cases anchor <;> rfl
  | cons a text =>
    have other : a ≠ .char '/' := fun same => begins (by rw [same]; rfl)
    cases anchor <;> simp [Anchor.text, Text.ofString, Text.ofChars, ofText, other]

namespace Path

theorem partsOf_cons_slash (text : Text) : partsOf (slash :: text) = partsOf text := by
  rw [partsOf, partsOf, List.splitOnP_cons_eq_if_modifyHead, if_pos (by simp), List.filter_cons_of_neg (by decide)]

/-- The anchor's slashes are no parts. -/
theorem partsOf_anchor_append (anchor : Anchor) (text : Text) : partsOf (anchor.text ++ text) = partsOf text := by
  cases anchor with
  | relative => rfl
  | root => exact partsOf_cons_slash text
  | doubleRoot => exact (partsOf_cons_slash (slash :: text)).trans (partsOf_cons_slash text)

/-- Parts are found again between slashes. -/
theorem partsOf_intercalate {parts : List Text} (isPart : ∀ name ∈ parts, IsPart name) :
    partsOf (List.intercalate [slash] parts) = parts := by
  by_cases empty : parts = []
  · subst empty
    rfl
  · have cut : (List.intercalate [slash] parts).splitOnP (· == slash) = parts :=
      List.splitOn_intercalate slash (fun name listed => (isPart name listed).2.2) empty
    rw [partsOf, cut, List.filter_eq_self]
    intro name listed
    simp [(isPart name listed).1, (isPart name listed).2.1]

/-- Parts written one after the other begin with no slash. -/
theorem head?_intercalate_ne_slash {parts : List Text} (isPart : ∀ name ∈ parts, IsPart name) :
    (List.intercalate [slash] parts).head? ≠ some slash := by
  cases parts with
  | nil => simp
  | cons name rest =>
    obtain ⟨nonempty, -, noSlash⟩ := isPart name (by simp)
    obtain ⟨a, letters, rfl⟩ := List.exists_cons_of_ne_nil nonempty
    have other : a ≠ slash := fun same => noSlash (by simp [same])
    cases rest <;> simpa using other

theorem text_ne_nil (p : Path) : p.text ≠ [] := by
  rw [text]
  split
  · decide
  · next nonempty => exact nonempty

/-- **The text of a path names that path.** -/
theorem ofText_text (p : Path) : ofText p.text = p := by
  obtain ⟨anchor, parts, isPart⟩ := p
  have head := head?_intercalate_ne_slash isPart
  have inside := partsOf_intercalate isPart
  rw [text]
  split
  · next empty =>
    -- Only the path without anchor and parts has nothing to write.
    obtain ⟨noAnchor, noParts⟩ := List.append_eq_nil_iff.1 empty
    rw [noParts] at inside
    cases anchor with
    | relative =>
      obtain rfl : parts = [] := inside.symm
      rfl
    | root => cases noAnchor
    | doubleRoot => cases noAnchor
  · simp only [ofText, Anchor.ofText_append head, partsOf_anchor_append, inside]

/-- A path is known by its text. -/
theorem text_injective {p q : Path} (same : p.text = q.text) : p = q := by
  rw [← ofText_text p, same, ofText_text]

section Occurrence

variable {marker : Text}

/-- What holds no slash occurs on one side of a slash. -/
theorem infix_append_slash_iff (noSlash : slash ∉ marker) (before behind : Text) :
    marker <:+: before ++ slash :: behind ↔ marker <:+: before ∨ marker <:+: behind := by
  have empty : ∀ front : Text, slash ∉ front → front <+: slash :: behind → front = [] := by
    intro front free begins
    rcases List.prefix_cons_iff.1 begins with none | ⟨rest, rfl, -⟩
    · exact none
    · simp at free
  rw [List.infix_append_iff, List.infix_cons_iff]
  constructor
  · rintro (inside | (begins | inside) | ⟨first, last, rfl, ends, begins⟩)
    · exact .inl inside
    · rw [empty marker noSlash begins]
      exact .inl List.nil_infix
    · exact .inr inside
    · have nothing := empty last (fun listed => noSlash (List.mem_append_right first listed)) begins
      rw [nothing, List.append_nil]
      exact .inl ends.isInfix
  · rintro (inside | inside)
    · exact .inl inside
    · exact .inr (.inl (.inr inside))

theorem infix_intercalate_iff (isPart : IsPart marker) (names : List Text) :
    marker <:+: List.intercalate [slash] names ↔ ∃ name ∈ names, marker <:+: name := by
  induction names with
  | nil =>
    have nonempty : marker ≠ [] := isPart.1
    simpa using nonempty
  | cons name rest ih =>
    cases rest with
    | nil => simp
    | cons next rest =>
      have cut : List.intercalate [slash] (name :: next :: rest) =
          name ++ slash :: List.intercalate [slash] (next :: rest) := by simp
      rw [cut, infix_append_slash_iff isPart.2.2, ih]
      simp

/-- What can be a part does not occur in what leads nowhere. -/
theorem not_infix_of_idle (isPart : IsPart marker) {name : Text} (idle : name = "" ∨ name = ".") :
    ¬ marker <:+: name := by
  intro inside
  have short := inside.length_le
  rcases idle with rfl | rfl
  · exact isPart.1 (List.infix_nil.1 inside)
  · exact isPart.2.1 (inside.sublist.eq_of_length_le (List.length_pos_iff.2 isPart.1))

/-- A marker without slashes stands in a path's text when it stands in one of its parts. -/
theorem infix_text_iff (isPart : IsPart marker) (p : Path) :
    marker <:+: p.text ↔ ∃ name ∈ p.parts, marker <:+: name := by
  have anchored : marker <:+: p.anchor.text ++ List.intercalate [slash] p.parts ↔
      marker <:+: List.intercalate [slash] p.parts := by
    have step : ∀ text : Text, marker <:+: slash :: text ↔ marker <:+: text := by
      intro text
      have nonempty : marker ≠ [] := isPart.1
      have cut := infix_append_slash_iff isPart.2.2 [] text
      rw [List.nil_append, List.infix_nil] at cut
      rw [cut, or_iff_right nonempty]
    cases p.anchor with
    | relative => rfl
    | root => exact step _
    | doubleRoot => exact (step _).trans (step _)
  rw [← infix_intercalate_iff isPart, ← anchored, text]
  split
  · next empty =>
    rw [empty]
    exact iff_of_false (not_infix_of_idle isPart (.inr rfl)) (not_infix_of_idle isPart (.inl rfl))
  · rfl

/-- **Normal form neither makes nor loses an occurrence** of what can be a part. -/
theorem infix_text_ofText_iff (isPart : IsPart marker) (text : Text) :
    marker <:+: (ofText text).text ↔ marker <:+: text := by
  have whole : List.intercalate [slash] (text.splitOnP (· == slash)) = text := List.intercalate_splitOn slash
  have pieces := infix_intercalate_iff isPart (text.splitOnP (· == slash))
  rw [whole] at pieces
  rw [infix_text_iff isPart, pieces]
  constructor
  · rintro ⟨name, listed, inside⟩
    exact ⟨name, (List.mem_filter.1 listed).1, inside⟩
  · rintro ⟨name, listed, inside⟩
    refine ⟨name, List.mem_filter.2 ⟨listed, ?_⟩, inside⟩
    rw [Bool.and_eq_true, bne_iff_ne, bne_iff_ne]
    exact ⟨fun same => not_infix_of_idle isPart (.inl same) inside,
      fun same => not_infix_of_idle isPart (.inr same) inside⟩

end Occurrence

end Path

end CompileDb
