import CompileDb.Proofs.Paths
import CompileDb.Proofs.Survey.Agreement

/-!
# Where the source of a recipe is

A path that is seen from a directory is the one whose text is that of the directory with the text of the path
behind it, and a slash between them where there is none yet (`Path.ofText_joined`). Behind a slash the parts are
counted anew (`Path.partsOf_append_slash`), and the slashes in front, which tell the anchor, stay those of the
directory (`leadingSlashes_append`). So the source of a recipe can be told from the two texts that an entry gives,
and the text that the index is called with names that source and no other (`anchoredSource_of_texts`).
-/

namespace CompileDb

/-- The slashes that a text begins with. -/
def leadingSlashes (text : Text) : Text := text.takeWhile (· == slash)

theorem leadingSlashes_slash_cons (text : Text) : leadingSlashes (slash :: text) = slash :: leadingSlashes text := by
  simp [leadingSlashes]

/-- Only a text that opens with a slash has leading ones. -/
theorem leadingSlashes_eq_nil_iff {text : Text} : leadingSlashes text = [] ↔ text.head? ≠ some slash := by
  cases text with
  | nil => simp [leadingSlashes]
  | cons a rest => by_cases same : a = slash <;> simp [leadingSlashes, same]

/-- What stands behind a letter that is no slash, or begins with one, has no part in the slashes in front. -/
theorem leadingSlashes_append {front rest : Text} (stops : rest.head? ≠ some slash ∨ ∃ a ∈ front, a ≠ slash) :
    leadingSlashes (front ++ rest) = leadingSlashes front := by
  induction front with
  | nil => exact leadingSlashes_eq_nil_iff.2 (stops.resolve_right (by simp))
  | cons a front ih =>
    by_cases same : a = slash
    · subst same
      rw [List.cons_append, leadingSlashes_slash_cons, leadingSlashes_slash_cons, ih (by simpa using stops)]
    · rw [leadingSlashes_eq_nil_iff.2 (by simpa using same), leadingSlashes_eq_nil_iff.2 (by simpa using same)]

namespace Anchor

/-- The anchor of a text with a number of slashes in front. Two are a root of their own, and more than two are no
more than one. -/
def ofSlashes : Nat → Anchor
  | 0 => relative
  | 2 => doubleRoot
  | _ => root

/-- A path's anchor depends on how many slashes its text begins with, and nothing else. -/
theorem ofText_eq_ofSlashes (text : Text) : ofText text = ofSlashes (leadingSlashes text).length := by
  have ends : ∀ {rest : Text}, (∀ rest', rest = .char '/' :: rest' → False) → leadingSlashes rest = [] := by
    intro rest none
    rw [leadingSlashes_eq_nil_iff]
    intro begins
    obtain ⟨rest', same⟩ := List.head?_eq_some_iff.1 begins
    exact none rest' same
  unfold ofText
  split
  · next rest =>
    change _ = ofSlashes (leadingSlashes (slash :: slash :: slash :: rest)).length
    simp only [leadingSlashes_slash_cons, List.length_cons]
    rfl
  · next rest two =>
    change _ = ofSlashes (leadingSlashes (slash :: slash :: rest)).length
    rw [leadingSlashes_slash_cons, leadingSlashes_slash_cons, ends two]
    rfl
  · next rest _ one =>
    change _ = ofSlashes (leadingSlashes (slash :: rest)).length
    rw [leadingSlashes_slash_cons, ends one]
    rfl
  · next none =>
    rw [ends none]
    rfl

end Anchor

namespace Path

variable {p q : Path}

theorem ext_parts (anchor : p.anchor = q.anchor) (parts : p.parts = q.parts) : p = q := by
  cases p
  cases q
  cases anchor
  cases parts
  rfl

/-- An absolute path replaces the one it is joined to. -/
theorem join_of_isAbsolute (absolute : q.isAbsolute = true) : p / q = q := if_pos absolute

/-- A relative path adds its parts to the one it is joined to. -/
theorem join_of_relative (relative : q.isAbsolute = false) : p / q = ⟨p.anchor, p.parts ++ q.parts, fun name h =>
    (List.mem_append.1 h).elim (p.isPart_of_mem name) (q.isPart_of_mem name)⟩ :=
  if_neg (by simp [relative])

theorem anchor_join (relative : q.isAbsolute = false) : (p / q).anchor = p.anchor := by rw [join_of_relative relative]

theorem parts_join (relative : q.isAbsolute = false) : (p / q).parts = p.parts ++ q.parts := by
  rw [join_of_relative relative]

theorem isAbsolute_join (p q : Path) : (p / q).isAbsolute = (p.isAbsolute || q.isAbsolute) := by
  cases absolute : q.isAbsolute with
  | true => rw [join_of_isAbsolute absolute, absolute, Bool.or_true]
  | false => rw [isAbsolute, anchor_join absolute, Bool.or_false, isAbsolute]

/-- A path is absolute when its text opens with a slash. -/
theorem isAbsolute_ofText_iff {text : Text} : (ofText text).isAbsolute = true ↔ text.head? = some slash := by
  have anchor : (ofText text).anchor = Anchor.ofSlashes (leadingSlashes text).length := Anchor.ofText_eq_ofSlashes text
  rw [isAbsolute, anchor, bne_iff_ne]
  by_cases begins : text.head? = some slash
  · obtain ⟨rest, rfl⟩ := List.head?_eq_some_iff.1 begins
    rw [leadingSlashes_slash_cons]
    refine iff_of_true ?_ begins
    cases leadingSlashes rest with
    | nil => decide
    | cons a more => cases more <;> simp [Anchor.ofSlashes]
  · rw [leadingSlashes_eq_nil_iff.2 begins]
    exact iff_of_false (by simp [Anchor.ofSlashes]) begins

/-- Parts are counted anew behind a slash. -/
theorem partsOf_append_slash (front rest : Text) :
    partsOf (front ++ slash :: rest) = partsOf front ++ partsOf rest := by
  rw [partsOf, List.splitOnP_append_cons _ _ (by simp), List.filter_append]
  rfl

/-- The text of a path that is seen from a directory, told by the two texts alone. -/
def joined (directory file : Text) : Text :=
  if file.head? = some slash then file
  else if directory = [] ∨ directory.getLast? = some slash then directory ++ file
  else directory ++ slash :: file

section Relative

variable {file : Text} (relative : file.head? ≠ some slash)
include relative

/-- Joining texts joins the parts. -/
theorem partsOf_joined (directory : Text) : partsOf (joined directory file) = partsOf directory ++ partsOf file := by
  rw [joined, if_neg relative]
  split
  · next done =>
    rcases done with rfl | ends
    · rfl
    · obtain ⟨front, rfl⟩ := List.getLast?_eq_some_iff.1 ends
      rw [List.append_assoc, List.singleton_append, partsOf_append_slash, partsOf_append_slash, List.append_assoc]
      rfl
  · exact partsOf_append_slash directory file

/-- Joining texts keeps the slashes the directory begins with. -/
theorem leadingSlashes_joined (directory : Text) :
    leadingSlashes (joined directory file) = leadingSlashes directory := by
  rw [joined, if_neg relative]
  split
  · exact leadingSlashes_append (.inl relative)
  · next unfinished =>
    obtain ⟨nonempty, ends⟩ := not_or.1 unfinished
    have last : directory.getLast? = some (directory.getLast nonempty) := List.getLast?_eq_some_getLast nonempty
    exact leadingSlashes_append (.inr ⟨_, List.getLast_mem nonempty, fun same => ends (same ▸ last)⟩)

end Relative

/-- **Seen from a directory is written behind it.** -/
theorem ofText_joined (directory file : Text) : ofText (joined directory file) = ofText directory / ofText file := by
  by_cases absolute : file.head? = some slash
  · rw [join_of_isAbsolute (isAbsolute_ofText_iff.2 absolute), joined, if_pos absolute]
  · have relative : (ofText file).isAbsolute = false := by
      rw [← Bool.not_eq_true, isAbsolute_ofText_iff]
      exact absolute
    apply ext_parts
    · rw [anchor_join relative]
      change Anchor.ofText _ = Anchor.ofText _
      rw [Anchor.ofText_eq_ofSlashes, Anchor.ofText_eq_ofSlashes, leadingSlashes_joined absolute]
    · rw [parts_join relative]
      exact partsOf_joined absolute directory

end Path

/-- The library is asked about the text of the source it is given. -/
theorem Index.source_of_mem_calls {index : Index} {disk : Disk} {source : Path} {arguments : Option (List Text)}
    {call : Call} (called : call ∈ (index.parse disk source arguments).trace.calls) : call.source = source.text := by
  have ends := index.parseEnds disk source arguments
  generalize index.parse disk source arguments = outcome at ends called
  cases ends with
  | refused => rw [List.mem_singleton.1 called]
  | parsed => rw [List.mem_singleton.1 called]
  | _ => cases called

namespace Recipe

theorem anchoredSource_eq (r : Recipe) : r.anchoredSource = r.directory / r.source := by
  rw [anchoredSource]
  split
  · next absolute => rw [Path.join_of_isAbsolute absolute]
  · rfl

/-- **The source of a recipe is what its entry writes behind its directory.** It is the source seen from the
directory, whether the source is absolute or not, and is named by the two texts put together. It is absolute iff
one of the two is; when the source is not, it has the anchor of the directory and first the parts of the directory,
then its own. It is written so that the text names it again, by a dot only when it leads nowhere, and this is the
text that the index is called with. -/
theorem anchoredSource_of_texts (recipe : Recipe) (directory source : Text) :
    let r : Recipe := { recipe with directory := .ofText directory, source := .ofText source }
    r.anchoredSource = r.directory / r.source ∧
    r.anchoredSource = .ofText (Path.joined directory source) ∧
    (r.anchoredSource.isAbsolute = true ↔ r.directory.isAbsolute = true ∨ r.source.isAbsolute = true) ∧
    (r.source.isAbsolute = false →
      r.anchoredSource.anchor = r.directory.anchor ∧
      r.directory.anchor = .ofSlashes (leadingSlashes directory).length ∧
      r.anchoredSource.parts = r.directory.parts ++ r.source.parts) ∧
    .ofText r.anchoredSource.text = r.anchoredSource ∧
    (r.anchoredSource.text = "." ↔ r.anchoredSource = .here) ∧
    ∀ plan : Survey.Plan, ∀ call ∈ (plan.examine r).trace.calls, .ofText call.source = r.anchoredSource := by
  intro r
  have seen := r.anchoredSource_eq
  refine ⟨seen, ?_, ?_, ?_, Path.ofText_text _, ?_, ?_⟩
  · rw [seen, Path.ofText_joined]
  · rw [seen, Path.isAbsolute_join, Bool.or_eq_true]
  · intro relative
    rw [seen]
    exact ⟨Path.anchor_join relative, Anchor.ofText_eq_ofSlashes directory, Path.parts_join relative⟩
  · constructor
    · intro dot
      rw [← Path.ofText_text r.anchoredSource, dot]
      rfl
    · intro nowhere
      rw [nowhere]
      rfl
  · intro plan call called
    rw [Survey.calls_examine] at called
    rw [Index.source_of_mem_calls called, Path.ofText_text]

example : Recipe.anchoredSource { directory := .ofText "//srv/./a/", source := .ofText "..//x.c" } =
    ⟨.doubleRoot, ["srv", "a", "..", "x.c"], by decide⟩ := by decide

end Recipe

end CompileDb
