import CompileDb.CommandLine.Session
import CompileDb.Proofs.Words.ShownLines

/-!
# What the output takes

The output takes the texts that there are bytes for, which are those without a surrogate that lacks its
partner (`Text.isSome_encode?_iff`). Neither quotation nor leaving out control sequences changes anything
about surrogates (`Words.isWhole_line`, `Text.isWhole_withoutSequences`), so a line of words can be written
exactly when its words can. Lines are written one after another up to the first that cannot (`forM_echo`).
-/

namespace CompileDb

namespace Text

/-- No surrogate in a text lacks its partner. -/
def IsWhole (t : Text) : Prop := ∀ a ∈ t, a.isIn (fun _ => true) = true

instance (t : Text) : Decidable t.IsWhole := inferInstanceAs (Decidable (∀ a ∈ t, _ = true))

theorem isWhole_append {t more : Text} : (t ++ more).IsWhole ↔ t.IsWhole ∧ more.IsWhole := List.forall_mem_append

theorem isWhole_cons {a : Letter} {t : Text} : IsWhole (a :: t) ↔ a.isIn (fun _ => true) = true ∧ t.IsWhole :=
  List.forall_mem_cons

theorem isWhole_ofString (s : String) : (ofString s).IsWhole := by
  intro a listed
  obtain ⟨c, -, rfl⟩ := List.mem_map.1 listed
  rfl

/-- There are bytes for exactly the texts without such a surrogate. -/
theorem isSome_encode?_iff {t : Text} : (Utf8.encode? t).isSome = true ↔ t.IsWhole := by
  induction t with
  | nil => simp [Utf8.encode?, IsWhole]
  | cons a t ih =>
    rw [isWhole_cons, ← ih]
    cases a with
    | char c => cases whole : List.mapM Utf8.bytesOf? t <;> simp [Utf8.encode?, Utf8.bytesOf?, Letter.isIn, whole]
    | lone s => simp [Utf8.encode?, Utf8.bytesOf?, Letter.isIn]

/-- Control sequences have no surrogate in them: dropping them neither removes nor adds one. -/
theorem isWhole_withoutSequences {t : Text} : (withoutSequences t).IsWhole ↔ t.IsWhole := by
  constructor
  · intro whole a listed
    -- A surrogate is in no control sequence, so it is not left out.
    cases a with
    | char c => rfl
    | lone s =>
      obtain ⟨front, back, rfl⟩ := List.append_of_mem listed
      rw [withoutSequences_append_cons (by simp [isInSequence, isParameter, Letter.isIn])] at whole
      exact whole (.lone s) (by simp)
  · intro whole a listed
    exact whole a ((withoutSequences_sublist t).subset listed)

end Text

namespace Words

theorem isWhole_quote {word : Text} : (quote word).IsWhole ↔ word.IsWhole := by
  have letter : ∀ a, (quotedLetter a).IsWhole ↔ a.isIn (fun _ => true) = true := by
    intro a
    unfold quotedLetter
    split
    · next mark =>
      subst mark
      exact iff_of_true (by decide) rfl
    · simp [Text.IsWhole]
  have letters : Text.IsWhole (word.flatMap quotedLetter) ↔ word.IsWhole := by
    simp only [Text.IsWhole, List.forall_mem_flatMap] at letter ⊢
    exact forall₂_congr fun a _ => letter a
  unfold quote
  split
  · rfl
  · rw [Text.isWhole_append, Text.isWhole_append, letters]
    exact ⟨fun whole => whole.1.2, fun whole => ⟨⟨by decide, whole⟩, by decide⟩⟩

/-- A line of words can be encoded when each of its words can. -/
theorem isWhole_line {words : List Text} : (line words).IsWhole ↔ ∀ word ∈ words, word.IsWhole := by
  induction words with
  | nil => exact iff_of_true (by decide) nofun
  | cons word words ih =>
    cases words with
    | nil =>
      rw [line_singleton, Text.isWhole_append, isWhole_quote, List.forall_mem_singleton]
      exact and_iff_left (by decide)
    | cons next words =>
      rw [line_cons_cons, Text.isWhole_append, Text.isWhole_cons, isWhole_quote, ih,
        List.forall_mem_cons (l := next :: words)]
      exact and_congr_right fun _ => and_iff_right rfl

end Words

namespace CommandLine

/-- A text that can be encoded is written, its control sequences left out. -/
theorem echo_of_isWhole {text : Text} (whole : text.IsWhole) : echo text = Outcome.display (echoed text) :=
  if_pos (Text.isSome_encode?_iff.2 (Text.isWhole_withoutSequences.2 whole))

/-- A text that cannot be encoded ends the command, and nothing of it is written. -/
theorem echo_of_not_isWhole {text : Text} (cut : ¬ text.IsWhole) :
    echo text = Outcome.fail (.unencodable (Text.withoutSequences text)) :=
  if_neg fun encodable => cut (Text.isWhole_withoutSequences.1 (Text.isSome_encode?_iff.1 encodable))

/-- There are bytes for the line that sums up a survey. -/
theorem isWhole_summaryLine (report : Survey.Report) : (summaryLine report).IsWhole := by
  simp only [summaryLine, Text.isWhole_append, Text.isWhole_ofString, and_self]

/-- Lines are written one after another up to the first for which there are no bytes. -/
theorem forM_echo {α : Type} (line : α → Text) (items : List α) :
    (items.forM fun a => echo (line a)) =
      ⟨{ events := (items.takeWhile fun a => (line a).IsWhole).map fun a => echoed (line a) },
        match items.dropWhile fun a => (line a).IsWhole with
        | [] => .ok ()
        | a :: _ => .error (.unencodable (Text.withoutSequences (line a)))⟩ := by
  induction items with
  | nil => rfl
  | cons a items ih =>
    have first : ((a :: items).forM fun a => echo (line a)) =
        echo (line a) >>= fun _ => items.forM fun a => echo (line a) :=
      rfl
    rw [first]
    by_cases whole : (line a).IsWhole
    · rw [echo_of_isWhole whole, Outcome.bind_ok rfl, ih]
      simp [whole]
      rfl
    · rw [echo_of_not_isWhole whole, Outcome.bind_error rfl]
      simp [whole]
      rfl

end CommandLine

end CompileDb
