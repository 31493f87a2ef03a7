import CompileDb.Proofs.Recipe.Soundness
import Mathlib.Data.Nat.Find

/-!
# Which words decide a recipe

What a category finds in a command is found at places, in their order
(`Switch.exists_found_of_category`). From the places follows what a recipe makes of several switches of
one kind: of the words that ask for one warning the first counts (`Recipe.pairwise_warnings`), and of the
words that name a standard the first as well (`Recipe.standard_ofEntry`).
-/

namespace CompileDb

namespace Switch

/-- What a category finds in a command, with the places of the words that contribute it. -/
theorem exists_found_of_category (command : Text) {α : Type} {category : Switch → Option α} {state : α → Switch}
    (only : ∀ switch a, category switch = some a ↔ switch = state a) (kept : ∀ a, isKept (state a) = true) :
    ∃ found : List (Nat × α), found.Pairwise (fun f g => f.1 < g.1) ∧
      (∀ i a, (i, a) ∈ found ↔ Contributes (Words.split command) i (state a)) ∧
      (ofCommand command).filterMap category = found.map Prod.snd := by
  obtain ⟨switches, finds, scanned⟩ := exists_finds_scan (Words.split command) [] (not_isValue_zero _)
  refine ⟨switches.filterMap fun f => (category f.2).map fun a => (f.1, a), ?_, ?_, ?_⟩
  · apply finds.ordered.filterMap
    intro f g before f' hf g' hg
    obtain ⟨a, -, rfl⟩ := Option.map_eq_some_iff.1 hf
    obtain ⟨b, -, rfl⟩ := Option.map_eq_some_iff.1 hg
    exact before
  · intro i a
    rw [List.mem_filterMap]
    constructor
    · rintro ⟨⟨j, switch⟩, listed, same⟩
      obtain ⟨b, found, same⟩ := Option.map_eq_some_iff.1 same
      cases same
      obtain rfl := (only switch a).1 found
      exact ((finds.mem_iff _ (state a)).1 listed).2
    · intro contributes
      exact ⟨(i, state a), (finds.mem_iff i (state a)).2 ⟨Nat.zero_le i, contributes⟩, by rw [(only _ a).2 rfl]; rfl⟩
  · have nothing : ∀ switch, isKept switch = false → category switch = none := by
      intro switch dropped
      rw [Option.eq_none_iff_forall_ne_some]
      intro a found
      rw [(only switch a).1 found, kept a] at dropped
      cases dropped
    have places : (fun f : Nat × Switch => ((category f.2).map fun a => (f.1, a)).map Prod.snd) =
        fun f => category f.2 := by
      funext f
      cases category f.2 <;> rfl
    rw [← filterMap_filter_isKept (nothing _ rfl) fun _ => nothing _ rfl, ofCommand, scanned, List.filterMap_map,
      List.map_filterMap, places]
    rfl

theorem warning?_eq_some_iff (switch : Switch) (name : Text) :
    switch.warning? = some name ↔ switch = .warning name := by
  cases switch <;> simp [warning?]

theorem standard?_eq_some_iff (switch : Switch) (name : Text) :
    switch.standard? = some name ↔ switch = .standard name := by
  cases switch <;> simp [standard?]

end Switch

/-- The first place of something among what is found at places. -/
def IsFirst {α : Type} (found : List (Nat × α)) (a : α) (i : Nat) : Prop :=
  (i, a) ∈ found ∧ ∀ j < i, (j, a) ∉ found

/-- What is found is found first somewhere. -/
theorem exists_isFirst {α : Type} {found : List (Nat × α)} {a : α} (listed : a ∈ found.map Prod.snd) :
    ∃ i, IsFirst found a i := by
  classical
  obtain ⟨⟨i, a⟩, place, rfl⟩ := List.mem_map.1 listed
  have somewhere : ∃ i, (i, a) ∈ found := ⟨i, place⟩
  exact ⟨Nat.find somewhere, Nat.find_spec somewhere, fun j before => Nat.find_min somewhere before⟩

/-- What is first among the things of a kind is of that kind, and first of all. -/
theorem IsFirst.of_filter {α : Type} {found : List (Nat × α)} {p : α → Bool} {a : α} {i : Nat}
    (first : IsFirst (found.filter fun f => p f.2) a i) : p a = true ∧ IsFirst found a i := by
  obtain ⟨listed, kind⟩ := List.mem_filter.1 first.1
  exact ⟨kind, listed, fun j before earlier => first.2 j before (List.mem_filter.2 ⟨earlier, kind⟩)⟩

theorem IsFirst.cons {α : Type} {found : List (Nat × α)} {a b : α} {i j : Nat} (first : IsFirst found b j)
    (other : b ≠ a) : IsFirst ((i, a) :: found) b j := by
  refine ⟨List.mem_cons_of_mem _ first.1, fun k before listed => ?_⟩
  rcases List.mem_cons.1 listed with same | listed
  · exact other (Prod.mk.inj same).2
  · exact first.2 k before listed

/-- Without its repetitions a list keeps the order of first places. -/
theorem pairwise_eraseDups_map_snd {α : Type} [BEq α] [LawfulBEq α] : ∀ {found : List (Nat × α)},
    found.Pairwise (fun f g => f.1 < g.1) → (found.map Prod.snd).eraseDups.Pairwise fun a b =>
      ∃ i j, i < j ∧ IsFirst found a i ∧ IsFirst found b j
  | [], _ => List.Pairwise.nil
  | (i, a) :: rest, ordered => by
    obtain ⟨behind, later⟩ := List.pairwise_cons.1 ordered
    have others : (rest.map Prod.snd).filter (fun b => !b == a) = (rest.filter fun f => !f.2 == a).map Prod.snd :=
      List.filter_map
    have here : IsFirst ((i, a) :: rest) a i := by
      refine ⟨List.mem_cons_self .., fun j before listed => ?_⟩
      rcases List.mem_cons.1 listed with same | listed
      · cases same
        exact Nat.lt_irrefl _ before
      · exact Nat.lt_asymm before (behind _ listed)
    have lift : ∀ {b j}, IsFirst (rest.filter fun f => !f.2 == a) b j → IsFirst ((i, a) :: rest) b j := by
      intro b j first
      obtain ⟨other, first⟩ := IsFirst.of_filter (p := fun b => !b == a) first
      exact first.cons (by simpa using other)
    rw [List.map_cons, List.eraseDups_cons, others, List.pairwise_cons]
    constructor
    · intro b listed
      obtain ⟨j, first⟩ := exists_isFirst (List.mem_eraseDups.1 listed)
      exact ⟨i, j, behind _ (List.mem_of_mem_filter first.1), here, lift first⟩
    · apply (pairwise_eraseDups_map_snd (later.filter _)).imp
      rintro b c ⟨j, k, before, first, second⟩
      exact ⟨j, k, before, lift first, lift second⟩
termination_by found => found.length
decreasing_by exact Nat.lt_succ_of_le (List.length_filter_le ..)

namespace Switch

/-- The first word of a command that contributes a switch. -/
def IsFirstAt (tokens : List Text) (switch : Switch) (i : Nat) : Prop :=
  Contributes tokens i switch ∧ ∀ j < i, ¬ Contributes tokens j switch

/-- `-Werror` contributes wherever it stands and is no value. -/
theorem contributes_errorWarning_iff {tokens : List Text} {i : Nat} :
    Contributes tokens i (.warning Recipe.errorWarning) ↔
      tokens[i]? = some (Text.ofString "-Werror") ∧ ¬ IsValue tokens i := by
  constructor
  · intro contributes
    cases contributes with
    | attached here free reads =>
      cases reads
      exact ⟨here, free⟩
  · rintro ⟨here, free⟩
    exact .attached here free (.warning (by decide) (by decide))

end Switch

namespace Recipe

open Switch

/-- A recipe's warnings are those its words contribute, `-Werror` apart. -/
theorem mem_warnings_iff {entry : Entry} {name : Text} : name ∈ (ofEntry entry).warnings ↔
    name ≠ errorWarning ∧ ∃ i, Contributes (Words.split entry.command) i (.warning name) := by
  obtain ⟨asked, -, places, names⟩ := exists_found_of_category entry.command warning?_eq_some_iff fun _ => rfl
  show name ∈ (((ofCommand entry.command).filterMap warning?).filter (· != errorWarning)).eraseDups ↔ _
  rw [List.mem_eraseDups, List.mem_filter, names, List.mem_map, and_comm, bne_iff_ne]
  apply and_congr_right'
  constructor
  · rintro ⟨⟨i, name⟩, listed, rfl⟩
    exact ⟨i, (places i name).1 listed⟩
  · rintro ⟨i, contributes⟩
    exact ⟨(i, name), (places i name).2 contributes, rfl⟩

/-- Warnings stand in the order in which they are first asked for. -/
theorem pairwise_warnings (entry : Entry) : (ofEntry entry).warnings.Pairwise fun v w =>
    ∃ i j, i < j ∧ IsFirstAt (Words.split entry.command) (.warning v) i ∧
      IsFirstAt (Words.split entry.command) (.warning w) j := by
  obtain ⟨asked, ordered, places, names⟩ := exists_found_of_category entry.command warning?_eq_some_iff fun _ => rfl
  have first : ∀ {name i}, IsFirst (asked.filter fun f => f.2 != errorWarning) name i →
      IsFirstAt (Words.split entry.command) (.warning name) i := by
    intro name i first
    obtain ⟨-, here, others⟩ := IsFirst.of_filter (p := (· != errorWarning)) first
    exact ⟨(places i name).1 here, fun j before contributes => others j before ((places j name).2 contributes)⟩
  have ordinary : ((ofCommand entry.command).filterMap warning?).filter (· != errorWarning) =
      (asked.filter fun f => f.2 != errorWarning).map Prod.snd := by
    rw [names]
    exact List.filter_map
  show (((ofCommand entry.command).filterMap warning?).filter (· != errorWarning)).eraseDups.Pairwise _
  rw [ordinary]
  apply (pairwise_eraseDups_map_snd (ordered.filter _)).imp
  rintro v w ⟨i, j, before, firstV, firstW⟩
  exact ⟨i, j, before, first firstV, first firstW⟩

/-- Warnings are errors when `-Werror` stands somewhere and is no value. -/
theorem warningsAsErrors_iff {entry : Entry} : (ofEntry entry).warningsAsErrors = true ↔
    ∃ i, (Words.split entry.command)[i]? = some (Text.ofString "-Werror") ∧
      ¬ IsValue (Words.split entry.command) i := by
  obtain ⟨asked, -, places, names⟩ := exists_found_of_category entry.command warning?_eq_some_iff fun _ => rfl
  show ((ofCommand entry.command).filterMap warning?).contains errorWarning = true ↔ _
  rw [List.contains_iff_mem, names, List.mem_map]
  constructor
  · rintro ⟨⟨i, name⟩, listed, rfl⟩
    exact ⟨i, contributes_errorWarning_iff.1 ((places i _).1 listed)⟩
  · rintro ⟨i, asks⟩
    exact ⟨(i, errorWarning), (places i _).2 (contributes_errorWarning_iff.2 asks), rfl⟩

/-- The standard is that of the first word which names one, and the default when there is none. -/
theorem standard_ofEntry (entry : Entry) :
    (∃ i, Contributes (Words.split entry.command) i (.standard (ofEntry entry).standard) ∧
      ∀ j < i, ∀ name, ¬ Contributes (Words.split entry.command) j (.standard name)) ∨
    (∀ i name, ¬ Contributes (Words.split entry.command) i (.standard name)) ∧ (ofEntry entry).standard = "c++20" := by
  obtain ⟨named, ordered, places, names⟩ := exists_found_of_category entry.command standard?_eq_some_iff fun _ => rfl
  have standard : (ofEntry entry).standard = (named.map Prod.snd).head?.getD defaultStandard := by
    rw [← names]
    rfl
  rw [standard]
  cases named with
  | nil => exact .inr ⟨fun i name contributes => by simpa using (places i name).2 contributes, rfl⟩
  | cons first later =>
    obtain ⟨i, name⟩ := first
    refine .inl ⟨i, (places i name).1 (List.mem_cons_self ..), fun j before other contributes => ?_⟩
    rcases List.mem_cons.1 ((places j other).2 contributes) with same | listed
    · cases same
      exact Nat.lt_irrefl _ before
    · exact Nat.lt_asymm before ((List.pairwise_cons.1 ordered).1 _ listed)

/-- **The words of a command decide its recipe.** The recipe is sound; it has the warnings that some word
asks for, in the order of the first word for each; warnings are errors when some word says so; and the
standard is that of the first word which names one. A word that is the value of a flag says none of this. -/
theorem isSound_and_follows_words (entry : Entry) :
    (ofEntry entry).IsSound ∧
    (∀ name, name ∈ (ofEntry entry).warnings ↔
      name ≠ errorWarning ∧ ∃ i, Contributes (Words.split entry.command) i (.warning name)) ∧
    (ofEntry entry).warnings.Pairwise (fun v w => ∃ i j, i < j ∧
      IsFirstAt (Words.split entry.command) (.warning v) i ∧ IsFirstAt (Words.split entry.command) (.warning w) j) ∧
    ((ofEntry entry).warningsAsErrors = true ↔
      ∃ i, (Words.split entry.command)[i]? = some (Text.ofString "-Werror") ∧ ¬ IsValue (Words.split entry.command) i) ∧
    ((∃ i, Contributes (Words.split entry.command) i (.standard (ofEntry entry).standard) ∧
        ∀ j < i, ∀ name, ¬ Contributes (Words.split entry.command) j (.standard name)) ∨
      (∀ i name, ¬ Contributes (Words.split entry.command) i (.standard name)) ∧
        (ofEntry entry).standard = "c++20") :=
  ⟨isSound_ofEntry entry, fun _ => mem_warnings_iff, pairwise_warnings entry, warningsAsErrors_iff,
    standard_ofEntry entry⟩

end Recipe

end CompileDb
