import CompileDb.Markup

/-!
# Groups of markup

`groups` reads markup from the left: it takes the first group with the backslashes in front of it and goes on
behind the closing bracket. As no group holds an opening bracket, nothing is lost by that, and the groups are
told by their places alone (`mem_groups_iff`), from the left to the right (`pairwise_groupsFrom`).

Markup can be cut in front of whatever has no closing bracket to offer (`groupsFrom_append`): the groups on the
left stay as they are, and all that crosses the cut is a number of backslashes. An escaped text has an odd number
of backslashes in front of each of its groups (`odd_of_mem_groupsFrom_escape`), since the backslashes that are put
in make no group where there was none (`isSome_group?_escapeFrom`).
-/

namespace CompileDb.Markup

/-- A tag and the place of its opening bracket. -/
structure Tag where
  place : Nat
  inside : Text
  deriving DecidableEq

/-- A group and the number of backslashes directly in front of it. -/
structure Group extends Tag where
  slashes : Nat
  deriving DecidableEq

/-- Whether a group is a tag. -/
def Group.isActive (g : Group) : Bool := g.slashes % 2 = 0

/-- What can stand between the brackets of a group. -/
def IsInside : Text → Prop
  | [] => False
  | a :: rest => beginsTag a = true ∧ opening ∉ rest ∧ closing ∉ rest

instance (text : Text) : Decidable (IsInside text) :=
  match text with
  | [] => .isFalse id
  | a :: rest => inferInstanceAs (Decidable (beginsTag a = true ∧ opening ∉ rest ∧ closing ∉ rest))

/-- The number of backslashes at the end of a text that is read behind `slashes` backslashes. -/
def slashesAfter (slashes : Nat) (text : Text) : Nat :=
  text.foldl (fun count a => if a = backslash then count + 1 else 0) slashes

/-- The groups of the markup at a place, read on behind `slashes` backslashes; `skip` counts the letters of a group
that are still to be passed over. -/
def groupsFrom (place slashes skip : Nat) : Text → List Group
  | [] => []
  | a :: rest =>
    if 0 < skip then groupsFrom (place + 1) 0 (skip - 1) rest
    else if a = backslash then groupsFrom (place + 1) (slashes + 1) 0 rest
    else
      match if a = opening then group? rest else none with
      | some (inside, _) => ⟨⟨place, inside⟩, slashes⟩ :: groupsFrom (place + 1) 0 (inside.length + 1) rest
      | none => groupsFrom (place + 1) 0 0 rest

def groups (markup : Text) : List Group := groupsFrom 0 0 0 markup

/-- The tags among groups. -/
def tagsOf (found : List Group) : List Tag := (found.filter Group.isActive).map Group.toTag

/-- The tags of markup. -/
def activeTags (markup : Text) : List Tag := tagsOf (groups markup)

section Brackets

variable {text inside rest behind : Text}

/-- `toClosing?` finds the nearest closing bracket with no opening one before it. -/
theorem toClosing?_eq_some_iff :
    toClosing? text = some (inside, rest) ↔
      opening ∉ inside ∧ closing ∉ inside ∧ text = inside ++ closing :: rest := by
  induction text generalizing inside with
  | nil => simp [toClosing?]
  | cons a text ih =>
    rw [toClosing?]
    by_cases closes : a = closing
    · subst closes
      cases inside with
      | nil => simp
      | cons b inside => simp +contextual
    · by_cases opens : a = opening
      · subst opens
        cases inside with
        | nil => simp [closes]
        | cons b inside => simp +contextual [closes]
      · rw [if_neg closes, if_neg opens, Option.map_eq_some_iff]
        constructor
        · rintro ⟨⟨before, behind⟩, found, same⟩
          obtain ⟨rfl, rfl⟩ := Prod.mk.inj same
          obtain ⟨unopened, unclosed, rfl⟩ := ih.1 found
          simp [Ne.symm opens, Ne.symm closes, unopened, unclosed]
        · rintro ⟨unopened, unclosed, same⟩
          cases inside with
          | nil => exact absurd (List.cons.inj same).1 closes
          | cons b inside =>
            obtain ⟨rfl, rfl⟩ := List.cons.inj same
            rw [List.mem_cons, not_or] at unopened unclosed
            exact ⟨(inside, rest), ih.2 ⟨unopened.2, unclosed.2, rfl⟩, rfl⟩

/-- A group is read where an inside and its closing bracket stand. -/
theorem group?_eq_some_iff :
    group? text = some (inside, rest) ↔ IsInside inside ∧ text = inside ++ closing :: rest := by
  cases text with
  | nil => simp [group?]
  | cons a text =>
    rw [group?]
    constructor
    · intro found
      split at found
      · next begins =>
        obtain ⟨⟨before, behind⟩, closed, same⟩ := Option.map_eq_some_iff.1 found
        obtain ⟨rfl, rfl⟩ := Prod.mk.inj same
        obtain ⟨unopened, unclosed, rfl⟩ := toClosing?_eq_some_iff.1 closed
        exact ⟨⟨begins, unopened, unclosed⟩, rfl⟩
      · cases found
    · rintro ⟨isInside, same⟩
      cases inside with
      | nil => cases isInside
      | cons b inside =>
        obtain ⟨rfl, rfl⟩ := List.cons.inj same
        obtain ⟨begins, unopened, unclosed⟩ := isInside
        rw [if_pos begins, Option.map_eq_some_iff]
        exact ⟨(inside, rest), toClosing?_eq_some_iff.2 ⟨unopened, unclosed, rfl⟩, rfl⟩

theorem IsInside.brackets_notMem (isInside : IsInside inside) : opening ∉ inside ∧ closing ∉ inside := by
  cases inside with
  | nil => cases isInside
  | cons a rest =>
    obtain ⟨begins, unopened, unclosed⟩ := isInside
    rw [List.mem_cons, List.mem_cons, not_or, not_or]
    refine ⟨⟨?_, unopened⟩, ?_, unclosed⟩ <;> rintro rfl <;> revert begins <;> decide

/-- A group ends at a closing bracket with no bracket before it. -/
theorem group?_eq_none (unclosed : toClosing? text = none) : group? text = none := by
  cases found : group? text with
  | none => rfl
  | some group =>
    obtain ⟨isInside, same⟩ := group?_eq_some_iff.1 found
    have closed := toClosing?_eq_some_iff.2 ⟨isInside.brackets_notMem.1, isInside.brackets_notMem.2, same⟩
    rw [unclosed] at closed
    cases closed

theorem toClosing?_append (unclosed : toClosing? behind = none) (text : Text) :
    toClosing? (text ++ behind) = (toClosing? text).map fun found => (found.1, found.2 ++ behind) := by
  induction text with
  | nil => rw [List.nil_append, unclosed]; rfl
  | cons a text ih =>
    rw [List.cons_append, toClosing?, toClosing?, ih]
    split
    · rfl
    · split
      · rfl
      · rw [Option.map_map, Option.map_map]
        rfl

theorem group?_append (unclosed : toClosing? behind = none) (text : Text) :
    group? (text ++ behind) = (group? text).map fun found => (found.1, found.2 ++ behind) := by
  cases text with
  | nil => rw [List.nil_append, group?_eq_none unclosed]; rfl
  | cons a text =>
    rw [List.cons_append, group?, group?, toClosing?_append unclosed]
    split
    · rw [Option.map_map, Option.map_map]
      rfl
    · rfl

end Brackets

section Scan

variable {place slashes : Nat} {text inside rest behind : Text}

/-- Backslashes are counted through one text and on into the next. -/
theorem slashesAfter_append (slashes : Nat) (text behind : Text) :
    slashesAfter slashes (text ++ behind) = slashesAfter (slashesAfter slashes text) behind := List.foldl_append

theorem slashesAfter_cons (slashes : Nat) (a : Letter) (text : Text) :
    slashesAfter slashes (a :: text) = slashesAfter (if a = backslash then slashes + 1 else 0) text := rfl

theorem slashesAfter_replicate (slashes count : Nat) :
    slashesAfter slashes (List.replicate count backslash) = slashes + count := by
  induction count generalizing slashes with
  | zero => rfl
  | succ count ih =>
    rw [List.replicate_succ, slashesAfter_cons, if_pos rfl, ih]
    omega

/-- No backslash is pending unless the text ends in one. -/
theorem slashesAfter_eq_zero_iff : slashesAfter 0 text = 0 ↔ text.getLast? ≠ some backslash := by
  cases last : text.getLast? with
  | none =>
    obtain rfl := List.getLast?_eq_none_iff.1 last
    simp [slashesAfter]
  | some a =>
    obtain ⟨before, rfl⟩ := List.getLast?_eq_some_iff.1 last
    rw [slashesAfter_append, slashesAfter_cons]
    by_cases slash : a = backslash <;> simp [slashesAfter, slash]

/-- The letters of a group are passed over. -/
theorem groupsFrom_passed (place slashes : Nat) (inside rest : Text) :
    groupsFrom place slashes (inside.length + 1) (inside ++ closing :: rest) =
      groupsFrom (place + inside.length + 1) 0 0 rest := by
  induction inside generalizing place slashes with
  | nil => rfl
  | cons a inside ih =>
    rw [List.cons_append, groupsFrom, if_pos (Nat.succ_pos _), List.length_cons, Nat.add_sub_cancel, ih]
    congr 1
    omega

/-- Without an opening bracket, nothing is found on the way to a closing one. -/
theorem groupsFrom_unopened (unopened : opening ∉ inside) (place slashes : Nat) (rest : Text) :
    groupsFrom place slashes 0 (inside ++ closing :: rest) = groupsFrom (place + inside.length + 1) 0 0 rest := by
  induction inside generalizing place slashes with
  | nil => rfl
  | cons a inside ih =>
    rw [List.mem_cons, not_or] at unopened
    have further : place + 1 + inside.length + 1 = place + (inside.length + 1) + 1 := by omega
    rw [List.cons_append, groupsFrom, if_neg (Nat.lt_irrefl 0), if_neg (Ne.symm unopened.1), ih unopened.2,
      ih unopened.2, further, ite_self]
    rfl

/-- A letter at a time: the group that the letter opens, if it opens one, and then those behind the letter. -/
theorem groupsFrom_cons (place slashes : Nat) (a : Letter) (rest : Text) :
    groupsFrom place slashes 0 (a :: rest) =
      (if a = opening then ((group? rest).map fun found => ⟨⟨place, found.1⟩, slashes⟩).toList else []) ++
        groupsFrom (place + 1) (if a = backslash then slashes + 1 else 0) 0 rest := by
  rw [groupsFrom, if_neg (Nat.lt_irrefl 0)]
  by_cases slash : a = backslash
  · subst slash
    rfl
  · rw [if_neg slash, if_neg slash]
    by_cases opens : a = opening
    · rw [if_pos opens, if_pos opens]
      cases found : group? rest with
      | none => rfl
      | some group =>
        obtain ⟨inside, tail⟩ := group
        obtain ⟨isInside, rfl⟩ := group?_eq_some_iff.1 found
        simp only [Option.map_some, Option.toList_some]
        rw [groupsFrom_passed, groupsFrom_unopened isInside.brackets_notMem.1]
        rfl
    · rw [if_neg opens, if_neg opens]
      rfl

/-- The groups of a text by position: the inside, where it opens, the backslashes before it. -/
theorem mem_groupsFrom_iff {g : Group} :
    g ∈ groupsFrom place slashes 0 text ↔
      ∃ before behind, text = before ++ opening :: (g.inside ++ closing :: behind) ∧ IsInside g.inside ∧
        g.place = place + before.length ∧ g.slashes = slashesAfter slashes before := by
  induction text generalizing place slashes with
  | nil => simp [groupsFrom]
  | cons a text ih =>
    rw [groupsFrom_cons, List.mem_append, ih]
    constructor
    · rintro (here | ⟨before, behind, rfl, isInside, found, counted⟩)
      · split at here
        · next opens =>
          subst opens
          obtain ⟨⟨inside, behind⟩, grouped, rfl⟩ := Option.map_eq_some_iff.1 (Option.mem_toList.1 here)
          obtain ⟨isInside, rfl⟩ := group?_eq_some_iff.1 grouped
          exact ⟨[], behind, rfl, isInside, rfl, rfl⟩
        · cases here
      · refine ⟨a :: before, behind, rfl, isInside, ?_, counted⟩
        rw [found, List.length_cons]
        omega
    · rintro ⟨before, behind, same, isInside, found, counted⟩
      cases before with
      | nil =>
        obtain ⟨rfl, rfl⟩ := List.cons.inj same
        refine .inl ?_
        rw [if_pos rfl, group?_eq_some_iff.2 ⟨isInside, rfl⟩, Option.map_some, Option.toList_some, List.mem_singleton]
        obtain ⟨⟨place', inside⟩, slashes'⟩ := g
        obtain rfl : place' = place := found
        obtain rfl : slashes' = slashes := counted
        rfl
      | cons b before =>
        obtain ⟨rfl, rfl⟩ := List.cons.inj same
        refine .inr ⟨before, behind, rfl, isInside, ?_, counted⟩
        rw [found, List.length_cons]
        omega

/-- **A group is told by its place.** It opens there, its inside is followed by a closing bracket, and its
backslashes are those directly in front of it. -/
theorem mem_groups_iff {markup : Text} {g : Group} :
    g ∈ groups markup ↔
      ∃ before behind, markup = before ++ opening :: (g.inside ++ closing :: behind) ∧ IsInside g.inside ∧
        g.place = before.length ∧ g.slashes = slashesAfter 0 before := by
  rw [groups, mem_groupsFrom_iff]
  simp only [Nat.zero_add]

/-- Groups are found from the left to the right. -/
theorem pairwise_groupsFrom (place slashes : Nat) (text : Text) :
    (groupsFrom place slashes 0 text).Pairwise fun g h => g.place < h.place := by
  induction text generalizing place slashes with
  | nil => exact List.Pairwise.nil
  | cons a text ih =>
    rw [groupsFrom_cons]
    have behind : ∀ g ∈ groupsFrom (place + 1) (if a = backslash then slashes + 1 else 0) 0 text, place < g.place := by
      intro g found
      obtain ⟨before, _, -, -, at_, -⟩ := mem_groupsFrom_iff.1 found
      omega
    split
    · cases group? text with
      | none => exact ih _ _
      | some group => exact List.pairwise_cons.2 ⟨behind, ih _ _⟩
    · exact ih _ _

/-- **Markup can be cut where the right side has no closing bracket to offer.** -/
theorem groupsFrom_append (unclosed : toClosing? behind = none) (place slashes : Nat) (text : Text) :
    groupsFrom place slashes 0 (text ++ behind) = groupsFrom place slashes 0 text ++
      groupsFrom (place + text.length) (slashesAfter slashes text) 0 behind := by
  induction text generalizing place slashes with
  | nil => rfl
  | cons a text ih =>
    have further : place + 1 + text.length = place + (text.length + 1) := by omega
    rw [List.cons_append, groupsFrom_cons, groupsFrom_cons, ih, group?_append unclosed, Option.map_map,
      List.append_assoc, slashesAfter_cons, List.length_cons, further]
    rfl

/-- A tag of its own, and what follows it. -/
theorem groupsFrom_group (isInside : IsInside inside) (place slashes : Nat) (rest : Text) :
    groupsFrom place slashes 0 (opening :: (inside ++ closing :: rest)) =
      ⟨⟨place, inside⟩, slashes⟩ :: groupsFrom (place + inside.length + 2) 0 0 rest := by
  have further : place + 1 + inside.length + 1 = place + inside.length + 2 := by omega
  rw [groupsFrom_cons, if_pos rfl, group?_eq_some_iff.2 ⟨isInside, rfl⟩,
    groupsFrom_unopened isInside.brackets_notMem.1, further]
  rfl

theorem groupsFrom_eq_nil (unopened : opening ∉ text) (place slashes : Nat) :
    groupsFrom place slashes 0 text = [] := by
  apply List.eq_nil_iff_forall_not_mem.2
  intro g found
  obtain ⟨before, behind, rfl, -⟩ := mem_groupsFrom_iff.1 found
  simp at unopened

end Scan

section Escape

variable {place slashes : Nat} {text : Text}

theorem toClosing?_replicate (count : Nat) (text : Text) :
    (toClosing? (List.replicate count backslash ++ text)).isSome = (toClosing? text).isSome := by
  induction count with
  | zero => rfl
  | succ count ih =>
    rw [List.replicate_succ, List.cons_append, toClosing?, if_neg (by decide), if_neg (by decide),
      Option.isSome_map, ih]

/-- Backslashes in front of a text move its groups on and count for the first. -/
theorem groupsFrom_replicate (place slashes count : Nat) (text : Text) :
    groupsFrom place slashes 0 (List.replicate count backslash ++ text) =
      groupsFrom (place + count) (slashes + count) 0 text := by
  induction count generalizing place slashes with
  | zero => rfl
  | succ count ih =>
    rw [List.replicate_succ, List.cons_append, groupsFrom_cons, if_neg (by decide), if_pos rfl, List.nil_append, ih]
    congr 1 <;> omega

/-- Backslashes are no brackets. -/
theorem isSome_toClosing?_escapeFrom (slashes : Nat) (text : Text) :
    (toClosing? (escapeFrom slashes text)).isSome = (toClosing? text).isSome := by
  induction text generalizing slashes with
  | nil => simpa [escapeFrom] using toClosing?_replicate slashes []
  | cons a text ih =>
    rw [escapeFrom]
    split
    · next slash =>
      subst slash
      rw [ih, toClosing?, if_neg (by decide), if_neg (by decide), Option.isSome_map]
    · split
      · next opens =>
        rw [toClosing?_replicate, opens.1]
        rfl
      · rw [toClosing?_replicate, toClosing?, toClosing?]
        split
        · rfl
        · split
          · rfl
          · rw [Option.isSome_map, Option.isSome_map, ih]

theorem escapeFrom_succ (slashes : Nat) (text : Text) :
    ∃ rest, escapeFrom (slashes + 1) text = backslash :: rest := by
  induction text generalizing slashes with
  | nil => exact ⟨_, rfl⟩
  | cons a text ih =>
    rw [escapeFrom]
    split
    · exact ih _
    · split
      · exact ⟨_, rfl⟩
      · exact ⟨_, rfl⟩

theorem isSome_group?_cons (a : Letter) (text : Text) :
    (group? (a :: text)).isSome = (beginsTag a && (toClosing? text).isSome) := by
  rw [group?]
  cases beginsTag a with
  | true => exact Option.isSome_map
  | false => rfl

/-- Escaping makes no group where there was none, and takes none away. -/
theorem isSome_group?_escapeFrom (text : Text) : (group? (escapeFrom 0 text)).isSome = (group? text).isSome := by
  cases text with
  | nil => rfl
  | cons a text =>
    rw [escapeFrom]
    split
    · next slash =>
      subst slash
      obtain ⟨rest, same⟩ := escapeFrom_succ 0 text
      rw [same]
      rfl
    · split
      · next opens =>
        rw [opens.1]
        rfl
      · rw [List.replicate_zero, List.nil_append, isSome_group?_cons, isSome_group?_cons, isSome_toClosing?_escapeFrom]

/-- In an escaped text every group stands behind an odd number of backslashes. -/
theorem odd_of_mem_groupsFrom_escapeFrom {g : Group} (found : g ∈ groupsFrom place 0 0 (escapeFrom slashes text)) :
    g.slashes % 2 = 1 := by
  -- Nothing is written while `slashes` counts up, so whatever is read back begins behind no backslash.
  induction text generalizing place slashes with
  | nil =>
    rw [escapeFrom, ← List.append_nil (List.replicate _ _), groupsFrom_replicate] at found
    cases found
  | cons a text ih =>
    rw [escapeFrom] at found
    split at found
    · exact ih found
    · split at found
      · next opens =>
        rw [groupsFrom_replicate, groupsFrom_cons, if_pos rfl, if_neg (by decide), List.mem_append] at found
        rcases found with here | later
        · obtain ⟨group, -, rfl⟩ := Option.map_eq_some_iff.1 (Option.mem_toList.1 here)
          simp only
          omega
        · exact ih later
      · next slash opens =>
        rw [groupsFrom_replicate, groupsFrom_cons, if_neg slash, List.mem_append] at found
        rcases found with here | later
        · split at here
          · next bracket =>
            have ungrouped : (group? text).isSome = false := by simpa [bracket] using opens
            rw [← isSome_group?_escapeFrom, Option.isSome_eq_false_iff, Option.isNone_iff_eq_none] at ungrouped
            rw [ungrouped] at here
            cases here
          · cases here
        · exact ih later

/-- **Each group of an escaped text has an odd number of backslashes in front of it.** -/
theorem odd_of_mem_groupsFrom_escape {g : Group} (found : g ∈ groupsFrom place 0 0 (escape text)) :
    g.slashes % 2 = 1 := by
  rw [escape] at found
  split at found
  · have unopened : opening ∉ [backslash] := by decide
    rw [groupsFrom_append (by decide), groupsFrom_eq_nil unopened, List.append_nil] at found
    exact odd_of_mem_groupsFrom_escapeFrom found
  · exact odd_of_mem_groupsFrom_escapeFrom found

/-- An escaped text has no tags. -/
theorem tagsOf_groupsFrom_escape (place : Nat) (text : Text) : tagsOf (groupsFrom place 0 0 (escape text)) = [] := by
  rw [tagsOf, List.map_eq_nil_iff, List.filter_eq_nil_iff]
  intro g found
  have odd := odd_of_mem_groupsFrom_escape found
  simp [Group.isActive, odd]

/-- An escaped text ends in as many backslashes as the text, but for one that is doubled. -/
theorem slashesAfter_escapeFrom (slashes : Nat) (text : Text) :
    slashesAfter 0 (escapeFrom slashes text) = slashesAfter slashes text := by
  induction text generalizing slashes with
  | nil =>
    rw [escapeFrom, slashesAfter_replicate, Nat.zero_add]
    rfl
  | cons a text ih =>
    rw [escapeFrom, slashesAfter_cons]
    split
    · exact ih _
    · next slash =>
      split
      · rw [slashesAfter_append, slashesAfter_cons, if_neg (by decide), ih]
      · rw [slashesAfter_append, slashesAfter_cons, if_neg slash, ih]

/-- A text with no backslash pending ends in no lone one. -/
theorem endsInLoneSlash_eq_false (ends : slashesAfter 0 text = 0) : endsInLoneSlash text = false := by
  rw [slashesAfter_eq_zero_iff] at ends
  have last : text.reverse.head? ≠ some backslash := by rwa [List.head?_reverse]
  rw [endsInLoneSlash]
  split
  · rfl
  · next same =>
    rw [same] at last
    exact absurd rfl last
  · rfl

/-- Escaping leaves no backslash pending at the end of a text that ends in none. -/
theorem slashesAfter_escape (ends : text.getLast? ≠ some backslash) : slashesAfter 0 (escape text) = 0 := by
  have none : slashesAfter 0 (escapeFrom 0 text) = 0 := by
    rw [slashesAfter_escapeFrom, slashesAfter_eq_zero_iff.2 ends]
  rw [escape, endsInLoneSlash_eq_false none]
  exact none

end Escape

end CompileDb.Markup
