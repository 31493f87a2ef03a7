import CompileDb.Proofs.Markup.Groups

/-!
# Lines of markup

A `Line` is markup that is put together from tags and from what stands behind each of them, which is either
`fixed` text without brackets to open or a text that is `inserted` in its escaped form. Each tag begins with an
opening bracket, so the line can be cut in front of it (`tagsOf_partsMarkup_cons`), and what is inserted is read
as if it stood alone. All that an insertion can do to the rest of the line is to take the meaning from the next
tag, and it can only do that with a backslash at its end (`Line.activeTags_sublist`, `Line.activeTags_eq`).
-/

namespace CompileDb.Markup

/-- What stands behind a tag, up to the next one. -/
inductive Field where
  | fixed (text : Text)
  /-- A text in its escaped form, set at the left of a field. -/
  | inserted (width : Nat) (text : Text)

def Field.markup : Field → Text
  | fixed text => text
  | inserted width text => padded width (escape text)

def bracketed (tag : Text) : Text := opening :: (tag ++ [closing])

/-- A tag and what stands behind it. -/
structure Part where
  tag : Text
  field : Field

def Part.markup (part : Part) : Text := bracketed part.tag ++ part.field.markup

/-- The markup of parts, one after another. -/
def partsMarkup (parts : List Part) : Text := parts.flatMap Part.markup

/-- A line that begins with a text of its own. -/
structure Line where
  start : Text
  parts : List Part

/-- The tags of parts that stand at a place, in order. -/
def ownTagsFrom (place : Nat) : List Part → List Tag
  | [] => []
  | part :: rest => ⟨place, part.tag⟩ :: ownTagsFrom (place + part.markup.length) rest

namespace Line

def markup (line : Line) : Text := line.start ++ partsMarkup line.parts

/-- The tags that a line is put together from. -/
def ownTags (line : Line) : List Tag := ownTagsFrom line.start.length line.parts

/-- A line shows an inserted text behind `before`. -/
def Inserts (line : Line) (before text : Text) : Prop :=
  ∃ xs tag width ys, line.parts = xs ++ ⟨tag, .inserted width text⟩ :: ys ∧
    before = line.start ++ (partsMarkup xs ++ bracketed tag)

end Line

/-- The place behind the closing bracket of a tag. -/
def Tag.stop (t : Tag) : Nat := t.place + (bracketed t.inside).length

/-- A field with nothing of its own that could be a tag or change one. -/
def Field.Plain : Field → Prop
  | fixed text => opening ∉ text ∧ backslash ∉ text
  | inserted _ _ => True

/-- A field that leaves the next tag its meaning. -/
def Field.LeavesTags : Field → Prop
  | fixed _ => True
  | inserted _ text => text.getLast? ≠ some backslash

/-- A part whose tag can be a tag, with nothing behind it but what is inserted that could be one. -/
structure Part.Sound (part : Part) : Prop where
  isInside : IsInside part.tag
  plain : part.field.Plain

/-- A line of sound parts that begins without a group and without a backslash at the end. -/
structure Line.Sound (line : Line) : Prop where
  start : groups line.start = []
  ends : line.start.getLast? ≠ some backslash
  parts : ∀ part ∈ line.parts, part.Sound

theorem tagsOf_append (xs ys : List Group) : tagsOf (xs ++ ys) = tagsOf xs ++ tagsOf ys := by
  rw [tagsOf, List.filter_append, List.map_append]
  rfl

section Field

variable {field : Field}

theorem notMem_blanks {a : Letter} (other : a ≠ ' ') (count : Nat) : a ∉ blanks count :=
  fun listed => other (List.eq_of_mem_replicate listed)

theorem notMem_centred {a : Letter} {text : Text} (other : a ≠ ' ') (foreign : a ∉ text) (width : Nat) :
    a ∉ centred width text := by
  simp [centred, notMem_blanks other, foreign]

theorem toClosing?_blanks (count : Nat) : toClosing? (blanks count) = none := by
  cases found : toClosing? (blanks count) with
  | none => rfl
  | some group =>
    obtain ⟨-, -, same⟩ := toClosing?_eq_some_iff.1 found
    have listed : closing ∈ blanks count := by simp [same]
    exact absurd listed (notMem_blanks (by decide) count)

theorem slashesAfter_of_notMem {text : Text} (unslashed : backslash ∉ text) : slashesAfter 0 text = 0 :=
  slashesAfter_eq_zero_iff.2 fun last => unslashed (List.mem_of_getLast? last)

/-- Nothing in a field is a tag. -/
theorem tagsOf_field (plain : field.Plain) (place : Nat) :
    tagsOf (groupsFrom place 0 0 field.markup) = [] := by
  cases field with
  | fixed text =>
    rw [Field.markup, groupsFrom_eq_nil plain.1]
    rfl
  | inserted width text =>
    rw [Field.markup, padded, groupsFrom_append (toClosing?_blanks _), tagsOf_append, tagsOf_groupsFrom_escape,
      groupsFrom_eq_nil (notMem_blanks (by decide) _)]
    rfl

/-- A plain field whose text leaves its tags alone ends with no backslash pending. -/
theorem slashesAfter_field (plain : field.Plain)
    (leaves : field.LeavesTags) : slashesAfter 0 field.markup = 0 := by
  cases field with
  | fixed text => exact slashesAfter_of_notMem plain.2
  | inserted width text =>
    rw [Field.markup, padded, slashesAfter_append, slashesAfter_escape leaves]
    exact slashesAfter_of_notMem (notMem_blanks (by decide) _)

end Field

section Parts

variable {part : Part} {parts : List Part}

theorem partsMarkup_cons (part : Part) (rest : List Part) :
    partsMarkup (part :: rest) = part.markup ++ partsMarkup rest := List.flatMap_cons

/-- A part opens with its tag; its field and the rest follow. -/
theorem markup_append (part : Part) (rest : Text) :
    part.markup ++ rest = opening :: (part.tag ++ closing :: (part.field.markup ++ rest)) := by
  simp [Part.markup, bracketed]

theorem length_markup (part : Part) : part.markup.length = part.tag.length + 2 + part.field.markup.length := by
  simp only [Part.markup, bracketed, List.length_append, List.length_cons, List.length_nil]

/-- Parts begin with an opening bracket. -/
theorem toClosing?_partsMarkup (parts : List Part) : toClosing? (partsMarkup parts) = none := by
  cases parts with
  | nil => rfl
  | cons part rest => rw [partsMarkup_cons, markup_append, toClosing?, if_neg (by decide), if_pos rfl]

/-- **One part after another.** The tag of the part is active unless an odd number of backslashes waits in front of
it, and the next part finds the backslashes that end the field. -/
theorem tagsOf_partsMarkup_cons (sound : part.Sound) (place slashes : Nat) (rest : List Part) :
    tagsOf (groupsFrom place slashes 0 (partsMarkup (part :: rest))) =
      (if slashes % 2 = 0 then [⟨place, part.tag⟩] else []) ++
        tagsOf (groupsFrom (place + part.markup.length) (slashesAfter 0 part.field.markup) 0 (partsMarkup rest)) := by
  have further : place + part.tag.length + 2 + part.field.markup.length = place + part.markup.length := by
    rw [length_markup]
    omega
  rw [partsMarkup_cons, markup_append, groupsFrom_group sound.isInside,
    groupsFrom_append (toClosing?_partsMarkup rest), further,
    ← List.singleton_append, tagsOf_append, tagsOf_append, tagsOf_field sound.plain, List.nil_append]
  by_cases active : slashes % 2 = 0 <;> simp [tagsOf, Group.isActive, active]

/-- The tags of rendered parts are tags of the parts: inserted texts add none. -/
theorem tagsOf_partsMarkup_sublist (sound : ∀ part ∈ parts, part.Sound) (place slashes : Nat) :
    (tagsOf (groupsFrom place slashes 0 (partsMarkup parts))).Sublist (ownTagsFrom place parts) := by
  induction parts generalizing place slashes with
  | nil => exact List.Sublist.refl []
  | cons part rest ih =>
    rw [List.forall_mem_cons] at sound
    rw [tagsOf_partsMarkup_cons sound.1, ownTagsFrom]
    split
    · exact (ih sound.2 _ _).cons_cons _
    · exact (ih sound.2 _ _).cons _

/-- When no inserted text ends in a backslash, all tags of the parts are tags. -/
theorem tagsOf_partsMarkup (sound : ∀ part ∈ parts, part.Sound) (leave : ∀ part ∈ parts, part.field.LeavesTags)
    (place : Nat) : tagsOf (groupsFrom place 0 0 (partsMarkup parts)) = ownTagsFrom place parts := by
  induction parts generalizing place with
  | nil => rfl
  | cons part rest ih =>
    rw [List.forall_mem_cons] at sound leave
    rw [tagsOf_partsMarkup_cons sound.1, if_pos rfl, slashesAfter_field sound.1.plain leave.1, ih sound.2 leave.2]
    rfl

/-- The own tags of more parts stand further on by the length of those before them. -/
theorem ownTagsFrom_append (place : Nat) (xs ys : List Part) :
    ownTagsFrom place (xs ++ ys) = ownTagsFrom place xs ++ ownTagsFrom (place + (partsMarkup xs).length) ys := by
  induction xs generalizing place with
  | nil => rfl
  | cons part xs ih =>
    rw [List.cons_append, ownTagsFrom, ih, ownTagsFrom, partsMarkup_cons, List.length_append, Nat.add_assoc]
    rfl

/-- The tags of parts stand within their markup. -/
theorem bounds_of_mem_ownTagsFrom {t : Tag} {place : Nat} (listed : t ∈ ownTagsFrom place parts) :
    place ≤ t.place ∧ t.stop ≤ place + (partsMarkup parts).length := by
  induction parts generalizing place with
  | nil => cases listed
  | cons part rest ih =>
    rw [partsMarkup_cons, List.length_append]
    rcases List.mem_cons.1 listed with rfl | later
    · have shown : (bracketed part.tag).length ≤ part.markup.length := by simp [Part.markup]
      simp only [Tag.stop]
      omega
    · obtain ⟨low, high⟩ := ih later
      omega

end Parts

namespace Line

variable {line : Line}

/-- What is in front of the parts has no group, so the tags of a line are those of its parts. -/
theorem activeTags_markup (sound : line.Sound) :
    activeTags line.markup = tagsOf (groupsFrom line.start.length 0 0 (partsMarkup line.parts)) := by
  have alone : groupsFrom 0 0 0 line.start = [] := sound.start
  rw [activeTags, groups, markup, groupsFrom_append (toClosing?_partsMarkup _), alone, Nat.zero_add,
    slashesAfter_eq_zero_iff.2 sound.ends, List.nil_append]

/-- **No tag of a sound line comes from what is inserted.** -/
theorem activeTags_sublist (sound : line.Sound) : (activeTags line.markup).Sublist line.ownTags := by
  rw [activeTags_markup sound]
  exact tagsOf_partsMarkup_sublist sound.parts _ _

/-- **The tags of a sound line are its own if no insertion ends with a backslash.** -/
theorem activeTags_eq (sound : line.Sound) (leave : ∀ part ∈ line.parts, part.field.LeavesTags) :
    activeTags line.markup = line.ownTags := by
  rw [activeTags_markup sound]
  exact tagsOf_partsMarkup sound.parts leave _

/-- Three backslashes at the end are not doubled, and take the meaning from the next tag. -/
example :
    let line : Line := ⟨[], [⟨"b", .inserted 0 (List.replicate 3 backslash)⟩, ⟨"/b", .fixed []⟩]⟩
    activeTags line.markup = [⟨0, "b"⟩] := by decide +kernel

theorem exists_inserts_iff {text : Text} :
    (∃ before, line.Inserts before text) ↔ ∃ tag width, ⟨tag, .inserted width text⟩ ∈ line.parts := by
  constructor
  · rintro ⟨-, xs, tag, width, ys, parts, -⟩
    exact ⟨tag, width, by simp [parts]⟩
  · rintro ⟨tag, width, listed⟩
    obtain ⟨xs, ys, parts⟩ := List.append_of_mem listed
    exact ⟨_, xs, tag, width, ys, parts, rfl⟩

/-- An inserted text stands, escaped, behind what comes before it. -/
theorem Inserts.isPrefix {before text : Text} (inserts : line.Inserts before text) :
    before ++ escape text <+: line.markup := by
  obtain ⟨xs, tag, width, ys, parts, rfl⟩ := inserts
  refine ⟨blanks (width - (escape text).length) ++ partsMarkup ys, ?_⟩
  simp [markup, parts, partsMarkup, Part.markup, Field.markup, padded]

/-- No tag that a line is put together from stands in what it inserts. -/
theorem Inserts.separate {before text : Text} (inserts : line.Inserts before text) {t : Tag}
    (own : t ∈ line.ownTags) : t.stop ≤ before.length ∨ (before ++ escape text).length ≤ t.place := by
  obtain ⟨xs, tag, width, ys, parts, rfl⟩ := inserts
  rw [ownTags, parts, ownTagsFrom_append, ownTagsFrom, List.mem_append, List.mem_cons] at own
  rcases own with earlier | rfl | later
  · obtain ⟨-, high⟩ := bounds_of_mem_ownTagsFrom earlier
    left
    simp only [List.length_append]
    omega
  · left
    simp only [List.length_append, Tag.stop]
    omega
  · obtain ⟨low, -⟩ := bounds_of_mem_ownTagsFrom later
    right
    simp [Part.markup, Field.markup, padded] at low ⊢
    omega

end Line

end CompileDb.Markup
