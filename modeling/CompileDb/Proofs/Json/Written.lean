import CompileDb.Json
import Mathlib.Data.List.Basic

/-!
# Documents as they are written

A list of objects whose values are texts is written without a blank, with an escape for every character
that cannot stand in a string by itself (`objectList`). It is read back as it was written (`read_objectList`).
`Writes` says of any part of a document that it is read as a value, wherever it stands; it holds of strings
(`writes_quote`), of objects (`writes_object`) and of the list of them (`writes_objectList`). The fields of an
object and the items of a list are rows (`ReadsRows`): a comma or a closing bracket is never taken for a part of
what it stands behind, so a row is read part by part (`ReadsRows.read_separated`).
-/

namespace CompileDb

/-- A character is read back from its code. -/
theorem Letter.ofCode?_toNat (c : Char) : Letter.ofCode? c.toNat = some (.char c) :=
  ofCode?_eq_some_iff.2 rfl

/-- A text without carriage returns has its lines end as they should. -/
theorem Text.unifyLineEnds_eq_self {text : List Char} (free : '\r' ∉ text) : unifyLineEnds text = text := by
  fun_induction unifyLineEnds text with
  | case1 => simp at free
  | case2 => simp at free
  | case3 c rest _ _ ih => rw [ih (List.not_mem_of_not_mem_cons free)]
  | case4 => rfl

namespace Json

/-- A character as it stands in a string. -/
def escape (c : Char) : List Char :=
  if c = '"' ∨ c = '\\' ∨ c.toNat < 0x20 then '\\' :: 'u' :: Text.hexDigits 4 c.toNat else [c]

def quote (text : String) : List Char := '"' :: (text.toList.flatMap escape ++ ['"'])

/-- Parts with commas between them, and what closes their row. -/
def separated (closing : Char) : List (List Char) → List Char
  | [] => [closing]
  | [part] => part ++ [closing]
  | part :: parts => part ++ ',' :: separated closing parts

/-- A name and the text it has for a value. -/
def field (f : String × String) : List Char := quote f.1 ++ ':' :: quote f.2

def object (fields : List (String × String)) : List Char := '\x7b' :: separated '\x7d' (fields.map field)

/-- A list of objects, of each of which the fields are given. -/
def objectList (objects : List (List (String × String))) : List Char := '[' :: separated ']' (objects.map object)

/-- What is read for a name and the text it has for a value. -/
def fieldOf (f : String × String) : Text × Value := (f.1, .text f.2)

/-- A text is read as a value wherever it stands, in some room. -/
structure Writes (limits : Limits) (room : Nat) (text : List Char) (v : Value) : Prop where
  solid : ∀ rest, skipBlanks (text ++ rest) = text ++ rest
  read : ∀ fuel rest, text.length < fuel → value limits fuel room (text ++ rest) = .ok (v, rest)

section String

/-- The escape for an ASCII character stands for that character. -/
theorem codePoint_hexDigits {c : Char} (ascii : c.toNat < 0x80) (next : Char) (rest : List Char) :
    codePoint ('u' :: (Text.hexDigits 4 c.toNat ++ next :: rest)) = .ok (.char c, next :: rest) := by
  have digits : ∀ n < 0x80, Text.inBase? 16 (Text.hexDigits 4 n) = some n ∧ (Text.hexDigits 4 n).length = 4 := by
    decide +kernel
  obtain ⟨stated, four⟩ := digits c.toNat ascii
  generalize Text.hexDigits 4 c.toNat = hex at stated four
  obtain ⟨h₁, h₂, h₃, h₄, rfl⟩ : ∃ h₁ h₂ h₃ h₄, hex = [h₁, h₂, h₃, h₄] := by
    match hex, four with
    | [h₁, h₂, h₃, h₄], _ => exact ⟨h₁, h₂, h₃, h₄, rfl⟩
  have unit : codeUnit? (h₁ :: h₂ :: h₃ :: h₄ :: next :: rest) = some (c.toNat, next :: rest) := by
    simp [codeUnit?, stated]
  have letter : letterOfUnit c.toNat = .char c := by
    rw [letterOfUnit, Letter.ofCode?_toNat]
    rfl
  simp only [codePoint, List.drop_one, List.tail_cons, List.cons_append, List.nil_append, unit, letter]
  split
  · rw [if_neg (by omega)]
  · rfl

/-- What stands for a character is read as it, if anything follows. -/
theorem stringRest_escape_append (opening : List Char) (fuel : Nat) (read : Text) (c next : Char) (rest : List Char) :
    stringRest opening (fuel + 1) read (escape c ++ next :: rest) =
      stringRest opening fuel (.char c :: read) (next :: rest) := by
  by_cases special : c = '"' ∨ c = '\\' ∨ c.toNat < 0x20
  · have ascii : c.toNat < 0x80 := by
      rcases special with rfl | rfl | control
      · decide
      · decide
      · omega
    have point := codePoint_hexDigits ascii next rest
    rw [escape, if_pos special, List.cons_append, List.cons_append, stringRest]
    simp only [point]
  · obtain ⟨noQuote, others⟩ := not_or.1 special
    obtain ⟨noBackslash, noControl⟩ := not_or.1 others
    rw [escape, if_neg special, List.singleton_append, stringRest, if_neg noControl]
    · exact noQuote
    · exact noBackslash

/-- The string reader undoes `escape`, letter by letter, and stops at the closing mark. -/
theorem stringRest_flatMap_escape (opening : List Char) (cs : List Char) (read : Text) (rest : List Char) {fuel : Nat}
    (enough : cs.length < fuel) :
    stringRest opening fuel read (cs.flatMap escape ++ '"' :: rest) = .ok (read.reverse ++ Text.ofChars cs, rest) := by
  induction cs generalizing fuel read with
  | nil =>
    obtain ⟨fuel, rfl⟩ := Nat.exists_eq_succ_of_ne_zero (Nat.ne_zero_of_lt enough)
    simp [stringRest, Text.ofChars]
  | cons c cs ih =>
    obtain ⟨fuel, rfl⟩ := Nat.exists_eq_succ_of_ne_zero (Nat.ne_zero_of_lt enough)
    have others := ih (.char c :: read) (Nat.lt_of_succ_lt_succ enough)
    obtain ⟨next, more, follows⟩ : ∃ next more, cs.flatMap escape ++ '"' :: rest = next :: more :=
      List.exists_cons_of_ne_nil (by simp)
    rw [List.flatMap_cons, List.append_assoc, follows, stringRest_escape_append, ← follows, others]
    simp [Text.ofChars]

theorem length_lt_length_quote (text : String) : text.toList.length + 1 < (quote text).length := by
  have each : ∀ c, 1 ≤ (escape c).length := by
    intro c
    unfold escape
    split <;> simp
  have all : ∀ cs : List Char, cs.length ≤ (cs.flatMap escape).length := by
    intro cs
    induction cs with
    | nil => exact Nat.le_refl 0
    | cons c cs ih =>
      have first := each c
      rw [List.flatMap_cons, List.length_append, List.length_cons]
      omega
  have whole := all text.toList
  rw [quote, List.length_cons, List.length_append, List.length_singleton]
  omega

/-- A string is read as the text it is written for. -/
theorem stringRest_quote (opening : List Char) (text : String) (rest : List Char) (fuel : Nat)
    (enough : text.toList.length < fuel) :
    stringRest opening fuel [] (text.toList.flatMap escape ++ ['"'] ++ rest) = .ok (Text.ofString text, rest) := by
  rw [List.append_assoc, List.singleton_append, stringRest_flatMap_escape opening _ _ _ enough]
  rfl

/-- A quoted text is read as the text. -/
theorem writes_quote (limits : Limits) (room : Nat) (text : String) : Writes limits room (quote text) (.text text) := by
  refine ⟨fun _ => rfl, fun fuel rest enough => ?_⟩
  obtain ⟨fuel, rfl⟩ := Nat.exists_eq_succ_of_ne_zero (Nat.ne_zero_of_lt enough)
  have short := length_lt_length_quote text
  rw [quote, List.cons_append, value, stringRest_quote _ _ _ _ (by omega)]
  rfl

end String

section Rows

variable {α : Type} {closing : Char} {part : α → List Char} {reader : Nat → List α → List Char → Part Value}
  {close : List α → Value}

/-- A reader of rows takes part after part, those in front in reverse: behind a comma the next one, and behind the
last one it closes. -/
structure ReadsRows (closing : Char) (part : α → List Char) (reader : Nat → List α → List Char → Part Value)
    (close : List α → Value) : Prop where
  solid : ∀ a rest, skipBlanks (part a ++ rest) = part a ++ rest
  next : ∀ fuel front a rest, (part a).length < fuel →
    reader (fuel + 1) front (part a ++ ',' :: rest) = reader fuel (a :: front) (skipBlanks rest)
  last : ∀ fuel front a rest, (part a).length < fuel →
    reader (fuel + 1) front (part a ++ closing :: rest) = .ok (close (a :: front).reverse, rest)

theorem ReadsRows.solid_separated (reads : ReadsRows closing part reader close) (a : α) (as : List α)
    (rest : List Char) :
    skipBlanks (separated closing ((a :: as).map part) ++ rest) = separated closing ((a :: as).map part) ++ rest := by
  cases as with
  | nil => simp only [List.map_cons, List.map_nil, separated, List.append_assoc, reads.solid]
  | cons b as => simp only [List.map_cons, separated, List.append_assoc, reads.solid]

/-- A row is read to its end, whatever stands in front of it and behind it. -/
theorem ReadsRows.read_separated (reads : ReadsRows closing part reader close) (a : α) (as : List α) (front : List α)
    (rest : List Char) (fuel : Nat) (enough : (separated closing ((a :: as).map part)).length < fuel) :
    reader fuel front (separated closing ((a :: as).map part) ++ rest) =
      .ok (close (front.reverse ++ a :: as), rest) := by
  obtain ⟨fuel, rfl⟩ := Nat.exists_eq_succ_of_ne_zero (Nat.ne_zero_of_lt enough)
  -- A part takes one unit of fuel and is followed by a comma, so what is left stays enough for the rest.
  induction as generalizing a fuel front with
  | nil =>
    have row : separated closing ([a].map part) = part a ++ [closing] := rfl
    rw [row, List.length_append, List.length_singleton] at enough
    rw [row, List.append_assoc, List.singleton_append, reads.last _ _ _ _ (by omega), List.reverse_cons]
  | cons b as ih =>
    have row : separated closing ((a :: b :: as).map part) =
        part a ++ ',' :: separated closing ((b :: as).map part) := rfl
    rw [row, List.length_append, List.length_cons] at enough
    obtain ⟨fuel, rfl⟩ := Nat.exists_eq_succ_of_ne_zero (show fuel ≠ 0 by omega)
    rw [row, List.append_assoc, List.cons_append, reads.next _ _ _ _ (by omega), reads.solid_separated,
      ih b (a :: front) fuel (by omega), List.reverse_cons, List.append_assoc, List.singleton_append]

end Rows

section Objects

variable (limits : Limits) (room : Nat)

/-- How an object goes on behind a field. -/
def fieldsBehind (fuel : Nat) (front : Value.Fields) : List Char → Part Value
  | '\x7d' :: rest => .ok (.table front.reverse, rest)
  | ',' :: rest => fields limits fuel room front (skipBlanks rest)
  | rest => .error (.fault .commaExpected rest)

/-- A field is read wherever it stands. -/
theorem fields_field_append {fuel : Nat} (front : Value.Fields) (f : String × String) (rest : List Char)
    (enough : (field f).length < fuel) :
    fields limits (fuel + 1) room front (field f ++ rest) =
      fieldsBehind limits room fuel (fieldOf f :: front) (skipBlanks rest) := by
  have short := length_lt_length_quote f.1
  have size : (field f).length = (quote f.1).length + (quote f.2).length + 1 := by
    rw [field, List.length_append, List.length_cons]
    rfl
  have name := stringRest_quote (field f ++ rest) f.1 (':' :: (quote f.2 ++ rest)) fuel (by omega)
  have colon : skipBlanks (':' :: (quote f.2 ++ rest)) = ':' :: (quote f.2 ++ rest) := rfl
  have reads := (writes_quote limits room f.2).read fuel rest (by omega)
  have solid := (writes_quote limits room f.2).solid rest
  have begins : field f ++ rest = '"' :: (f.1.toList.flatMap escape ++ ['"'] ++ ':' :: (quote f.2 ++ rest)) := by
    simp [field, quote]
  rw [begins] at name ⊢
  simp only [fields, name, colon, solid, reads, fieldOf]
  rfl

theorem readsRows_fields : ReadsRows '\x7d' field
    (fun fuel front => fields limits fuel room (front.map fieldOf)) fun fs => .table (fs.map fieldOf) where
  solid _ _ := rfl
  next fuel front f rest enough := fields_field_append limits room (front.map fieldOf) f (',' :: rest) enough
  last fuel front f rest enough := by
    rw [List.map_reverse]
    exact fields_field_append limits room (front.map fieldOf) f ('\x7d' :: rest) enough

/-- An object is read as the table of its fields. -/
theorem writes_object (fs : List (String × String)) :
    Writes limits (room + 1) (object fs) (.table (fs.map fieldOf)) := by
  refine ⟨fun _ => rfl, fun fuel rest enough => ?_⟩
  obtain ⟨fuel, rfl⟩ := Nat.exists_eq_succ_of_ne_zero (Nat.ne_zero_of_lt enough)
  rw [object, List.length_cons] at enough
  rw [object, List.cons_append, value]
  cases fs with
  | nil => rfl
  | cons f fs =>
    have reads := (readsRows_fields limits room).read_separated f fs [] rest fuel (by omega)
    cases fs <;> exact reads

/-- How a list goes on behind an item. -/
def itemsBehind (fuel : Nat) (front : List Value) : List Char → Part Value
  | ']' :: rest => .ok (.list front.reverse, rest)
  | ',' :: rest => items limits fuel room front (skipBlanks rest)
  | rest => .error (.fault .commaExpected rest)

/-- An item is read wherever it stands. -/
theorem items_append {fuel : Nat} {part : List Char} {v : Value} (writes : Writes limits room part v)
    (front : List Value) (rest : List Char) (enough : part.length < fuel) :
    items limits (fuel + 1) room front (part ++ rest) =
      itemsBehind limits room fuel (v :: front) (skipBlanks rest) := by
  simp only [items, writes.read fuel rest enough]
  rfl

theorem readsRows_items : ReadsRows ']' object
    (fun fuel front => items limits fuel (room + 1) (front.map fun fs => .table (fs.map fieldOf)))
    fun os => .list (os.map fun fs => .table (fs.map fieldOf)) where
  solid _ _ := rfl
  next fuel front fs rest enough :=
    items_append limits (room + 1) (writes_object limits room fs) _ (',' :: rest) enough
  last fuel front fs rest enough := by
    rw [List.map_reverse]
    exact items_append limits (room + 1) (writes_object limits room fs) _ (']' :: rest) enough

/-- A list of objects is read as the list of their tables. -/
theorem writes_objectList (os : List (List (String × String))) :
    Writes limits (room + 2) (objectList os) (.list (os.map fun fs => .table (fs.map fieldOf))) := by
  refine ⟨fun _ => rfl, fun fuel rest enough => ?_⟩
  obtain ⟨fuel, rfl⟩ := Nat.exists_eq_succ_of_ne_zero (Nat.ne_zero_of_lt enough)
  rw [objectList, List.length_cons] at enough
  rw [objectList, List.cons_append, value]
  cases os with
  | nil => rfl
  | cons o os =>
    have reads := (readsRows_items limits room).read_separated o os [] rest fuel (by omega)
    cases os <;> exact reads

end Objects

/-- **A list of objects is read as it was written**, where there is room for two values one in another. -/
theorem read_objectList {limits : Limits} (room : 2 ≤ limits.calls) (os : List (List (String × String))) :
    read limits (objectList os) = .ok (.list (os.map fun fs => .table (fs.map fieldOf))) := by
  obtain ⟨deeper, calls⟩ := Nat.exists_eq_add_of_le' room
  have writes := writes_objectList limits deeper os
  have whole := writes.read (2 * (objectList os).length + 2) [] (by omega)
  have solid := writes.solid []
  rw [List.append_nil] at whole solid
  have document : document limits (objectList os) = .ok (.list (os.map fun fs => .table (fs.map fieldOf))) := by
    unfold document
    split
    · next opening => cases opening
    · rw [solid, calls, whole]
      rfl
  rw [read, document]

section LineEnds

/-- A text without control characters. -/
def IsPlain (text : List Char) : Prop := ∀ c ∈ text, 0x20 ≤ c.toNat

theorem isPlain_append {text more : List Char} : IsPlain (text ++ more) ↔ IsPlain text ∧ IsPlain more :=
  List.forall_mem_append

theorem isPlain_cons {c : Char} {text : List Char} : IsPlain (c :: text) ↔ 0x20 ≤ c.toNat ∧ IsPlain text :=
  List.forall_mem_cons

theorem isPlain_quote (text : String) : IsPlain (quote text) := by
  have hex : ∀ n < 0x80, (Text.hexDigits 4 n).all (fun c => decide (0x20 ≤ c.toNat)) = true := by decide +kernel
  have each : ∀ c, IsPlain (escape c) := by
    intro c
    unfold escape
    split
    · next special =>
      refine isPlain_cons.2 ⟨by decide, isPlain_cons.2 ⟨by decide, fun digit listed => ?_⟩⟩
      refine of_decide_eq_true (List.all_eq_true.1 (hex c.toNat ?_) digit listed)
      rcases special with rfl | rfl | control
      · decide
      · decide
      · omega
    · next plain => exact isPlain_cons.2 ⟨by omega, nofun⟩
  refine isPlain_cons.2 ⟨by decide, isPlain_append.2 ⟨?_, isPlain_cons.2 ⟨by decide, nofun⟩⟩⟩
  exact List.forall_mem_flatMap.2 fun c _ => each c

theorem isPlain_separated {closing : Char} (plain : 0x20 ≤ closing.toNat) {parts : List (List Char)}
    (each : ∀ part ∈ parts, IsPlain part) : IsPlain (separated closing parts) := by
  fun_induction separated closing parts with
  | case1 => exact isPlain_cons.2 ⟨plain, nofun⟩
  | case2 part => exact isPlain_append.2 ⟨each part (by simp), isPlain_cons.2 ⟨plain, nofun⟩⟩
  | case3 part parts _ ih =>
    obtain ⟨first, others⟩ := List.forall_mem_cons.1 each
    exact isPlain_append.2 ⟨first, isPlain_cons.2 ⟨by decide, ih others⟩⟩

/-- A rendered list has no line end, so unifying line ends leaves it as it is. -/
theorem isPlain_objectList (os : List (List (String × String))) : IsPlain (objectList os) := by
  have field : ∀ f, IsPlain (field f) := fun f =>
    isPlain_append.2 ⟨isPlain_quote f.1, isPlain_cons.2 ⟨by decide, isPlain_quote f.2⟩⟩
  have object : ∀ fs, IsPlain (object fs) := fun fs =>
    isPlain_cons.2 ⟨by decide, isPlain_separated (by decide) (List.forall_mem_map.2 fun f _ => field f)⟩
  exact isPlain_cons.2 ⟨by decide, isPlain_separated (by decide) (List.forall_mem_map.2 fun fs _ => object fs)⟩

end LineEnds

/-- A list of objects is written in one line. -/
theorem unifyLineEnds_objectList (os : List (List (String × String))) :
    Text.unifyLineEnds (objectList os) = objectList os :=
  Text.unifyLineEnds_eq_self fun returns => absurd (isPlain_objectList os '\r' returns) (by decide)

end Json

end CompileDb
