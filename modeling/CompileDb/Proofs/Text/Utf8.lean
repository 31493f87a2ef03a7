import CompileDb.Text.Utf8
import Mathlib.Algebra.Group.Nat.Defs

/-!
# Bytes that are UTF-8

The bytes that are read are those of some text, and the text that is read is the one they are the bytes
of (`decode_eq_ok_iff`). A sequence under way stands for the code points that fit it (`Pending.Fits`):
those whose higher bits are read already and whose next byte is one that may come next. The bytes that
open a sequence leave no code point out (`exists_opens`) and let none in that is not written so
(`Pending.Opens.stands`); each further byte keeps both.
-/

namespace CompileDb.Text.Utf8

/-- The bytes of a text. -/
def encode (text : List Char) : List UInt8 := text.flatMap String.utf8EncodeChar

/-- The last `n` bytes of the sequence of a code point: six bits each, the highest first. -/
def tailBytes : Nat → Nat → List UInt8
  | 0, _ => []
  | n + 1, v => UInt8.ofNat (v / 64 ^ n % 64 + 0x80) :: tailBytes n v

/-- A code point whose sequence can go on from here. -/
structure Pending.Fits (p : Pending) (v : Nat) : Prop where
  payload : v / 64 ^ (p.owed + 1) = p.payload
  low : p.low.toNat ≤ v / 64 ^ p.owed % 64 + 0x80
  high : v / 64 ^ p.owed % 64 + 0x80 ≤ p.high.toNat

/-- The bytes in front are those that the code points which fit are written with. -/
structure Pending.Stands (p : Pending) (front : List UInt8) : Prop where
  low : 0x80 ≤ p.low.toNat
  high : p.high.toNat ≤ 0xBF
  writes : ∀ v, p.Fits v → String.utf8EncodeChar (Char.ofNat v) = front ++ tailBytes (p.owed + 1) v

/-- The sequence after one more byte. -/
def Pending.next (p : Pending) (owed payload : Nat) : Pending := ⟨p.lead, p.taken + 1, owed, 0x80, 0xBF, payload⟩

theorem encode_cons (c : Char) (text : List Char) : encode (c :: text) = String.utf8EncodeChar c ++ encode text :=
  List.flatMap_cons

theorem toNat_tailByte (n v : Nat) : (UInt8.ofNat (v / 64 ^ n % 64 + 0x80)).toNat = v / 64 ^ n % 64 + 0x80 := by
  have digit : v / 64 ^ n % 64 < 64 := Nat.mod_lt _ (by decide)
  rw [UInt8.toNat_ofNat', Nat.mod_eq_of_lt (by omega)]

/-- The bits above a digit and the digit itself are the bits from that digit on. -/
theorem div_pow_succ_mul_add (v n : Nat) : v / 64 ^ (n + 1) * 64 + v / 64 ^ n % 64 = v / 64 ^ n := by
  rw [Nat.pow_succ, ← Nat.div_div_eq_div_mul]
  omega

section Pending

variable {p : Pending} {v : Nat}

theorem Pending.fits_next (p : Pending) (owed v : Nat) : (p.next owed (v / 64 ^ (owed + 1))).Fits v := by
  have digit : v / 64 ^ owed % 64 < 64 := Nat.mod_lt _ (by decide)
  refine ⟨rfl, Nat.le_add_left .., ?_⟩
  show v / 64 ^ owed % 64 + 0x80 ≤ 0xBF
  omega

theorem decodeFrom_cons_of_pending {offset : Nat} {read : List Char} {b : UInt8} {rest : List UInt8}
    (accepted : p.low ≤ b ∧ b ≤ p.high) :
    decodeFrom offset (some p) read (b :: rest) =
      match p.owed with
      | 0 => decodeFrom (offset + 1) none (Char.ofNat (p.payload * 64 + (b.toNat - 0x80)) :: read) rest
      | owed + 1 =>
        decodeFrom (offset + 1) (some (p.next owed (p.payload * 64 + (b.toNat - 0x80)))) read rest := by
  rw [decodeFrom, if_pos accepted]
  rfl

/-- The decoder takes the next byte of a value that fits what is pending. -/
theorem decodeFrom_cons_of_fits (fits : p.Fits v) (offset : Nat) (read : List Char) (rest : List UInt8) :
    decodeFrom offset (some p) read (UInt8.ofNat (v / 64 ^ p.owed % 64 + 0x80) :: rest) =
      match p.owed with
      | 0 => decodeFrom (offset + 1) none (Char.ofNat (v / 64 ^ p.owed) :: read) rest
      | owed + 1 => decodeFrom (offset + 1) (some (p.next owed (v / 64 ^ p.owed))) read rest := by
  have accepted : p.low ≤ UInt8.ofNat (v / 64 ^ p.owed % 64 + 0x80) ∧
      UInt8.ofNat (v / 64 ^ p.owed % 64 + 0x80) ≤ p.high := by
    simp only [UInt8.le_iff_toNat_le, toNat_tailByte]
    exact ⟨fits.low, fits.high⟩
  rw [decodeFrom_cons_of_pending accepted, toNat_tailByte, Nat.add_sub_cancel, ← fits.payload, div_pow_succ_mul_add]

/-- The rest of the sequence of a code point that fits is read as that code point. -/
theorem decodeFrom_tailBytes (fits : p.Fits v) (offset : Nat) (read : List Char) (rest : List UInt8) :
    decodeFrom offset (some p) read (tailBytes (p.owed + 1) v ++ rest) =
      decodeFrom (offset + p.owed + 1) none (Char.ofNat v :: read) rest := by
  induction owed : p.owed generalizing p offset with
  | zero =>
    have first := decodeFrom_cons_of_fits fits offset read rest
    rw [owed, Nat.pow_zero, Nat.div_one] at first
    simpa [tailBytes] using first
  | succ n ih =>
    have first := decodeFrom_cons_of_fits fits offset read (tailBytes (n + 1) v ++ rest)
    rw [owed] at first
    rw [tailBytes, List.cons_append, first]
    show decodeFrom (offset + 1) (some (p.next n (v / 64 ^ (n + 1)))) read (tailBytes (n + 1) v ++ rest) = _
    rw [ih (p.fits_next n v) (offset + 1) rfl, Nat.add_right_comm offset 1 n, Nat.add_assoc offset n 1]

/-- A code point that agrees with the bits read so far and with a byte that is accepted. -/
theorem Pending.Stands.fits {front : List UInt8} {b : UInt8} (stands : p.Stands front)
    (accepted : p.low ≤ b ∧ b ≤ p.high) (exact : v / 64 ^ p.owed = p.payload * 64 + (b.toNat - 0x80)) :
    p.Fits v ∧ UInt8.ofNat (v / 64 ^ p.owed % 64 + 0x80) = b := by
  have low := UInt8.le_iff_toNat_le.1 accepted.1
  have high := UInt8.le_iff_toNat_le.1 accepted.2
  have above := stands.low
  have below := stands.high
  have digit : v / 64 ^ p.owed % 64 + 0x80 = b.toNat := by omega
  refine ⟨⟨?_, by omega, by omega⟩, by rw [digit, UInt8.ofNat_toNat]⟩
  rw [Nat.pow_succ, ← Nat.div_div_eq_div_mul]
  omega

/-- The last byte of a sequence makes it the sequence of a character. -/
theorem Pending.Stands.last {front : List UInt8} {b : UInt8} (stands : p.Stands front)
    (accepted : p.low ≤ b ∧ b ≤ p.high) (complete : p.owed = 0) :
    String.utf8EncodeChar (Char.ofNat (p.payload * 64 + (b.toNat - 0x80))) = front ++ [b] := by
  obtain ⟨fits, same⟩ := stands.fits (v := p.payload * 64 + (b.toNat - 0x80)) accepted (by simp [complete])
  rw [stands.writes _ fits, tailBytes, same, complete, tailBytes]

/-- One more byte, with others to come. -/
theorem Pending.Stands.snoc {front : List UInt8} {b : UInt8} {owed : Nat} (stands : p.Stands front)
    (accepted : p.low ≤ b ∧ b ≤ p.high) (goesOn : p.owed = owed + 1) :
    (p.next owed (p.payload * 64 + (b.toNat - 0x80))).Stands (front ++ [b]) := by
  refine ⟨Nat.le_refl _, Nat.le_refl _, fun v fits => ?_⟩
  have payload : v / 64 ^ (owed + 1) = p.payload * 64 + (b.toNat - 0x80) := fits.payload
  obtain ⟨fits, same⟩ := stands.fits accepted (by rw [goesOn, payload])
  rw [stands.writes v fits, tailBytes, same, goesOn, List.append_assoc]
  rfl

end Pending

/-- The sequence of a character, by the size of its code point. -/
theorem utf8EncodeChar_eq (c : Char) : String.utf8EncodeChar c =
    if c.toNat < 0x80 then [UInt8.ofNat c.toNat]
    else if c.toNat < 0x800 then UInt8.ofNat (c.toNat / 64 + 0xC0) :: tailBytes 1 c.toNat
    else if c.toNat < 0x10000 then UInt8.ofNat (c.toNat / 4096 + 0xE0) :: tailBytes 2 c.toNat
    else UInt8.ofNat (c.toNat / 262144 + 0xF0) :: tailBytes 3 c.toNat := by
  have bound : c.toNat < 0x110000 := by
    have := c.valid
    simp only [UInt32.isValidChar, Nat.isValidChar] at this
    show c.val.toNat < 0x110000
    omega
  have value : c.val.toNat = c.toNat := rfl
  simp only [String.utf8EncodeChar, value, tailBytes]
  generalize c.toNat = v at bound
  by_cases one : v < 0x80
  · rw [if_pos one, if_pos (by omega)]
  · by_cases two : v < 0x800
    · rw [if_neg one, if_neg (by omega), if_pos two, if_pos (by omega), Nat.mod_eq_of_lt (by omega : v / 64 < 0x20)]
      simp
    · by_cases three : v < 0x10000
      · rw [if_neg one, if_neg (by omega), if_neg two, if_neg (by omega), if_pos three, if_pos (by omega),
          Nat.mod_eq_of_lt (by omega : v / 4096 < 0x10)]
        simp
      · rw [if_neg one, if_neg (by omega), if_neg two, if_neg (by omega), if_neg three, if_neg (by omega),
          Nat.mod_eq_of_lt (by omega : v / 262144 < 0x08)]
        simp

theorem toNat_ofNat_of_valid {v : Nat} (valid : v.isValidChar) : (Char.ofNat v).toNat = v := by
  rw [Char.ofNat, dif_pos valid]
  rfl

namespace Pending

/-- What a byte opens, by the length of its sequence. -/
inductive Opens (b : UInt8) : Pending → Prop where
  | two (least : 0xC2 ≤ b.toNat) (below : b.toNat < 0xE0) : Opens b ⟨b, 1, 0, 0x80, 0xBF, b.toNat - 0xC0⟩
  | three (least : 0xE0 ≤ b.toNat) (below : b.toNat < 0xF0) :
      Opens b ⟨b, 1, 1, if b = 0xE0 then 0xA0 else 0x80, if b = 0xED then 0x9F else 0xBF, b.toNat - 0xE0⟩
  | four (least : 0xF0 ≤ b.toNat) (below : b.toNat < 0xF5) :
      Opens b ⟨b, 1, 2, if b = 0xF0 then 0x90 else 0x80, if b = 0xF4 then 0x8F else 0xBF, b.toNat - 0xF0⟩

/-- What a first byte leaves pending, by its range. -/
theorem ofLead?_eq_some_iff {b : UInt8} {p : Pending} : ofLead? b = some p ↔ Opens b p := by
  simp only [ofLead?, UInt8.lt_iff_toNat_lt, UInt8.reduceToNat]
  constructor
  · intro opens
    split at opens
    · cases opens
    split at opens
    · obtain rfl := Option.some.inj opens
      exact .two (by omega) (by omega)
    split at opens
    · obtain rfl := Option.some.inj opens
      exact .three (by omega) (by omega)
    split at opens
    · obtain rfl := Option.some.inj opens
      exact .four (by omega) (by omega)
    · cases opens
  · intro opens
    cases opens with
    | two => rw [if_neg (by omega), if_pos (by omega)]
    | three => rw [if_neg (by omega), if_neg (by omega), if_pos (by omega)]
    | four => rw [if_neg (by omega), if_neg (by omega), if_neg (by omega), if_pos (by omega)]

theorem fits_two_iff {b : UInt8} {v : Nat} :
    Fits ⟨b, 1, 0, 0x80, 0xBF, b.toNat - 0xC0⟩ v ↔ v / 64 = b.toNat - 0xC0 := by
  refine ⟨Fits.payload, fun payload => ⟨payload, ?_, ?_⟩⟩
  · exact Nat.le_add_left ..
  · show v / 64 ^ 0 % 64 + 0x80 ≤ 0xBF
    omega

/-- The bounds of the second byte leave out what is shorter and what is no character. -/
theorem fits_three_iff {b : UInt8} {v : Nat} (least : 0xE0 ≤ b.toNat) :
    Fits ⟨b, 1, 1, if b = 0xE0 then 0xA0 else 0x80, if b = 0xED then 0x9F else 0xBF, b.toNat - 0xE0⟩ v ↔
      v / 4096 = b.toNat - 0xE0 ∧ 0x800 ≤ v ∧ (v < 0xD800 ∨ 0xDFFF < v) := by
  constructor
  · rintro ⟨payload, low, high⟩
    simp only [← UInt8.toNat_inj, apply_ite UInt8.toNat, UInt8.reduceToNat] at payload low high
    split at low <;> split at high <;> omega
  · rintro ⟨payload, longer, valid⟩
    refine ⟨payload, ?_, ?_⟩ <;> simp only [← UInt8.toNat_inj, apply_ite UInt8.toNat, UInt8.reduceToNat]
    · split <;> omega
    · split <;> omega

/-- The bounds of the second byte leave out what is shorter and what is no character. -/
theorem fits_four_iff {b : UInt8} {v : Nat} (least : 0xF0 ≤ b.toNat) (below : b.toNat < 0xF5) :
    Fits ⟨b, 1, 2, if b = 0xF0 then 0x90 else 0x80, if b = 0xF4 then 0x8F else 0xBF, b.toNat - 0xF0⟩ v ↔
      v / 262144 = b.toNat - 0xF0 ∧ 0x10000 ≤ v ∧ v < 0x110000 := by
  constructor
  · rintro ⟨payload, low, high⟩
    simp only [← UInt8.toNat_inj, apply_ite UInt8.toNat, UInt8.reduceToNat] at payload low high
    split at low <;> split at high <;> omega
  · rintro ⟨payload, longer, valid⟩
    refine ⟨payload, ?_, ?_⟩ <;> simp only [← UInt8.toNat_inj, apply_ite UInt8.toNat, UInt8.reduceToNat]
    · split <;> omega
    · split <;> omega

/-- The bounds for the next byte are bounds of tail bytes. -/
theorem Opens.bounds {b : UInt8} {p : Pending} (opens : Opens b p) : 0x80 ≤ p.low.toNat ∧ p.high.toNat ≤ 0xBF := by
  cases opens with
  | two => exact ⟨Nat.le_refl _, Nat.le_refl _⟩
  | three => constructor <;> simp only [apply_ite UInt8.toNat, UInt8.reduceToNat] <;> split <;> omega
  | four => constructor <;> simp only [apply_ite UInt8.toNat, UInt8.reduceToNat] <;> split <;> omega

theorem Opens.not_lt {b : UInt8} {p : Pending} (opens : Opens b p) : ¬ b < 0x80 := by
  simp only [UInt8.lt_iff_toNat_lt, UInt8.reduceToNat]
  cases opens <;> omega

/-- The sequence that a byte opens is that of every code point which fits it. -/
theorem Opens.stands {b : UInt8} {p : Pending} (opens : Opens b p) : p.Stands [b] := by
  refine ⟨opens.bounds.1, opens.bounds.2, fun v fits => ?_⟩
  cases opens with
  | two least below =>
    have payload := fits_two_iff.1 fits
    have same : (Char.ofNat v).toNat = v := toNat_ofNat_of_valid (.inl (by omega))
    rw [utf8EncodeChar_eq, same, if_neg (by omega), if_pos (by omega), payload, Nat.sub_add_cancel (by omega),
      UInt8.ofNat_toNat]
    rfl
  | three least below =>
    obtain ⟨payload, longer, valid⟩ := (fits_three_iff least).1 fits
    have same : (Char.ofNat v).toNat = v := toNat_ofNat_of_valid (by unfold Nat.isValidChar; omega)
    rw [utf8EncodeChar_eq, same, if_neg (by omega), if_neg (by omega), if_pos (by omega), payload,
      Nat.sub_add_cancel least, UInt8.ofNat_toNat]
    rfl
  | four least below =>
    obtain ⟨payload, longer, valid⟩ := (fits_four_iff least below).1 fits
    have same : (Char.ofNat v).toNat = v := toNat_ofNat_of_valid (.inr ⟨by omega, valid⟩)
    rw [utf8EncodeChar_eq, same, if_neg (by omega), if_neg (by omega), if_neg (by omega), payload,
      Nat.sub_add_cancel least, UInt8.ofNat_toNat]
    rfl

end Pending

/-- Every character above the ASCII range is written with a byte that opens its sequence. -/
theorem exists_opens {c : Char} (above : 0x80 ≤ c.toNat) :
    ∃ b p, Pending.Opens b p ∧ p.Fits c.toNat ∧ String.utf8EncodeChar c = b :: tailBytes (p.owed + 1) c.toNat := by
  have valid : c.toNat < 0xD800 ∨ 0xDFFF < c.toNat ∧ c.toNat < 0x110000 := c.valid
  have byte : ∀ n, n < 256 → (UInt8.ofNat n).toNat = n := fun n small => by
    rw [UInt8.toNat_ofNat', Nat.mod_eq_of_lt small]
  rw [utf8EncodeChar_eq, if_neg (by omega)]
  generalize c.toNat = v at above valid
  by_cases two : v < 0x800
  · have lead := byte (v / 64 + 0xC0) (by omega)
    refine ⟨_, _, .two (by omega) (by omega), Pending.fits_two_iff.2 ?_, if_pos two⟩
    rw [lead, Nat.add_sub_cancel]
  · rw [if_neg two]
    by_cases three : v < 0x10000
    · have lead := byte (v / 4096 + 0xE0) (by omega)
      refine ⟨_, _, .three (by omega) (by omega), (Pending.fits_three_iff (by omega)).2 ?_, if_pos three⟩
      exact ⟨by rw [lead, Nat.add_sub_cancel], by omega, by omega⟩
    · have lead := byte (v / 262144 + 0xF0) (by omega)
      refine ⟨_, _, .four (by omega) (by omega), (Pending.fits_four_iff (by omega) (by omega)).2 ?_, if_neg three⟩
      exact ⟨by rw [lead, Nat.add_sub_cancel], by omega, by omega⟩

/-- The sequence of a character is read as that character. -/
theorem exists_decodeFrom_utf8EncodeChar (c : Char) (offset : Nat) (read : List Char) (rest : List UInt8) :
    ∃ later, decodeFrom offset none read (String.utf8EncodeChar c ++ rest) =
      decodeFrom later none (c :: read) rest := by
  by_cases ascii : c.toNat < 0x80
  · refine ⟨offset + 1, ?_⟩
    have same : (UInt8.ofNat c.toNat).toNat = c.toNat := by
      rw [UInt8.toNat_ofNat', Nat.mod_eq_of_lt (by omega)]
    rw [utf8EncodeChar_eq, if_pos ascii, List.singleton_append, decodeFrom, if_pos, same, Char.ofNat_toNat]
    rw [UInt8.lt_iff_toNat_lt, same]
    exact ascii
  · obtain ⟨b, p, opens, fits, written⟩ := exists_opens (Nat.le_of_not_lt ascii)
    refine ⟨offset + 1 + p.owed + 1, ?_⟩
    rw [written, List.cons_append, decodeFrom, if_neg opens.not_lt]
    simp only [Pending.ofLead?_eq_some_iff.2 opens]
    rw [decodeFrom_tailBytes fits, Char.ofNat_toNat]

/-- The bytes of a text are read as that text. -/
theorem decodeFrom_encode (text : List Char) (offset : Nat) (read : List Char) :
    decodeFrom offset none read (encode text) = .ok (read.reverse ++ text) := by
  induction text generalizing offset read with
  | nil => simp [encode, decodeFrom]
  | cons c text ih =>
    obtain ⟨later, first⟩ := exists_decodeFrom_utf8EncodeChar c offset read (encode text)
    rw [encode_cons, first, ih]
    simp

/-- The bytes in front of what is still to be read. -/
def Leads : Option Pending → List UInt8 → Prop
  | none, front => front = []
  | some p, front => p.Stands front

/-- What is read on is a text whose bytes are those in front and those that follow. -/
theorem exists_of_decodeFrom {offset : Nat} {pending : Option Pending} {read : List Char} {bytes front : List UInt8}
    {text : List Char} (leads : Leads pending front) (decoded : decodeFrom offset pending read bytes = .ok text) :
    ∃ more, text = read.reverse ++ more ∧ front ++ bytes = encode more := by
  fun_induction decodeFrom offset pending read bytes generalizing front with
  | case1 offset read =>
    obtain rfl : front = [] := leads
    exact ⟨[], by simpa using (Except.ok.inj decoded).symm, rfl⟩
  | case2 => cases decoded
  | case3 offset read b rest ascii ih =>
    obtain rfl : front = [] := leads
    obtain ⟨more, rfl, written⟩ := ih rfl decoded
    have small : b.toNat < 0x80 := UInt8.lt_iff_toNat_lt.1 ascii
    have same : (Char.ofNat b.toNat).toNat = b.toNat := toNat_ofNat_of_valid (.inl (by omega))
    refine ⟨Char.ofNat b.toNat :: more, by simp, ?_⟩
    rw [encode_cons, ← written, utf8EncodeChar_eq, same, if_pos small, UInt8.ofNat_toNat]
    rfl
  | case4 => cases decoded
  | case5 offset read b rest above p opens ih =>
    obtain rfl : front = [] := leads
    exact ih (Pending.ofLead?_eq_some_iff.1 opens).stands decoded
  | case6 offset read b rest p accepted payload complete =>
    rename_i ih
    obtain ⟨more, rfl, written⟩ := ih rfl decoded
    refine ⟨Char.ofNat payload :: more, by simp, ?_⟩
    rw [encode_cons, ← written, Pending.Stands.last leads accepted complete]
    simp
  | case7 offset read b rest p accepted payload owed goesOn =>
    rename_i ih
    obtain ⟨more, same, written⟩ := ih (Pending.Stands.snoc leads accepted goesOn) decoded
    exact ⟨more, same, by simpa using written⟩
  | case8 => cases decoded

/-- **Bytes are read as a text exactly when they are the bytes of that text.** -/
theorem decode_eq_ok_iff {bytes : List UInt8} {text : List Char} :
    decode bytes = .ok text ↔ bytes = encode text := by
  constructor
  · intro decoded
    have leads : Leads none [] := rfl
    obtain ⟨more, rfl, written⟩ := exists_of_decodeFrom leads decoded
    exact written
  · rintro rfl
    exact decodeFrom_encode text 0 []

/-- Bytes at which decoding fails encode no text. -/
theorem ne_encode_of_decode_error {bytes : List UInt8} {fault : Fault} (failed : decode bytes = .error fault)
    (text : List Char) : bytes ≠ encode text := by
  intro written
  rw [decode_eq_ok_iff.2 written] at failed
  cases failed

end CompileDb.Text.Utf8
