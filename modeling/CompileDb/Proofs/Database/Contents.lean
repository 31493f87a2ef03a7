import CompileDb.Database
import CompileDb.Proofs.Json.Written
import CompileDb.Proofs.Text.Utf8

/-!
# What the contents of a file come to

A file cannot be read, or its bytes state entries, or they are no compilation database, or their document is too
much for its reader. `Yields` has a constructor for each of the four and names neither the order of the checks nor
the decoder's answers; `entriesOf_eq_iff` says that the entries of a file are read by it.
-/

namespace CompileDb.Database

/-- The document that a text states. -/
def documentOf (text : List Char) : Except Json.Refusal Value := Json.read limits (Text.unifyLineEnds text)

/-- The bytes are those of a text whose document lists items. -/
def ListsItems (bytes : List UInt8) (items : List Value) : Prop :=
  ∃ text, bytes = Text.Utf8.encode text ∧ documentOf text = .ok (.list items)

/-- The bytes list items that all state entries. -/
def StatesEntries (bytes : List UInt8) (entries : List Entry) : Prop :=
  ∃ items, ListsItems bytes items ∧ Entry.allOfValue (.list items) = .ok entries

/-- The bytes are those of a text with a document that is too much for its reader. -/
def Exceeds (bytes : List UInt8) (excess : Excess) : Prop :=
  ∃ text, bytes = Text.Utf8.encode text ∧ documentOf text = .error (.excess excess)

/-- Why bytes are no compilation database. -/
inductive IsMalformed (path : Path) (bytes : List UInt8) : Malformed → Prop
  /-- They are those of no text. -/
  | undecodable {fault : Text.Utf8.Fault} (unwritten : ∀ text, bytes ≠ Text.Utf8.encode text)
    (first : Text.Utf8.decode bytes = .error fault) : IsMalformed path bytes (.undecodable path fault)
  /-- Their text is no document. -/
  | notADocument {text : List Char} {fault : Json.Fault} (written : bytes = Text.Utf8.encode text)
    (refused : documentOf text = .error (.fault fault)) : IsMalformed path bytes (.notADocument path fault)
  /-- Their document is no list of entries. -/
  | misshapen {text : List Char} {document : Value} {fault : ShapeFault} (written : bytes = Text.Utf8.encode text)
    (read : documentOf text = .ok document) (rejected : Entry.allOfValue document = .error fault) :
    IsMalformed path bytes (.misshapen fault)

/-- What contents come to. -/
inductive Yields (path : Path) : Contents → Except Failure (List Entry) → Prop
  | entries {bytes : List UInt8} {entries : List Entry} (states : StatesEntries bytes entries) :
    Yields path (.bytes bytes) (.ok entries)
  | malformed {bytes : List UInt8} {cause : Malformed} (isMalformed : IsMalformed path bytes cause) :
    Yields path (.bytes bytes) (.error (.fault (.malformed cause)))
  | excessive {bytes : List UInt8} {excess : Excess} (exceeds : Exceeds bytes excess) :
    Yields path (.bytes bytes) (.error (.excessive excess))
  | unreadable (reason : Text) : Yields path (.refused reason) (.error (.unreadable path reason))

/-- Bytes list their items in one way only. -/
theorem ListsItems.unique {bytes : List UInt8} {items items' : List Value} (listed : ListsItems bytes items)
    (listed' : ListsItems bytes items') : items = items' := by
  obtain ⟨text, written, read⟩ := listed
  obtain ⟨text', written', read'⟩ := listed'
  have same := (Text.Utf8.decode_eq_ok_iff.2 written).symm.trans (Text.Utf8.decode_eq_ok_iff.2 written')
  rw [Except.ok.inj same] at read
  exact Value.list.inj (Except.ok.inj (read.symm.trans read'))

/-- A list of objects is found in the file it is written to. -/
theorem listsItems_objectList (objects : List (List (String × String))) :
    ListsItems (Text.Utf8.encode (Json.objectList objects))
      (objects.map fun fields => .table (fields.map Json.fieldOf)) := by
  refine ⟨Json.objectList objects, rfl, ?_⟩
  rw [documentOf, Json.unifyLineEnds_objectList]
  exact Json.read_objectList (by decide) objects

section Yields

variable {path : Path} {bytes : List UInt8} {contents : Contents}

/-- Bytes that are UTF-8 are read as a document, and the document as entries. -/
theorem entriesOf_of_text {text : List Char} (written : bytes = Text.Utf8.encode text) :
    entriesOf path (.bytes bytes) =
      match documentOf text with
      | .error (.fault fault) => .error (.fault (.malformed (.notADocument path fault)))
      | .error (.excess excess) => .error (.excessive excess)
      | .ok document =>
        match Entry.allOfValue document with
        | .error fault => .error (.fault (.malformed (.misshapen fault)))
        | .ok entries => .ok entries := by
  rw [entriesOf, Text.Utf8.decode_eq_ok_iff.2 written]
  rfl

/-- Bytes that are no UTF-8 are malformed, where decoding stops. -/
theorem entriesOf_of_no_text {fault : Text.Utf8.Fault} (failed : Text.Utf8.decode bytes = .error fault) :
    entriesOf path (.bytes bytes) = .error (.fault (.malformed (.undecodable path fault))) := by
  rw [entriesOf, failed]

theorem yields_entriesOf_bytes (path : Path) (bytes : List UInt8) :
    Yields path (.bytes bytes) (entriesOf path (.bytes bytes)) := by
  cases decoded : Text.Utf8.decode bytes with
  | error fault =>
    rw [entriesOf_of_no_text decoded]
    exact .malformed (.undecodable (Text.Utf8.ne_encode_of_decode_error decoded) decoded)
  | ok text =>
    have written := Text.Utf8.decode_eq_ok_iff.1 decoded
    rw [entriesOf_of_text written]
    cases read : documentOf text with
    | error refusal =>
      cases refusal with
      | fault fault => exact .malformed (.notADocument written read)
      | excess excess => exact .excessive ⟨text, written, read⟩
    | ok document =>
      cases stated : Entry.allOfValue document with
      | error fault =>
        simp only [stated]
        exact .malformed (.misshapen written read stated)
      | ok entries =>
        simp only [stated]
        cases document with
        | list items => exact .entries ⟨items, ⟨text, written, read⟩, stated⟩
        | _ => cases stated

/-- **The entries of a file are those that its bytes state**, and without any the reason is the one that holds. -/
theorem entriesOf_eq_iff {result : Except Failure (List Entry)} :
    entriesOf path contents = result ↔ Yields path contents result := by
  constructor
  · rintro rfl
    cases contents with
    | bytes bytes => exact yields_entriesOf_bytes path bytes
    | refused reason => exact .unreadable reason
  · intro yields
    cases yields with
    | entries states =>
      obtain ⟨items, ⟨text, written, read⟩, stated⟩ := states
      simp only [entriesOf_of_text written, read, stated]
    | malformed isMalformed =>
      cases isMalformed with
      | undecodable unwritten first => exact entriesOf_of_no_text first
      | notADocument written refused => simp only [entriesOf_of_text written, refused]
      | misshapen written read rejected => simp only [entriesOf_of_text written, read, rejected]
    | excessive exceeds =>
      obtain ⟨text, written, refused⟩ := exceeds
      simp only [entriesOf_of_text written, refused]
    | unreadable reason => rfl

/-- Contents are accepted when they can be read and state entries. -/
theorem entriesOf_eq_ok_iff {entries : List Entry} :
    entriesOf path contents = .ok entries ↔ ∃ bytes, contents = .bytes bytes ∧ StatesEntries bytes entries := by
  rw [entriesOf_eq_iff]
  constructor
  · rintro ⟨states⟩
    exact ⟨_, rfl, states⟩
  · rintro ⟨bytes, rfl, states⟩
    exact .entries states

/-- Contents are malformed, for one cause, when their bytes are. -/
theorem entriesOf_eq_malformed_iff {cause : Malformed} :
    entriesOf path contents = .error (.fault (.malformed cause)) ↔
      ∃ bytes, contents = .bytes bytes ∧ IsMalformed path bytes cause := by
  rw [entriesOf_eq_iff]
  constructor
  · intro yields
    cases yields with
    | malformed isMalformed => exact ⟨_, rfl, isMalformed⟩
  · rintro ⟨bytes, rfl, isMalformed⟩
    exact .malformed isMalformed

/-- Bytes that state entries are not malformed. -/
theorem StatesEntries.not_isMalformed {entries : List Entry} {cause : Malformed}
    (states : StatesEntries bytes entries) :
    ¬ IsMalformed path bytes cause := by
  intro isMalformed
  have refused := entriesOf_eq_malformed_iff.2 ⟨bytes, rfl, isMalformed⟩
  rw [entriesOf_eq_ok_iff.2 ⟨bytes, rfl, states⟩] at refused
  cases refused

end Yields

end CompileDb.Database
