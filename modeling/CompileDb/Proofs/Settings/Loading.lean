import CompileDb.Proofs.Database.Documents
import CompileDb.Proofs.Text.Utf8
import CompileDb.Settings

/-!
# What the bytes of a settings file come to

A settings file gives settings exactly when its bytes are those of a text which the reader of documents
does not give up on (`load_of_file`), whatever reader that is. A text that is no document gives the defaults,
with a notice; bytes that are no text give nothing, not even the defaults.
-/

namespace CompileDb.Settings

/-- The document that a text states to a reader. -/
def documentOf (reader : Reader) (text : List Char) : Except Refusal Value.Fields :=
  reader.read (Text.unifyLineEnds text)

variable {reader : Reader} {disk : Disk} {path : Path} {bytes : List UInt8}

/-- A settings file in UTF-8 is read by the reader, or ignored with a notice. -/
theorem load_of_text {text : List Char} (found : disk.look path = .file (.bytes bytes))
    (written : bytes = Text.Utf8.encode text) :
    load reader disk path =
      match documentOf reader text with
      | .ok document => pure (ofDocument document)
      | .error (.malformed reason) => ignoring path reason
      | .error (.excess excess) => Outcome.fail (.excessive excess) := by
  simp only [load, ofContents, found, Text.Utf8.decode_eq_ok_iff.2 written, ofText, documentOf]
  cases reader.read (Text.unifyLineEnds text) with
  | ok document => rfl
  | error refusal => cases refusal <;> rfl

/-- A settings file that is no UTF-8 ends the load: nothing catches that failure. -/
theorem load_of_no_text (found : disk.look path = .file (.bytes bytes))
    (unwritten : ∀ text, bytes ≠ Text.Utf8.encode text) :
    ∃ fault, load reader disk path = Outcome.fail (.undecodableSettings fault) := by
  cases decoded : Text.Utf8.decode bytes with
  | ok text => exact absurd (Text.Utf8.decode_eq_ok_iff.1 decoded) (unwritten text)
  | error fault =>
    refine ⟨fault, ?_⟩
    simp only [load, ofContents, found, decoded]

/-- **A settings file gives settings exactly when its bytes are those of a text**, as long as the reader of
documents does not give the text up. A text that is no document gives the defaults; bytes that are no text
end the loading, and with nothing but a failure. -/
theorem load_of_file (found : disk.look path = .file (.bytes bytes)) :
    ((∃ settings, (load reader disk path).result = .ok settings) ↔
      ∃ text, bytes = Text.Utf8.encode text ∧ ∀ excess, documentOf reader text ≠ .error (.excess excess)) ∧
    (∀ text, bytes = Text.Utf8.encode text →
      (∀ document, documentOf reader text = .ok document → load reader disk path = pure (ofDocument document)) ∧
      (∀ reason, documentOf reader text = .error (.malformed reason) →
        load reader disk path = ⟨{ notices := [.settingsIgnored path reason] }, .ok defaults⟩)) ∧
    ((∀ text, bytes ≠ Text.Utf8.encode text) →
      ∃ fault, load reader disk path = Outcome.fail (.undecodableSettings fault)) := by
  refine ⟨⟨?_, ?_⟩, fun text written => ⟨?_, ?_⟩, load_of_no_text found⟩
  · rintro ⟨settings, loaded⟩
    by_cases unwritten : ∀ text, bytes ≠ Text.Utf8.encode text
    · obtain ⟨fault, failed⟩ := @load_of_no_text reader _ _ _ found unwritten
      rw [failed] at loaded
      cases loaded
    · obtain ⟨text, written⟩ := not_forall.1 unwritten
      refine ⟨text, not_not.1 written, fun excess givenUp => ?_⟩
      rw [load_of_text found (not_not.1 written), givenUp] at loaded
      cases loaded
  · rintro ⟨text, written, takenOn⟩
    rw [load_of_text found written]
    cases read : documentOf reader text with
    | ok document => exact ⟨_, rfl⟩
    | error refusal =>
      cases refusal with
      | malformed reason => exact ⟨_, rfl⟩
      | excess excess => exact absurd read (takenOn excess)
  · intro document read
    rw [load_of_text found written, read]
  · intro reason malformed
    rw [load_of_text found written, malformed]
    rfl

/-- A file with a lone equals sign gives the defaults; one with a letter cut short gives nothing. -/
theorem load_of_file_samples :
    let path : Path := .ofText "config.toml"
    let broken := Database.onlyFile path [0x3D]
    let cutShort := Database.onlyFile path [0x78, 0x3D, 0xC3]
    broken.look path = .file (.bytes [0x3D]) ∧
      load .toml broken path = ⟨{ notices := [.settingsIgnored path "no TOML document"] }, .ok defaults⟩ ∧
      cutShort.look path = .file (.bytes [0x78, 0x3D, 0xC3]) ∧
      ∃ fault, load .toml cutShort path = Outcome.fail (.undecodableSettings fault) := by
  intro path broken cutShort
  have brokenFile : broken.look path = .file (.bytes [0x3D]) := Database.look_onlyFile path _
  have cutShortFile : cutShort.look path = .file (.bytes [0x78, 0x3D, 0xC3]) := Database.look_onlyFile path _
  have failed : Text.Utf8.decode [0x78, 0x3D, 0xC3] = .error ⟨2, 1, 0xC3, .unexpectedEnd⟩ := rfl
  exact ⟨brokenFile, ((load_of_file brokenFile).2.1 ['='] rfl).2 _ rfl, cutShortFile,
    (load_of_file cutShortFile).2.2 (Text.Utf8.ne_encode_of_decode_error failed)⟩

/-- A file that holds no text does not give the defaults. -/
theorem load_not_defaults_of_no_text :
    let path : Path := .ofText "config.toml"
    let disk := Database.onlyFile path [0xFF]
    disk.look path = .file (.bytes [0xFF]) ∧ (∀ text, [0xFF] ≠ Text.Utf8.encode text) ∧
      (load .toml disk path).result = .error (.undecodableSettings ⟨0, 1, 0xFF, .invalidStart⟩) := by
  intro path disk
  have found : disk.look path = .file (.bytes [0xFF]) := Database.look_onlyFile path _
  have failed : Text.Utf8.decode [0xFF] = .error ⟨0, 1, 0xFF, .invalidStart⟩ := rfl
  refine ⟨found, Text.Utf8.ne_encode_of_decode_error failed, ?_⟩
  simp only [load, ofContents, found, failed]
  rfl

end CompileDb.Settings
