import CompileDb.Text.Quoted

/-!
# UTF-8

`decode` reads bytes as UTF-8 text. It stops at the first byte that no well-formed text could have
at its place and tells where the sequence in question begins, how many bytes of it were in order,
and what is wrong. Overlong forms, surrogates and code points above U+10FFFF are refused at the
byte that betrays them, which is the second of its sequence at the latest.
-/

namespace CompileDb.Text.Utf8

/-- What is wrong with a sequence of bytes. -/
inductive Cause where
  /-- No sequence begins with this byte. -/
  | invalidStart
  /-- The sequence cannot go on with the byte that follows. -/
  | invalidContinuation
  /-- The bytes end inside the sequence. -/
  | unexpectedEnd
  deriving DecidableEq

/-- Where and why bytes are not UTF-8. -/
structure Fault where
  /-- The offset of the first byte of the sequence. -/
  offset : Nat
  /-- How many bytes of the sequence are to blame. -/
  count : Nat
  /-- The first byte of the sequence. -/
  lead : UInt8
  /-- What is wrong with it. -/
  cause : Cause
  deriving DecidableEq

def Cause.message : Cause → String
  | invalidStart => "invalid start byte"
  | invalidContinuation => "invalid continuation byte"
  | unexpectedEnd => "unexpected end of data"

/-- The text of a fault: a single byte is named, several are only located. -/
def Fault.message (f : Fault) : String :=
  let place :=
    if f.count = 1 then
      "byte 0x" ++ String.ofList (hexDigits 2 f.lead.toNat) ++ " in position " ++ toString f.offset
    else
      "bytes in position " ++ toString f.offset ++ "-" ++ toString (f.offset + f.count - 1)
  "'utf-8' codec can't decode " ++ place ++ ": " ++ f.cause.message

/-- A sequence of which some bytes are still to come. -/
structure Pending where
  /-- The first byte. -/
  lead : UInt8
  /-- The number of bytes read. -/
  taken : Nat
  /-- The number of bytes to come, less one. -/
  owed : Nat
  /-- The least byte that may come next. -/
  low : UInt8
  /-- The greatest byte that may come next. -/
  high : UInt8
  /-- The payload of the bytes read. -/
  payload : Nat

/-- The sequence that a byte opens, for a byte above the ASCII range. -/
def Pending.ofLead? (b : UInt8) : Option Pending :=
  if b < 0xC2 then none
  else if b < 0xE0 then some ⟨b, 1, 0, 0x80, 0xBF, b.toNat - 0xC0⟩
  else if b < 0xF0 then
    some ⟨b, 1, 1, if b = 0xE0 then 0xA0 else 0x80, if b = 0xED then 0x9F else 0xBF, b.toNat - 0xE0⟩
  else if b < 0xF5 then
    some ⟨b, 1, 2, if b = 0xF0 then 0x90 else 0x80, if b = 0xF4 then 0x8F else 0xBF, b.toNat - 0xF0⟩
  else none

/-- Reads on at `offset`, with the characters read so far in reverse. -/
def decodeFrom (offset : Nat) (pending : Option Pending) (read : List Char) :
    List UInt8 → Except Fault (List Char)
  | [] =>
    match pending with
    | none => .ok read.reverse
    | some p => .error ⟨offset - p.taken, p.taken, p.lead, .unexpectedEnd⟩
  | b :: rest =>
    match pending with
    | none =>
      if b < 0x80 then decodeFrom (offset + 1) none (Char.ofNat b.toNat :: read) rest
      else
        match Pending.ofLead? b with
        | none => .error ⟨offset, 1, b, .invalidStart⟩
        | some p => decodeFrom (offset + 1) (some p) read rest
    | some p =>
      if p.low ≤ b ∧ b ≤ p.high then
        let payload := p.payload * 64 + (b.toNat - 0x80)
        match p.owed with
        | 0 => decodeFrom (offset + 1) none (Char.ofNat payload :: read) rest
        | owed + 1 =>
          decodeFrom (offset + 1) (some ⟨p.lead, p.taken + 1, owed, 0x80, 0xBF, payload⟩) read rest
      else .error ⟨offset - p.taken, p.taken, p.lead, .invalidContinuation⟩

/-- The characters that bytes stand for. -/
def decode (bytes : List UInt8) : Except Fault (List Char) := decodeFrom 0 none [] bytes

/-- The bytes of a letter; a lone surrogate has none. -/
def bytesOf? : Letter → Option (List UInt8)
  | .char c => some (String.utf8EncodeChar c)
  | .lone _ => none

/-- The bytes of a text, `none` when a lone surrogate is in it. -/
def encode? (text : Text) : Option (List UInt8) := (text.mapM bytesOf?).map List.flatten

end CompileDb.Text.Utf8
