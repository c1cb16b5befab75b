import BrowserRemote.Text.Hex

/-!
# Text/Utf8 — reading UTF-8, with the place and the reason of a failure

The reader takes one byte at a time.  A lead byte fixes the ranges its continuation bytes must lie
in, so overlong forms, surrogates and code points past U+10FFFF fail at the first byte that no
character continues with.  A failure covers the lead byte and the continuation bytes accepted
after it: the longest stretch that starts a character.
-/

namespace BrowserRemote.Text.Utf8

/-- Why a stretch of bytes is not a character. -/
inductive Reason where
  /-- No character starts with this byte. -/
  | invalidStart
  /-- The next byte does not continue the character. -/
  | invalidContinuation
  /-- The bytes end inside the character. -/
  | unexpectedEnd
deriving DecidableEq, Repr

/-- A stretch of bytes that is not a character: its first byte, its offset, its length. -/
structure Malformed where
  first : UInt8
  offset : Nat
  length : Nat
  reason : Reason
deriving DecidableEq, Repr

/-- The wording of a reason. -/
def Reason.text : Reason → String
  | .invalidStart => "invalid start byte"
  | .invalidContinuation => "invalid continuation byte"
  | .unexpectedEnd => "unexpected end of data"

/-- The wording of a failure: one byte is shown, more are counted. -/
def Malformed.text (m : Malformed) : String :=
  (if m.length = 1 then
    "'utf-8' codec can't decode byte 0x" ++ String.ofList (hexPadded 2 m.first.toNat)
      ++ " in position " ++ toString m.offset
  else
    "'utf-8' codec can't decode bytes in position " ++ toString m.offset ++ "-"
      ++ toString (m.offset + m.length - 1))
  ++ ": " ++ m.reason.text

/-- A character of which a lead byte and perhaps more has been read. -/
structure Pending where
  first : UInt8
  offset : Nat
  /-- The bits read. -/
  bits : Nat
  /-- The range of the next byte. -/
  low : UInt8
  high : UInt8
  /-- How many more continuation bytes follow the next one. -/
  more : Nat
deriving DecidableEq, Repr

/-- What a byte is at the start of a character. -/
inductive Lead where
  | char (c : Char)
  | opens (p : Pending)
  | invalid
deriving DecidableEq, Repr

/-- **The lead bytes**: one below `0x80` is a character; the others fix how many continuation
bytes follow and in which range the first of them lies. -/
def lead (offset : Nat) (b : UInt8) : Lead :=
  if b < 0x80 then .char (Char.ofNat b.toNat)
  else if b < 0xC2 then .invalid
  else if b < 0xE0 then .opens ⟨b, offset, b.toNat - 0xC0, 0x80, 0xBF, 0⟩
  else if b < 0xF0 then
    .opens ⟨b, offset, b.toNat - 0xE0, if b = 0xE0 then 0xA0 else 0x80,
      if b = 0xED then 0x9F else 0xBF, 1⟩
  else if b < 0xF5 then
    .opens ⟨b, offset, b.toNat - 0xF0, if b = 0xF0 then 0x90 else 0x80,
      if b = 0xF4 then 0x8F else 0xBF, 2⟩
  else .invalid

/-- The stretch from the lead byte up to the byte at `offset`. -/
def Pending.malformed (p : Pending) (offset : Nat) (reason : Reason) : Malformed :=
  ⟨p.first, p.offset, offset - p.offset, reason⟩

/-- Reads bytes from an offset on, inside a character or between two. -/
def decodeFrom : Nat → Option Pending → List UInt8 → Except Malformed (List Char)
  | _, none, [] => .ok []
  | offset, some p, [] => .error (p.malformed offset .unexpectedEnd)
  | offset, none, b :: bs =>
    match lead offset b with
    | .char c => (c :: ·) <$> decodeFrom (offset + 1) none bs
    | .opens p => decodeFrom (offset + 1) (some p) bs
    | .invalid => .error ⟨b, offset, 1, .invalidStart⟩
  | offset, some p, b :: bs =>
    if p.low ≤ b ∧ b ≤ p.high then
      let bits := p.bits * 64 + (b.toNat - 0x80)
      match p.more with
      | 0 => (Char.ofNat bits :: ·) <$> decodeFrom (offset + 1) none bs
      | more + 1 => decodeFrom (offset + 1) (some ⟨p.first, p.offset, bits, 0x80, 0xBF, more⟩) bs
    else .error (p.malformed offset .invalidContinuation)

/-- **The text of a byte string**, or the first stretch of it that is no character. -/
def decode (bs : List UInt8) : Except Malformed (List Char) := decodeFrom 0 none bs

/-- The bytes of a text. -/
def encode (cs : List Char) : List UInt8 := cs.flatMap String.utf8EncodeChar

end BrowserRemote.Text.Utf8
