import LiveDeck.Text.CodePoints
import LiveDeck.Text.Quoted

/-! # UTF-8

`encode` writes a text as bytes, and `encodeSpelled` a spelled text, unless it holds a surrogate.
`decode` reads bytes and refuses everything that `encode` never writes: it stops at the first byte
that cannot continue what came before it, and the fault covers the bytes of the unfinished
character. -/

namespace LiveDeck.Utf8

open Text (CodePoint Surrogate codePoints hexDigits)

/-- A text as bytes. -/
def encode (text : List Char) : List UInt8 := text.flatMap String.utf8EncodeChar

/-! ### Surrogates -/

/-- Why a spelled text has no bytes: its first surrogate, the position of that, and how many
surrogates stand there in a row. -/
structure Unencodable where
  first : Surrogate
  position : Nat
  length : Nat
  deriving DecidableEq, Repr

/-- The fault in words: a single surrogate is named, several are given by their positions. -/
def Unencodable.message (fault : Unencodable) : String :=
  let surrogates :=
    if fault.length = 1 then
      "character '\\u" ++ String.ofList (hexDigits fault.first.code 4) ++
        s!"' in position {fault.position}"
    else s!"characters in position {fault.position}-{fault.position + fault.length - 1}"
  s!"'utf-8' codec can't encode {surrogates}: surrogates not allowed"

/-- Code points that begin at a position as bytes. -/
def encodeFrom (position : Nat) : List CodePoint → Except Unencodable (List UInt8)
  | [] => .ok []
  | .char c :: rest => (encodeFrom (position + 1) rest).map (String.utf8EncodeChar c ++ ·)
  | .surrogate s :: rest => .error ⟨s, position, (rest.takeWhile CodePoint.isSurrogate).length + 1⟩

/-- A spelled text as bytes. -/
def encodeSpelled (text : List Char) : Except Unencodable (List UInt8) :=
  encodeFrom 0 (codePoints text)

/-! ### Bytes -/

/-- What is wrong with a sequence of bytes. -/
inductive Reason where
  | startByte
  | continuationByte
  | endOfData
  deriving DecidableEq, Repr

/-- Bytes that are no text: where the faulty ones begin, how many they are, and the first. -/
structure Fault where
  reason : Reason
  first : UInt8
  position : Nat
  length : Nat
  deriving DecidableEq, Repr

/-- The reason in words. -/
def Reason.message : Reason → String
  | .startByte => "invalid start byte"
  | .continuationByte => "invalid continuation byte"
  | .endOfData => "unexpected end of data"

/-- A digit pair of base sixteen. -/
def hexByte (b : UInt8) : String :=
  String.ofList [Nat.digitChar (b.toNat / 16), Nat.digitChar (b.toNat % 16)]

/-- The fault in words: a single byte is named, several are given by their positions. -/
def Fault.message (fault : Fault) : String :=
  let bytes :=
    if fault.length = 1 then s!"byte 0x{hexByte fault.first} in position {fault.position}"
    else s!"bytes in position {fault.position}-{fault.position + fault.length - 1}"
  s!"'utf-8' codec can't decode {bytes}: {fault.reason.message}"

/-- An unfinished character: its bits so far, how many bytes are missing, and the bounds of the
next one. -/
structure Partial where
  bits : Nat
  missing : Nat
  low : UInt8 := 0x80
  high : UInt8 := 0xBF
  deriving DecidableEq, Repr

/-- What a first byte begins.  The bounds of the second byte keep out overlong forms,
surrogates, and everything beyond the last code point. -/
def Partial.ofFirst? (b : UInt8) : Option Partial :=
  if b < 0x80 then some { bits := b.toNat, missing := 0 }
  else if b < 0xC2 then none
  else if b < 0xE0 then some { bits := b.toNat - 0xC0, missing := 1 }
  else if b < 0xF0 then
    some ⟨b.toNat - 0xE0, 2, if b = 0xE0 then 0xA0 else 0x80, if b = 0xED then 0x9F else 0xBF⟩
  else if b < 0xF5 then
    some ⟨b.toNat - 0xF0, 3, if b = 0xF0 then 0x90 else 0x80, if b = 0xF4 then 0x8F else 0xBF⟩
  else none

/-- The unfinished character with one more byte. -/
def Partial.next? (p : Partial) (b : UInt8) : Option Partial :=
  if p.low ≤ b && b ≤ p.high then
    some { bits := p.bits * 64 + (b.toNat - 0x80), missing := p.missing - 1 }
  else none

/-- Where reading stands: between characters, or inside the one that began with a byte at a
position. -/
inductive State where
  | between
  | inside (first : UInt8) (position : Nat) (p : Partial)
  deriving DecidableEq, Repr

/-- The characters of bytes that begin at a position. -/
def decodeFrom (position : Nat) : State → List UInt8 → Except Fault (List Char)
  | .between, [] => .ok []
  | .inside first start _, [] => .error ⟨.endOfData, first, start, position - start⟩
  | .between, b :: rest =>
    match Partial.ofFirst? b with
    | none => .error ⟨.startByte, b, position, 1⟩
    | some p =>
      if p.missing = 0 then (decodeFrom (position + 1) .between rest).map (Char.ofNat p.bits :: ·)
      else decodeFrom (position + 1) (.inside b position p) rest
  | .inside first start p, b :: rest =>
    match p.next? b with
    | none => .error ⟨.continuationByte, first, start, position - start⟩
    | some p =>
      if p.missing = 0 then (decodeFrom (position + 1) .between rest).map (Char.ofNat p.bits :: ·)
      else decodeFrom (position + 1) (.inside first start p) rest

/-- The text of bytes. -/
def decode (bytes : List UInt8) : Except Fault (List Char) := decodeFrom 0 .between bytes

end LiveDeck.Utf8
