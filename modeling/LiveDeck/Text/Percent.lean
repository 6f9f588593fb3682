import LiveDeck.Text.CodePoints

/-! # Percent encoding

`percentEncode` writes every character that may not stand in an address as the bytes of its
encoding, two hexadecimal digits each; what is encoded already stays.  A surrogate counts as a
replacement character, unless it makes up a pair with the next, for which there is no encoding.
`percentDecode` reads such bytes back, except those of the characters in `kept`; bytes that encode
nothing become replacement characters.  Both are about spelled texts. -/

namespace LiveDeck.Text

/-- The value of a hexadecimal digit. -/
def hexValue? (c : Char) : Option Nat :=
  if c.isDigit then some (c.toNat - '0'.toNat)
  else if 'a' ≤ c && c ≤ 'f' then some (c.toNat - 'a'.toNat + 10)
  else if 'A' ≤ c && c ≤ 'F' then some (c.toNat - 'A'.toNat + 10)
  else none

/-- A byte as a percent sign and two digits. -/
def percentByte (b : Nat) : List Char :=
  ['%', (Nat.digitChar (b / 16 % 16)).toUpper, (Nat.digitChar (b % 16)).toUpper]

/-- The characters that stand in an address as they are, letters and digits apart. -/
def addressMarks : List Char := ";/?:@&=+$,-_.!~*'()#".toList

/-- A character of an address. -/
def percentChar (c : Char) : List Char :=
  if c.isAlphanum || addressMarks.contains c then [c]
  else (String.utf8EncodeChar c).flatMap fun b => percentByte b.toNat

def replacementChar : Char := '\ufffd'

/-- A code point of an address. -/
def percentPoint : CodePoint → List Char
  | .char c => percentChar c
  | .surrogate _ => percentChar replacementChar

/-- The code points of an address in permitted characters. -/
def percentPoints : List CodePoint → List Char
  | .char '%' :: .char a :: .char b :: rest =>
    if (hexValue? a).isSome && (hexValue? b).isSome then '%' :: a :: b :: percentPoints rest
    else percentChar '%' ++ percentPoints (.char a :: .char b :: rest)
  | point :: rest => percentPoint point ++ percentPoints rest
  | [] => []
termination_by points => points.length

/-- An address in which nothing but permitted characters stands. -/
def percentEncode (address : List Char) : List Char := percentPoints (codePoints address)

/-- Whether two surrogates in a row make up a pair. -/
def holdPair : List CodePoint → Bool
  | .surrogate s :: .surrogate t :: rest =>
    (s.isHigh && !t.isHigh) || holdPair (.surrogate t :: rest)
  | _ :: rest => holdPair rest
  | [] => false

/-- Whether a byte continues a character. -/
def isContinuation (b : Nat) : Bool := b / 0x40 == 2

/-- The character with the given code point, or as many replacement characters as it took bytes
if the code point has a shorter encoding or is no character. -/
def decoded (bytes least n : Nat) : List Char :=
  if least ≤ n && (n < 0xD800 || 0xE000 ≤ n) && n ≤ 0x10FFFF then [Char.ofNat n]
  else List.replicate bytes replacementChar

/-- The characters that a byte and the bytes after it start with, and how many of the bytes
after it they take. -/
def decodeFirst (kept : List Char) (b₁ : Nat) (rest : List Nat) : List Char × Nat :=
  if b₁ < 0x80 then
    let c := Char.ofNat b₁
    (if kept.contains c then percentByte b₁ else (CodePoint.char c).spelling, 0)
  else
    let more := (rest.take 3).takeWhile isContinuation
    match b₁ / 0x20 == 6, b₁ / 0x10 == 14, b₁ / 8 == 30, more with
    | true, _, _, b₂ :: _ => (decoded 2 0x80 (b₁ % 0x20 * 0x40 + b₂ % 0x40), 1)
    | _, true, _, b₂ :: b₃ :: _ =>
      (decoded 3 0x800 (b₁ % 0x10 * 0x1000 + b₂ % 0x40 * 0x40 + b₃ % 0x40), 2)
    | _, _, true, b₂ :: b₃ :: b₄ :: _ =>
      (decoded 4 0x10000
        (b₁ % 8 * 0x40000 + b₂ % 0x40 * 0x1000 + b₃ % 0x40 * 0x40 + b₄ % 0x40), 3)
    | _, _, _, _ => ([replacementChar], 0)

/-- The characters that a run of bytes encodes. -/
def decodeBytes (kept : List Char) : List Nat → List Char
  | [] => []
  | b :: rest =>
    let (chars, taken) := decodeFirst kept b rest
    chars ++ decodeBytes kept (rest.drop taken)
termination_by bytes => bytes.length
decreasing_by
  simp only [List.length_drop, List.length_cons]
  omega

/-- The bytes written at the start of a text. -/
def leadingBytes : List Char → List Nat
  | '%' :: a :: b :: rest =>
    match hexValue? a, hexValue? b with
    | some high, some low => (16 * high + low) :: leadingBytes rest
    | _, _ => []
  | _ => []

/-- An address in readable form. -/
def percentDecode (kept : List Char) : List Char → List Char
  | [] => []
  | c :: rest =>
    match leadingBytes (c :: rest) with
    | [] => c :: percentDecode kept rest
    | b :: bytes =>
      decodeBytes kept (b :: bytes) ++ percentDecode kept (rest.drop (3 * bytes.length + 2))
termination_by s => s.length
decreasing_by all_goals (simp; try omega)

end LiveDeck.Text
