import Mathlib.Data.List.Basic
import LiveDeck.Text.Utf8

/-! # Spelled texts and their bytes

What is spelled is read back (`codePoints_spelling`), so spelling loses nothing: no two sequences of
code points are spelled alike.  A text without null characters is its own spelling, and a spelled
text has bytes exactly if there is no surrogate among its code points
(`encodeSpelled_eq_ok_iff`). -/

namespace LiveDeck

namespace Text

theorem toNat_ideograph (s : Surrogate) : s.ideograph.toNat = 0x20000 + s.val := by
  have hs := s.isLt
  have hvalid : (0x20000 + s.val).isValidChar := .inr ⟨by omega, by omega⟩
  unfold Surrogate.ideograph Char.ofNat
  rw [dif_pos hvalid]
  rfl

theorem surrogate?_ideograph (s : Surrogate) : surrogate? s.ideograph = some s := by
  have hs := s.isLt
  unfold surrogate?
  rw [dif_pos (by rw [toNat_ideograph]; omega)]
  refine congrArg some (Fin.ext ?_)
  show s.ideograph.toNat - 0x20000 = s.val
  rw [toNat_ideograph]
  omega

theorem codePoints_cons_of_ne {c : Char} (h : c ≠ '\x00') (rest : List Char) :
    codePoints (c :: rest) = .char c :: codePoints rest := by
  unfold codePoints
  rw [codePointsFrom, if_neg h]

theorem codePoints_spelling_append (point : CodePoint) (rest : List Char) :
    codePoints (point.spelling ++ rest) = point :: codePoints rest := by
  cases point with
  | char c =>
      by_cases hnull : c = '\x00'
      · subst hnull
        rfl
      · simp only [CodePoint.spelling, if_neg hnull, List.singleton_append]
        exact codePoints_cons_of_ne hnull rest
  | surrogate s =>
      show codePointsFrom true (s.ideograph :: rest) = _
      rw [codePointsFrom, surrogate?_ideograph]
      rfl

/-- Spelled code points are read back. -/
theorem codePoints_spelling (points : List CodePoint) :
    codePoints (points.flatMap CodePoint.spelling) = points := by
  induction points with
  | nil => rfl
  | cons point points ih => rw [List.flatMap_cons, codePoints_spelling_append, ih]

theorem codePoints_append_of_notMem {text : List Char} (h : '\x00' ∉ text) (rest : List Char) :
    codePoints (text ++ rest) = text.map .char ++ codePoints rest := by
  induction text with
  | nil => rfl
  | cons c text ih =>
      rw [List.mem_cons, not_or] at h
      rw [List.cons_append, codePoints_cons_of_ne (Ne.symm h.1), ih h.2]
      rfl

/-- A text without null characters is its own spelling. -/
theorem codePoints_of_notMem {text : List Char} (h : '\x00' ∉ text) :
    codePoints text = text.map .char := by
  have happend := codePoints_append_of_notMem h []
  rwa [List.append_nil, show codePoints [] = [] from rfl, List.append_nil] at happend

end Text

namespace Utf8

open Text (CodePoint Surrogate codePoints)

theorem encodeFrom_map_char_append (chars : List Char) :
    ∀ (position : Nat) (rest : List CodePoint),
      encodeFrom position (chars.map .char ++ rest) =
        (encodeFrom (position + chars.length) rest).map (encode chars ++ ·) := by
  induction chars with
  | nil =>
      intro position rest
      show encodeFrom position rest = _
      cases encodeFrom position rest <;> rfl
  | cons c chars ih =>
      intro position rest
      rw [List.map_cons, List.cons_append, encodeFrom, ih, List.length_cons,
        Nat.add_assoc, Nat.add_comm 1]
      cases encodeFrom (position + (chars.length + 1)) rest with
      | error fault => rfl
      | ok bytes =>
          show Except.ok (String.utf8EncodeChar c ++ (encode chars ++ bytes)) = _
          rw [← List.append_assoc]
          rfl

theorem encodeFrom_map_char (position : Nat) (chars : List Char) :
    encodeFrom position (chars.map .char) = .ok (encode chars) := by
  have happend := encodeFrom_map_char_append chars position []
  rw [List.append_nil] at happend
  rw [happend]
  show Except.ok (encode chars ++ []) = _
  rw [List.append_nil]

theorem encodeSpelled_of_notMem {text : List Char} (h : '\x00' ∉ text) :
    encodeSpelled text = .ok (encode text) := by
  rw [encodeSpelled, Text.codePoints_of_notMem h, encodeFrom_map_char]

/-- The first surrogate of a text is what is reported, with those that follow it. -/
theorem encodeSpelled_of_surrogate {text : List Char} (h : '\x00' ∉ text) (s : Surrogate)
    (rest : List Char) :
    encodeSpelled (text ++ (CodePoint.surrogate s).spelling ++ rest) =
      .error ⟨s, text.length,
        ((codePoints rest).takeWhile CodePoint.isSurrogate).length + 1⟩ := by
  rw [encodeSpelled, List.append_assoc, Text.codePoints_append_of_notMem h,
    Text.codePoints_spelling_append, encodeFrom_map_char_append, encodeFrom, Nat.zero_add]
  rfl

theorem exists_chars (points : List CodePoint) :
    ∃ (chars : List Char) (rest : List CodePoint), points = chars.map .char ++ rest ∧
      (rest = [] ∨ ∃ s others, rest = .surrogate s :: others) := by
  induction points with
  | nil => exact ⟨[], [], rfl, .inl rfl⟩
  | cons point points ih =>
      cases point with
      | char c =>
          obtain ⟨chars, rest, rfl, hrest⟩ := ih
          exact ⟨c :: chars, rest, rfl, hrest⟩
      | surrogate s => exact ⟨[], .surrogate s :: points, rfl, .inr ⟨s, points, rfl⟩⟩

/-- A spelled text has bytes exactly if its code points are characters, and they are those of the
characters. -/
theorem encodeSpelled_eq_ok_iff {text : List Char} {bytes : List UInt8} :
    encodeSpelled text = .ok bytes ↔
      ∃ chars, codePoints text = chars.map .char ∧ bytes = encode chars := by
  constructor
  · intro h
    obtain ⟨chars, rest, hpoints, rfl | ⟨s, others, rfl⟩⟩ := exists_chars (codePoints text)
    · rw [List.append_nil] at hpoints
      rw [encodeSpelled, hpoints, encodeFrom_map_char] at h
      exact ⟨chars, hpoints, (Except.ok.inj h).symm⟩
    · rw [encodeSpelled, hpoints, encodeFrom_map_char_append] at h
      cases h
  · rintro ⟨chars, hpoints, rfl⟩
    rw [encodeSpelled, hpoints, encodeFrom_map_char]

end Utf8

end LiveDeck
