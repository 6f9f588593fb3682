import LiveDeck.Page.Html

/-! # Reading markup

How markup is read as text, independently of how it is written: a tag goes from `<` to the next
`>`, six character references stand for characters, and everything else stands for itself.
`scan` cuts markup into such pieces.  The attributes of a start tag are read one by one, each value
up to the next double quote and with its references replaced (`readAttributes`).

Each reader has one equation for each way it can go on (`scan_tag`, `scan_of_reference?`,
`scan_cons_of_ne`). -/

namespace LiveDeck

namespace Markup

/-! ### Cutting at a character -/

/-- What comes before the first `stop`, and what comes after it. -/
def upTo? (stop : Char) : List Char → Option (List Char × List Char)
  | [] => none
  | c :: s =>
    if c = stop then some ([], s)
    else (upTo? stop s).map fun (before, rest) => (c :: before, rest)

theorem upTo?_append {stop : Char} {before : List Char} (h : stop ∉ before) (rest : List Char) :
    upTo? stop (before ++ stop :: rest) = some (before, rest) := by
  induction before with
  | nil => simp only [List.nil_append, upTo?, if_true]
  | cons c before ih =>
      rw [List.mem_cons, not_or] at h
      rw [List.cons_append, upTo?, if_neg (Ne.symm h.1), ih h.2]
      rfl

theorem length_of_upTo? {stop : Char} {s before rest : List Char}
    (h : upTo? stop s = some (before, rest)) : rest.length < s.length := by
  induction s generalizing before with
  | nil => cases h
  | cons c s ih =>
      unfold upTo? at h
      split at h
      · cases h
        simp
      · obtain ⟨⟨before', rest'⟩, hs, hpair⟩ := Option.map_eq_some_iff.mp h
        cases hpair
        have := ih hs
        rw [List.length_cons]
        omega

/-! ### Character references -/

/-- The character that a reference at the beginning stands for, and what comes after it. -/
def reference? : List Char → Option (Char × List Char)
  | '&' :: 'a' :: 'm' :: 'p' :: ';' :: s => some ('&', s)
  | '&' :: 'l' :: 't' :: ';' :: s => some ('<', s)
  | '&' :: 'g' :: 't' :: ';' :: s => some ('>', s)
  | '&' :: 'q' :: 'u' :: 'o' :: 't' :: ';' :: s => some ('"', s)
  | '&' :: '#' :: 'x' :: '2' :: '7' :: ';' :: s => some ('\'', s)
  | '&' :: 'n' :: 'b' :: 's' :: 'p' :: ';' :: s => some (' ', s)
  | _ => none

theorem length_of_reference? {s rest : List Char} {c : Char}
    (h : reference? s = some (c, rest)) : rest.length < s.length := by
  unfold reference? at h
  split at h <;> cases h <;> simp only [List.length_cons] <;> omega

theorem reference?_cons_of_ne {c : Char} (h : c ≠ '&') (s : List Char) :
    reference? (c :: s) = none := by
  unfold reference?
  split <;> simp_all

/-- Text with its references replaced. -/
def unescape : List Char → List Char
  | [] => []
  | c :: s =>
    match _h : reference? (c :: s) with
    | some (meaning, rest) => meaning :: unescape rest
    | none => c :: unescape s
termination_by s => s.length
decreasing_by
  · exact length_of_reference? _h
  · simp

theorem unescape_of_reference? {s rest : List Char} {c : Char}
    (h : reference? s = some (c, rest)) : unescape s = c :: unescape rest := by
  cases s with
  | nil => cases h
  | cons d s =>
      rw [unescape]
      split
      · rename_i meaning rest' h'
        cases h.symm.trans h'
        rfl
      · rename_i h'
        cases h.symm.trans h'

theorem unescape_cons_of_ne {c : Char} (h : c ≠ '&') (s : List Char) :
    unescape (c :: s) = c :: unescape s := by
  rw [unescape]
  split
  · rename_i meaning rest h'
    cases (reference?_cons_of_ne h s).symm.trans h'
  · rfl

/-! ### Attributes -/

/-- The attribute at the beginning, and what comes after it. -/
def readAttribute? : List Char → Option ((List Char × List Char) × List Char)
  | ' ' :: s =>
    match upTo? '=' s with
    | some (name, '"' :: s) => (upTo? '"' s).map fun (value, rest) => ((name, unescape value), rest)
    | _ => none
  | _ => none

theorem length_of_readAttribute? {s rest : List Char} {pair : List Char × List Char}
    (h : readAttribute? s = some (pair, rest)) : rest.length < s.length := by
  unfold readAttribute? at h
  split at h
  · split at h
    · rename_i name s hname
      obtain ⟨⟨value, rest'⟩, hvalue, hpair⟩ := Option.map_eq_some_iff.mp h
      cases hpair
      have h₁ := length_of_upTo? hname
      have h₂ := length_of_upTo? hvalue
      rw [List.length_cons] at h₁ ⊢
      omega
    · cases h
  · cases h

/-- The attributes after the name of a start tag, with their values. -/
def readAttributes (s : List Char) : List (List Char × List Char) :=
  match _h : readAttribute? s with
  | some (pair, rest) => pair :: readAttributes rest
  | none => []
termination_by s.length
decreasing_by exact length_of_readAttribute? _h

/-! ### Pieces -/

/-- A piece of markup; the content of a tag is what comes between its angle brackets. -/
inductive Piece where
  | char (c : Char)
  | reference (meaning : Char)
  | tag (content : List Char)
  | unclosed (content : List Char)
  deriving DecidableEq, Repr

/-- The pieces of markup. -/
def scan : List Char → List Piece
  | [] => []
  | c :: s =>
    if c = '<' then
      match _h : upTo? '>' s with
      | some (content, rest) => .tag content :: scan rest
      | none => [.unclosed s]
    else
      match _h : reference? (c :: s) with
      | some (meaning, rest) => .reference meaning :: scan rest
      | none => .char c :: scan s
termination_by s => s.length
decreasing_by
  · have := length_of_upTo? _h
    rw [List.length_cons]
    omega
  · exact length_of_reference? _h
  · simp

theorem scan_tag {content : List Char} (h : '>' ∉ content) (rest : List Char) :
    scan ('<' :: (content ++ '>' :: rest)) = .tag content :: scan rest := by
  have hcontent := upTo?_append h rest
  rw [scan, if_pos rfl]
  split
  · rename_i content' rest' h'
    cases hcontent.symm.trans h'
    rfl
  · rename_i h'
    cases hcontent.symm.trans h'

theorem scan_of_reference? {c meaning : Char} {s rest : List Char} (hc : c ≠ '<')
    (h : reference? (c :: s) = some (meaning, rest)) :
    scan (c :: s) = .reference meaning :: scan rest := by
  rw [scan, if_neg hc]
  split
  · rename_i meaning' rest' h'
    cases h.symm.trans h'
    rfl
  · rename_i h'
    cases h.symm.trans h'

theorem scan_cons_of_ne {c : Char} (hlt : c ≠ '<') (hamp : c ≠ '&') (s : List Char) :
    scan (c :: s) = .char c :: scan s := by
  rw [scan, if_neg hlt]
  split
  · rename_i meaning rest h
    cases (reference?_cons_of_ne hamp s).symm.trans h
  · rfl

end Markup

end LiveDeck
