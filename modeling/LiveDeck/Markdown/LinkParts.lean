import LiveDeck.Markdown.Spacing
import LiveDeck.Markdown.Unescape
import LiveDeck.Text.CaseFold

/-! # Destinations, titles and labels

The parts of a link that follow its text, read from a position of a text up to a limit. -/

namespace LiveDeck.Markdown

open Text

/-- The first position from `i` on, below `limit`, whose character does not satisfy `p`. -/
def skipWhile (s : Array Char) (limit : Nat) (p : Char → Bool) (i : Nat) : Nat :=
  if i < limit then
    match s[i]? with
    | some c => if p c then skipWhile s limit p (i + 1) else i
    | none => i
  else i
termination_by limit - i

/-- The characters between two positions. -/
def slice (s : Array Char) (i j : Nat) : List Char := (s.extract i j).toList

/-- A part that was read, and the position after it. -/
structure LinkPart where
  text : List Char
  stop : Nat
  deriving DecidableEq, Repr

/-! ### Destinations -/

/-- The position of the `>` that ends a destination in angle brackets. -/
def angleEnd? (s : Array Char) (limit : Nat) (i : Nat) : Option Nat :=
  if i < limit then
    match s[i]? with
    | none => none
    | some '\n' => none
    | some '<' => none
    | some '>' => some i
    | some '\\' => if i + 1 < limit then angleEnd? s limit (i + 2) else angleEnd? s limit (i + 1)
    | some _ => angleEnd? s limit (i + 1)
  else none
termination_by limit - i

/-- Whether a character ends a destination without brackets: a blank or a control character, but
not a null character, which spells a surrogate. -/
def endsBare (c : Char) : Bool := (c.toNat ≤ 0x20 && c != '\x00') || c.toNat == 0x7F

/-- Where a destination without brackets ends, and how many parentheses are open there; `none`
if more than 32 are open at once. -/
def bareEnd? (s : Array Char) (limit : Nat) (i depth : Nat) : Option (Nat × Nat) :=
  if i < limit then
    match s[i]? with
    | none => some (i, depth)
    | some c =>
      if endsBare c then some (i, depth)
      else if c = '\\' && i + 1 < limit then
        if s[i + 1]? = some ' ' then some (i, depth) else bareEnd? s limit (i + 2) depth
      else if c = '(' then
        if 32 ≤ depth then none else bareEnd? s limit (i + 1) (depth + 1)
      else if c = ')' then
        if depth = 0 then some (i, depth) else bareEnd? s limit (i + 1) (depth - 1)
      else bareEnd? s limit (i + 1) depth
  else some (i, depth)
termination_by limit - i

/-- The destination at a position. -/
def destination? (s : Array Char) (limit i : Nat) : Option LinkPart :=
  if s[i]? = some '<' && i < limit then
    (angleEnd? s limit (i + 1)).map fun j => ⟨unescape (slice s (i + 1) j), j + 1⟩
  else
    match bareEnd? s limit i 0 with
    | some (j, 0) => if i < j then some ⟨unescape (slice s i j), j⟩ else none
    | _ => none

/-! ### Titles -/

/-- How reading a title went: it is complete, or it reaches the limit unclosed, or it is none. -/
inductive TitleScan where
  | closed (part : LinkPart)
  | unclosed (text : List Char)
  | absent
  deriving DecidableEq, Repr

/-- Reads a title from position `i` up to its closing mark; `start` is where its text began and
`before` what earlier lines contributed. -/
def titleRest (s : Array Char) (limit : Nat) (close : Char) (before : List Char) (start i : Nat) :
    TitleScan :=
  if i < limit then
    match s[i]? with
    | none => .unclosed (before ++ unescape (slice s start i))
    | some c =>
      if c = close then .closed ⟨before ++ unescape (slice s start i), i + 1⟩
      else if c = '(' && close = ')' then .absent
      else if c = '\\' && i + 1 < limit then titleRest s limit close before start (i + 2)
      else titleRest s limit close before start (i + 1)
  else .unclosed (before ++ unescape (slice s start i))
termination_by limit - i

/-- The closing mark of a title that opens with the given character. -/
def titleClose? : Char → Option Char
  | '"' => some '"'
  | '\'' => some '\''
  | '(' => some ')'
  | _ => none

/-- The title at a position. -/
def title (s : Array Char) (limit i : Nat) : TitleScan :=
  if i < limit then
    match s[i]?.bind titleClose? with
    | some close => titleRest s limit close [] (i + 1) (i + 1)
    | none => .absent
  else .absent

/-- The title at a position if it is complete. -/
def title? (s : Array Char) (limit i : Nat) : Option LinkPart :=
  match title s limit i with
  | .closed part => some part
  | _ => none

/-! ### Labels -/

/-- A label in the form in which labels are compared: without padding at its ends, with single
spaces between its words, and without letter case. -/
def normalizeLabel (label : List Char) : List Char := foldCase (collapse label)

/-- What a label refers to. -/
structure LinkTarget where
  href : List Char
  title : List Char
  deriving DecidableEq, Repr

/-- The link reference definitions of a text by normalized label, the first of a label first. -/
abbrev References := List (List Char × LinkTarget)

end LiveDeck.Markdown
