import LiveDeck.Markdown.Inline

/-! # Delimiters

The characters `*`, `_` and `~~` may open or close emphasis.  `pair` finds for every closing
delimiter of a sequence the nearest opening one that it may close; `applyPairs` turns the pieces
of the paired delimiters into openings and closings.

A delimiter that both opens and closes pairs with another only if the lengths of their runs do
not add up to a multiple of three, or are multiples of three both. -/

namespace LiveDeck.Markdown

/-- A delimiter: its character, the length of its run (zero where lengths do not matter), the
piece that holds it, whether it may open and close, and the delimiter that closes it. -/
structure Delimiter where
  mark : Char
  length : Nat
  piece : Nat
  opens : Bool
  closes : Bool
  partner : Option Nat := none
  deriving DecidableEq, Repr, Inhabited

namespace Delimiter

/-- Whether the lengths of two runs forbid that one closes the other. -/
def isOddMatch (opener closer : Delimiter) : Bool :=
  (opener.closes || closer.opens) && (opener.length + closer.length) % 3 == 0 &&
    (opener.length % 3 != 0 || closer.length % 3 != 0)

end Delimiter

/-- A bound below which no opener was found for closers of one kind: the mark, whether the closer
opens too, the length modulo three, and the number of delimiters below which none is looked for. -/
structure OpenerBound where
  mark : Char
  opens : Bool
  residue : Nat
  below : Nat
  deriving DecidableEq, Repr

/-- The state of pairing: the delimiters, how far to jump back over each of them, the bounds, the
first delimiter of the current run, and the piece after the last delimiter of that run. -/
structure Pairing where
  delimiters : Array Delimiter
  jumps : Array Nat
  bounds : List OpenerBound
  runStart : Nat
  nextPiece : Option Nat
  deriving Repr

namespace Pairing

def delimiter (p : Pairing) (i : Nat) : Delimiter := p.delimiters.getD i default

def jump (p : Pairing) (i : Nat) : Nat := p.jumps.getD i 0

/-- Looks for an opener for `closer` among the delimiters before position `i` and not before
`least`, in at most `fuel` steps. -/
def opener? (p : Pairing) (closer : Delimiter) (least : Nat) : Nat → Nat → Option Nat
  | 0, _ => none
  | fuel + 1, i =>
    if i ≤ least then none
    else
      let j := i - 1
      let candidate := p.delimiter j
      if candidate.mark = closer.mark && candidate.opens && candidate.partner.isNone &&
          !candidate.isOddMatch closer
      then some j
      else opener? p closer least fuel (j - p.jump j)

/-- The number of delimiters below which no opener is looked for. -/
def bound (p : Pairing) (closer : Delimiter) : Nat :=
  match p.bounds.find? fun b =>
      b.mark = closer.mark && b.opens = closer.opens && b.residue = closer.length % 3 with
  | some b => b.below
  | none => 0

/-- Notes that no opener was found before position `i` for closers like this one. -/
def setBound (p : Pairing) (closer : Delimiter) (i : Nat) : Pairing :=
  let isOther := fun (b : OpenerBound) =>
    !(b.mark = closer.mark && b.opens = closer.opens && b.residue = closer.length % 3)
  { p with bounds :=
      ⟨closer.mark, closer.opens, closer.length % 3, i⟩ :: p.bounds.filter isOther }

/-- Pairs the delimiter at position `j` with the closer at position `i`. -/
def link (p : Pairing) (j i : Nat) : Pairing :=
  let lastJump := match j with
    | 0 => 0
    | k + 1 => if (p.delimiter k).opens then 0 else p.jump k + 1
  { p with
    delimiters := (p.delimiters.modify i fun d => { d with opens := false }).modify j
      fun d => { d with partner := some i, closes := false }
    jumps := (p.jumps.setIfInBounds i (i - j + lastJump)).setIfInBounds j lastJump
    nextPiece := none }

/-- Takes the delimiter at position `i` into account. -/
def advance (p : Pairing) (i : Nat) : Pairing :=
  let closer := p.delimiter i
  let continues := (p.delimiter p.runStart).mark = closer.mark && p.nextPiece = some closer.piece
  let p := { p with
    jumps := p.jumps.push 0
    runStart := if continues then p.runStart else i
    nextPiece := some (closer.piece + 1) }
  if !closer.closes then p
  else
    let start := p.runStart - p.jump p.runStart
    match p.opener? closer (p.bound closer) (i + 1) start with
    | some j => p.link j i
    | none => if start = 0 then p else p.setBound closer start

end Pairing

/-- The delimiters of a sequence with their partners. -/
def pair (delimiters : Array Delimiter) : Array Delimiter :=
  ((List.range delimiters.size).foldl Pairing.advance ⟨delimiters, #[], [], 0, none⟩).delimiters

/-! ### From pairs to pieces -/

/-- Moves the lone tilde at position `i` behind the closings that follow it. -/
def moveLone (pieces : Array Piece) (i : Nat) : Array Piece :=
  let isClosing := fun piece => match piece with
    | Piece.closing .strike => true
    | _ => false
  let j := i + ((pieces.toList.drop (i + 1)).takeWhile isClosing).length
  if i = j then pieces else pieces.swapIfInBounds i j

/-- Turns the paired tildes into openings and closings. -/
def applyStrikes (delimiters : Array Delimiter) (pieces : Array Piece) : Array Piece :=
  let step := fun (state : Array Piece × List Nat) (d : Delimiter) =>
    match d.mark == '~', d.partner with
    | true, some partner =>
      let last := (delimiters.getD partner default).piece
      let marked := (state.1.setIfInBounds d.piece (.opening .strike)).setIfInBounds last
        (.closing .strike)
      match last with
      | k + 1 =>
        match marked[k]? with
        | some (.text ['~']) => (marked, k :: state.2)
        | _ => (marked, state.2)
      | 0 => (marked, state.2)
    | _, _ => state
  let (marked, lone) := delimiters.foldl step (pieces, [])
  lone.foldl moveLone marked

/-- Turns the paired stars and underscores among the first `n` delimiters into openings and
closings, the last of them first; two neighbouring pairs make one strong element. -/
def applyEmphasis (delimiters : Array Delimiter) : Nat → Array Piece → Array Piece
  | 0, pieces => pieces
  | i + 1, pieces =>
    let d := delimiters.getD i default
    match d.mark == '*' || d.mark == '_', d.partner with
    | true, some partner =>
      let closer := delimiters.getD partner default
      let before := delimiters.getD (i - 1) default
      let after := delimiters.getD (partner + 1) default
      let isStrong := 0 < i && before.partner == some (partner + 1) && before.mark == d.mark &&
        before.piece + 1 == d.piece && after.piece == closer.piece + 1
      let span := if isStrong then Span.strong else Span.emphasis
      let marked := (pieces.setIfInBounds d.piece (.opening span)).setIfInBounds closer.piece
        (.closing span)
      if isStrong then
        applyEmphasis delimiters (i - 1) ((marked.setIfInBounds before.piece (.text [])).setIfInBounds
          after.piece (.text []))
      else applyEmphasis delimiters i marked
    | _, _ => applyEmphasis delimiters i pieces
termination_by n => n
decreasing_by all_goals omega

/-- The pieces with the delimiters of every sequence applied. -/
def applyPairs (sequences : List (Array Delimiter)) (pieces : Array Piece) : Array Piece :=
  let paired := sequences.map pair
  let struck := paired.foldl (fun pieces delimiters => applyStrikes delimiters pieces) pieces
  paired.foldl (fun pieces delimiters => applyEmphasis delimiters delimiters.size pieces) struck

end LiveDeck.Markdown
