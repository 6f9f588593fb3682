import LiveDeck.Markdown.Address
import LiveDeck.Markdown.LeafBlock

/-! # Link reference definitions

`View.reference?` reads `[label]: destination "title"` from a line on.  Lines are taken in one by
one as they are needed; a line is only taken if it could continue a paragraph. -/

namespace LiveDeck.Markdown

/-- A link reference definition and the number of the line after it. -/
structure ReferenceDefinition where
  label : List Char
  target : LinkTarget
  next : Nat
  deriving DecidableEq, Repr

/-- The lines taken in so far, without their gaps, and the number of the next one. -/
structure TakenLines where
  text : Array Char
  next : Nat
  deriving Repr

namespace TakenLines

/-- The lines with one more, if the next line may continue a paragraph. -/
def more? (v : View) (taken : TakenLines) : Option TakenLines :=
  let n := taken.next
  if v.lineCount ≤ n || v.isEmptyLine n then none
  else if v.isLazy n || !v.interruptsReference n v.lineCount then
    some ⟨taken.text ++ v.source.extract (v.line n).first ((v.line n).stop + 1), n + 1⟩
  else none

/-- The lines with one more at a line feed. -/
def grow (v : View) (taken : TakenLines) (i : Nat) : TakenLines :=
  if taken.text[i]? = some '\n' then (taken.more? v).getD taken else taken

/-- The position of the bracket that closes a label, looked for from position `i` on, at most
`fuel` steps. -/
def labelEnd? (v : View) : Nat → Nat → TakenLines → Option (Nat × TakenLines)
  | 0, _, _ => none
  | fuel + 1, i, taken =>
    match taken.text[i]? with
    | none => none
    | some '[' => none
    | some ']' => some (i, taken)
    | some '\\' => labelEnd? v fuel (i + 2) (taken.grow v (i + 1))
    | some _ => labelEnd? v fuel (i + 1) (taken.grow v i)

/-- The position after gaps and line feeds, at most `fuel` of them. -/
def skipGaps (v : View) : Nat → Nat → TakenLines → Nat × TakenLines
  | 0, i, taken => (i, taken)
  | fuel + 1, i, taken =>
    match taken.text[i]? with
    | some c =>
      if isGapOrFeed c then skipGaps v fuel (i + 1) (taken.grow v i) else (i, taken)
    | none => (i, taken)

/-- Reads on a title that is not closed yet over at most `fuel` lines; `i` is where its last part
starts. -/
def titleOver (v : View) (close : Char) :
    Nat → Nat → TitleScan → TakenLines → Nat × TitleScan × TakenLines
  | 0, i, scan, taken => (i, scan, taken)
  | fuel + 1, i, scan, taken =>
    match scan with
    | .unclosed text =>
      match taken.more? v with
      | some longer =>
        let start := taken.text.size
        titleOver v close fuel start (titleRest longer.text longer.text.size close text start start)
          longer
      | none => (i, scan, taken)
    | _ => (i, scan, taken)

/-- The position after the gaps, if nothing else stands before the end of the line. -/
def lineEnd? (taken : TakenLines) (i : Nat) : Option Nat :=
  let j := skipWhile taken.text taken.text.size isGap i
  match taken.text[j]? with
  | none => some j
  | some '\n' => some j
  | some _ => none

end TakenLines

namespace View

/-- The title after a destination that ends at position `i`, and the number of the line after it;
`none` if the line of the destination does not end properly either. -/
def referenceTitle? (v : View) (fuel i : Nat) (taken : TakenLines) : Option (List Char × Nat) :=
  let (titleStart, atTitle) := taken.skipGaps v fuel i
  let text := atTitle.text
  let close := (text[titleStart]?.bind titleClose?).getD ' '
  let (last, scan, grown) :=
    atTitle.titleOver v close fuel titleStart (title text text.size titleStart)
  let titled? : Option (LinkPart × Bool) := match scan with
    | .closed part =>
      if last < grown.text.size && i != last then some (part, (grown.lineEnd? part.stop).isSome)
      else none
    | _ => none
  match titled? with
  | some (part, true) => some (part.text, grown.next)
  | some (⟨[], _⟩, false) => none
  | _ => (grown.lineEnd? i).map fun _ => ([], taken.next)

/-- The link reference definition that starts on a line. -/
def reference? (v : View) (n : Nat) : Option ReferenceDefinition := do
  if (v.startText n).head? = some '[' then
    let fuel := v.source.size
    let line := v.line n
    let (labelEnd, taken) ←
      TakenLines.labelEnd? v fuel 1 ⟨v.source.extract line.first (line.stop + 1), n + 1⟩
    if taken.text[labelEnd + 1]? = some ':' then
      let (start, taken) := taken.skipGaps v fuel (labelEnd + 2)
      let destination ← destination? taken.text taken.text.size start
      let href := Address.normalize destination.text
      if Address.isSafe href then
        let (title, next) ← v.referenceTitle? fuel destination.stop taken
        let label := normalizeLabel (slice taken.text 1 labelEnd)
        if label.isEmpty then none else some ⟨label, ⟨href, title⟩, next⟩
      else none
    else none
  else none

end View

end LiveDeck.Markdown
