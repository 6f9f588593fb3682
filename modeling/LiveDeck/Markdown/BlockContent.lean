import LiveDeck.Markdown.ReferenceDefinition

/-! # Reading blocks

`readBlocks` reads the blocks on the lines of a view.  A container hands its lines, seen without
its markers, to the reader of its content, so readers nest as deep as containers do; content that
is nested too deeply is dropped.

Reading a block takes at least one line, so a range of lines bounds the number of blocks in
it. -/

namespace LiveDeck.Markdown

/-- What the blocks of a source define: link references and footnote labels. -/
structure Definitions where
  references : References := []
  notes : List (List Char) := []
  deriving DecidableEq, Repr

/-- Blocks, the number of the line after them, whether no empty line separates them, and what has
been defined. -/
structure Contents where
  blocks : List TextBlock
  next : Nat
  isTight : Bool
  definitions : Definitions

/-- Reads the blocks on the lines from one number up to another. -/
abbrev BlockReader := View → Nat → Nat → Definitions → Contents

/-- What a rule read: blocks, the number of the line after them and what has been defined. -/
structure Reading where
  blocks : List TextBlock
  next : Nat
  definitions : Definitions

namespace Reading

/-- A single block that defines nothing. -/
def ofBlock (definitions : Definitions) (found : TextBlock × Nat) : Reading :=
  ⟨[found.1], found.2, definitions⟩

/-- A link reference definition, which is no block. -/
def ofReference (definitions : Definitions) (found : ReferenceDefinition) : Reading :=
  ⟨[], found.next,
    { definitions with references := definitions.references ++ [(found.label, found.target)] }⟩

end Reading

/-- Blocks whose own paragraphs are set without space around them. -/
def tighten (blocks : List TextBlock) : List TextBlock :=
  blocks.map fun
    | .paragraph _ content => .paragraph true content
    | block => block

namespace View

/-! ### Quotes -/

/-- The rest of a line after the mark of a quote and one space.  A tab counts as that space, and
what it reaches further remains. -/
def afterQuoteMark (v : View) (n : Nat) : Line :=
  let line := v.line n
  let mark := line.first + 1
  let column := line.indent.toNat + 1
  let next := v.source[mark]?
  let isNarrowTab := next == some '\t' && (line.base + column) % 4 == 3
  let (start, initial, shifted) : Nat × Nat × Nat :=
    if next == some ' ' || isNarrowTab then (mark + 1, column + 1, 0)
    else (mark, column, if next == some '\t' then 1 else 0)
  let (first, reached) := gapFrom v.source line.stop (line.base + shifted) start initial
  let spaced := next == some ' ' || next == some '\t'
  ⟨start, line.stop, first - start, reached - initial, column + if spaced then 1 else 0⟩

/-- The lines of a quote from line `n` on as they appear inside it, and whether another block ends
it.  Lines without a mark may continue its last paragraph; `afterEmpty` says that there is
none. -/
def quoteLines (v : View) (stop n : Nat) (afterEmpty : Bool) : List Line × Bool :=
  if n < stop then
    let line := v.line n
    if line.isEmpty then ([], false)
    else if v.firstChar? n == some '>' && !v.isOutdented n then
      let inner := v.afterQuoteMark n
      let (rest, interrupted) := quoteLines v stop (n + 1) inner.isEmpty
      (inner :: rest, interrupted)
    else if afterEmpty then ([], false)
    else if v.interruptsQuote n then ([], true)
    else
      let (rest, interrupted) := quoteLines v stop (n + 1) false
      ({ line with indent := -1 } :: rest, interrupted)
  else ([], false)
termination_by stop - n

/-- The view with other versions of the lines from `n` on. -/
def setLines (v : View) : Nat → List Line → View
  | _, [] => v
  | n, line :: rest => setLines (v.setLine n line) (n + 1) rest

/-- A quote. -/
def quote? (inner : BlockReader) (v : View) (n stop : Nat) (definitions : Definitions) :
    Option Reading :=
  if v.startsQuote n then
    let first := v.afterQuoteMark n
    let (rest, interrupted) := v.quoteLines stop (n + 1) first.isEmpty
    let last := n + 1 + rest.length
    let view := { v.setLines n (first :: rest) with
      lineCount := if interrupted then last else v.lineCount
      indent := 0 }
    let contents := inner view n last definitions
    some ⟨[.quote contents.blocks], contents.next, contents.definitions⟩
  else none

/-! ### Lists -/

/-- The items of a list, the number of the line after them, whether the list is tight, and what
has been defined. -/
structure Items where
  items : List (List TextBlock)
  next : Nat
  isTight : Bool
  definitions : Definitions

/-- The content of the item whose marker stands on a line. -/
def itemContents (inner : BlockReader) (v : View) (n stop : Nat) (marker : ItemMarker)
    (definitions : Definitions) : Contents :=
  let line := v.line n
  let initial := line.indent.toNat + (marker.stop - line.first)
  let (first, column) := gapFrom v.source line.stop line.base marker.stop initial
  let isBare := line.stop ≤ first
  let gap := if isBare || 4 < column - initial then 1 else column - initial
  if isBare && v.isEmptyLine (n + 1) then ⟨[], min (n + 2) stop, true, definitions⟩
  else
    let view := { v.setLine n { line with shift := first - line.start, indent := column } with
      indent := initial + gap
      listIndent := some v.indent }
    inner view n stop definitions

/-- The marker of an item that continues a list with the given one. -/
def nextMarker? (v : View) (n : Nat) (marker : ItemMarker) : Option ItemMarker :=
  if v.isOutdented n || v.isCode n || v.interruptsList n then none
  else (v.itemMarker? n).filter fun next =>
    next.number.isSome == marker.number.isSome && next.mark == marker.mark

/-- The items of a list from line `n` on, at most `fuel`.  `afterEmpty` says that an item before
ended with an empty line. -/
def itemsFrom (inner : BlockReader) (v : View) (stop : Nat) :
    Nat → Nat → ItemMarker → Bool → Definitions → Items
  | 0, n, _, _, definitions => ⟨[], n, true, definitions⟩
  | fuel + 1, n, marker, afterEmpty, definitions =>
    let item := v.itemContents inner n stop marker definitions
    let next := item.next
    let isTight := item.isTight && !afterEmpty
    let endsEmpty := n + 1 < next && v.isEmptyLine (next - 1)
    match if next < stop then v.nextMarker? next marker else none with
    | some following =>
      let rest := itemsFrom inner v stop fuel next following endsEmpty item.definitions
      ⟨item.blocks :: rest.items, rest.next, isTight && rest.isTight, rest.definitions⟩
    | none => ⟨[item.blocks], next, isTight, item.definitions⟩

/-- A list. -/
def list? (inner : BlockReader) (v : View) (n stop : Nat) (definitions : Definitions) :
    Option Reading :=
  (v.itemStart? n).map fun marker =>
    let list := v.itemsFrom inner stop (stop - n) n marker false definitions
    let items := if list.isTight then list.items.map tighten else list.items
    let block : TextBlock := match marker.number with
      | some start => .orderedList start items
      | none => .bulletList items
    ⟨[block], list.next, list.definitions⟩

/-! ### Definition lists -/

/-- Terms and definitions, the number of the line after them, whether the list is tight, and what
has been defined. -/
structure Parts where
  parts : List (List Char ⊕ List TextBlock)
  next : Nat
  isTight : Bool
  definitions : Definitions

/-- The content of the definition whose marker on line `n` ends at position `i`. -/
def definitionContents (inner : BlockReader) (v : View) (n stop i : Nat)
    (definitions : Definitions) : Contents :=
  let line := v.line n
  let initial := line.indent.toNat + (i - line.first)
  let (first, column) := gapFrom v.source line.stop 0 i initial
  let view := { v.setLine n { line with shift := first - line.start, indent := column } with
    indent := line.indent.toNat + 2
    inDefinition := true }
  inner view n stop definitions

/-- The line of the first definition after the term on line `n`, which one empty line may
separate, and the position after its marker. -/
def firstDefinition? (v : View) (n stop : Nat) : Option (Nat × Nat) :=
  let below := n + 1
  let line := if below < stop && v.isEmptyLine below then below + 1 else below
  if line < stop && !v.isOutdented line then (v.definitionStart? line).map fun i => (line, i)
  else none

/-- The term on a line: its text without the blanks at either end. -/
def term (v : View) (n : Nat) : List Char ⊕ List TextBlock :=
  .inl (Text.strip (v.cutLines n (n + 1) v.indent false))

/-- The parts of a definition list from the definition on line `n` on, at most `fuel`
definitions. -/
def partsFrom (inner : BlockReader) (v : View) (stop : Nat) :
    Nat → Nat → Nat → Bool → Definitions → Parts
  | 0, n, _, _, definitions => ⟨[], n, true, definitions⟩
  | fuel + 1, n, i, afterEmpty, definitions =>
    let found := v.definitionContents inner n stop i definitions
    let next := found.next
    let isTight := found.isTight && !afterEmpty
    let endsEmpty := n + 1 < next && v.isEmptyLine (next - 1)
    let part : List Char ⊕ List TextBlock := .inr found.blocks
    if next < stop && !v.isOutdented next then
      match v.definitionStart? next with
      | some j =>
        let rest := partsFrom inner v stop fuel next j endsEmpty found.definitions
        ⟨part :: rest.parts, rest.next, isTight && rest.isTight, rest.definitions⟩
      | none =>
        match if v.isEmptyLine next then none else v.firstDefinition? next stop with
        | some (line, j) =>
          let rest := partsFrom inner v stop fuel line j false found.definitions
          ⟨part :: v.term next :: rest.parts, rest.next, isTight && rest.isTight,
            rest.definitions⟩
        | none => ⟨[part], next, isTight, found.definitions⟩
    else ⟨[part], next, isTight, found.definitions⟩

/-- A definition list. -/
def definitionList? (inner : BlockReader) (v : View) (n stop : Nat) (definitions : Definitions) :
    Option Reading :=
  (v.firstDefinition? n stop).map fun (line, i) =>
    let list := v.partsFrom inner stop (stop - n) line i false definitions
    let parts := v.term n :: list.parts
    let block : TextBlock :=
      .definitionList (if list.isTight then parts.map (Sum.map id tighten) else parts)
    ⟨[block], list.next, list.definitions⟩

/-! ### Footnotes -/

/-- A footnote definition. -/
def note? (inner : BlockReader) (v : View) (n stop : Nat) (definitions : Definitions) :
    Option Reading :=
  (v.noteStart? n).map fun (label, i) =>
    let line := v.line n
    let initial := line.indent.toNat + (i - line.first)
    let (first, column) := gapFrom v.source line.stop 0 i initial
    let width := column - initial
    let indent := v.indent + 4
    let shifted : Line := { line with
      start := i
      shift := first - i
      indent := if width < indent then width + indent else width }
    let contents := inner { v.setLine n shifted with indent } n stop
      { definitions with notes := label :: definitions.notes }
    ⟨[.footnote contents.blocks], contents.next, contents.definitions⟩

/-! ### All blocks -/

/-- The block on a line.  `quoted` reads what is in a quote or a footnote, `listed` what is in an
item or a definition. -/
def readBlock (quoted listed : BlockReader) (v : View) (n stop : Nat) (definitions : Definitions) :
    Reading :=
  let single := fun (found? : Option (TextBlock × Nat)) =>
    found?.map (Reading.ofBlock definitions)
  let found? :=
    single (v.frontMatter? n stop) <|> single (v.table? n stop) <|>
    single (v.indentedCode? n stop) <|> single (v.math? n stop) <|> single (v.fence? n stop) <|>
    v.quote? quoted n stop definitions <|> single (v.rule? n) <|>
    v.list? listed n stop definitions <|> v.note? quoted n stop definitions <|>
    (v.reference? n).map (Reading.ofReference definitions) <|> single (v.html? n stop) <|>
    single (v.headingBlock? n) <|> single (v.underlined? n stop) <|>
    v.definitionList? listed n stop definitions
  found?.getD (Reading.ofBlock definitions (v.paragraph n))

end View

/-- Reads blocks up to line `stop`, at most `fuel`; `hasEmpty` says that an empty line came
before. -/
def blocksFrom (quoted listed : BlockReader) (v : View) (stop : Nat) :
    Nat → Nat → Bool → Bool → Definitions → Contents
  | 0, n, _, isTight, definitions => ⟨[], n, isTight, definitions⟩
  | fuel + 1, n, hasEmpty, isTight, definitions =>
    if stop ≤ n then ⟨[], n, isTight, definitions⟩
    else
      let line := v.skipEmpty n
      if stop ≤ line || v.isOutdented line then ⟨[], line, isTight, definitions⟩
      else
        let found := v.readBlock quoted listed line stop definitions
        let next := found.next
        let endsEmpty := next - 1 < stop && v.isEmptyLine (next - 1)
        let isFollowed := next < stop && v.isEmptyLine next
        let rest := blocksFrom quoted listed v stop fuel (if isFollowed then next + 1 else next)
          (hasEmpty || endsEmpty || isFollowed) (!hasEmpty) found.definitions
        { rest with blocks := found.blocks ++ rest.blocks }

/-- Drops the blocks on the lines up to `stop`. -/
def dropBlocks (v : View) (n stop : Nat) (definitions : Definitions) : Contents :=
  if stop ≤ n then ⟨[], n, true, definitions⟩
  else
    let line := v.skipEmpty n
    if stop ≤ line || v.isOutdented line then ⟨[], line, true, definitions⟩
    else ⟨[], stop, true, definitions⟩

/-- Reads blocks, where containers may be nested `depth` deep; an item is in a list, so it counts
twice. -/
def readBlocks : Nat → BlockReader
  | 0 => dropBlocks
  | 1 => fun v n stop definitions =>
    blocksFrom dropBlocks dropBlocks v stop (stop - n + 1) n false true definitions
  | depth + 2 => fun v n stop definitions =>
    blocksFrom (readBlocks (depth + 1)) (readBlocks depth) v stop (stop - n + 1) n false true
      definitions

/-- How deep containers may be nested. -/
def maxContainers : Nat := 20

/-- The blocks of a source and what is defined in it. -/
def sourceBlocks (source : List Char) : List TextBlock × Definitions :=
  let lines := sourceLines source
  let contents :=
    readBlocks maxContainers ⟨source.toArray, lines, lines.size, 0, none, false⟩ 0 lines.size {}
  (contents.blocks, contents.definitions)

end LiveDeck.Markdown
