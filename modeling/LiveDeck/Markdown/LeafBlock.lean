import LiveDeck.Markdown.Block
import LiveDeck.Markdown.BlockStart

/-! # Blocks without blocks inside

For each kind of block that holds no other blocks: whether it starts on line `n`, where it ends,
not beyond line `stop`, and what is in it.  The answer is the block and the number of the line
after it. -/

namespace LiveDeck.Markdown

open Text (Pattern strip stripEnd isBlank)

/-- A block whose content is still text. -/
abbrev TextBlock := Block (List Char)

namespace View

/-! ### Front matter -/

/-- Whether a line, including its gap, is three full stops. -/
def isEndOfMatter (v : View) (n : Nat) : Bool :=
  stripEnd (slice v.source (v.line n).start (v.line n).stop) == ['.', '.', '.']

/-- Whether a line is a run of at least `length` marks. -/
def isClosing (v : View) (mark : Char) (length n : Nat) : Bool :=
  let text := v.startText n
  length ≤ (text.takeWhile (· == mark)).length && (text.dropWhile (· == mark)).all isGap

/-- Where front matter ends and where the text goes on after it. -/
def frontMatterEnd? (v : View) (length stop n : Nat) : Option (Nat × Nat) :=
  if n < stop then
    if !v.isEmptyLine n && v.isOutdented n then some (n, n)
    else if v.isEndOfMatter n || v.isClosing '-' length n then some (n, n + 1)
    else frontMatterEnd? v length stop (n + 1)
  else none
termination_by stop - n

/-- Front matter, on the first line of a source that starts with a dash. -/
def frontMatter? (v : View) (n stop : Nat) : Option (TextBlock × Nat) :=
  if n == 0 && v.source[0]? == some '-' then
    let dashes := ((v.lineText 0).drop 1).takeWhile (· == '-')
    if dashes.length < 2 then none
    else
      (v.frontMatterEnd? (dashes.length + 1) stop 1).map fun (last, next) =>
        (.frontMatter (slice v.source (v.line 1).start (v.line (last - 1)).stop), next)
  else none

/-! ### Tables -/

/-- Where the rows of a table end. -/
def tableEnd (v : View) (stop n : Nat) : Nat :=
  if n < stop then
    if v.isOutdented n || v.interruptsQuote n || v.isCode n || (unpad (v.lineText n)).isEmpty then n
    else tableEnd v stop (n + 1)
  else n
termination_by stop - n

/-- How many cells rows may lack altogether. -/
def maxMissingCells : Nat := 0x10000

/-- The rows up to the one at which too many cells are missing; rows with too many cells make up
for others. -/
def fillableRows (width : Nat) : Int → List (List (List Char)) → List (List (List Char))
  | _, [] => []
  | missing, row :: rest =>
    let total := missing + width - row.length
    if maxMissingCells < total then [] else row :: fillableRows width total rest

/-- A row with the given number of cells. -/
def fillRow (width : Nat) (row : List (List Char)) : List (List Char) :=
  (row.take width).map unpad ++ List.replicate (width - row.length) []

/-- The table whose header stands on line `n`. -/
def table? (v : View) (n stop : Nat) : Option (TextBlock × Nat) :=
  (v.tableStart? n stop).map fun columns =>
    let first := n + 2
    let last := v.tableEnd stop first
    let rows := (List.range' first (last - first)).map fun i => rowCells (v.lineText i)
    let kept := fillableRows columns.length 0 rows
    (.table columns (kept.map (fillRow columns.length)), first + kept.length)

/-! ### Code and formulas -/

/-- Where indented code ends; `last` is the line after the last that is not empty. -/
def codeEnd (v : View) (stop last n : Nat) : Nat :=
  if n < stop then
    if v.isEmptyLine n then codeEnd v stop last (n + 1)
    else if v.isCode n then codeEnd v stop (n + 1) (n + 1)
    else last
  else last
termination_by stop - n

/-- Indented code. -/
def indentedCode? (v : View) (n stop : Nat) : Option (TextBlock × Nat) :=
  if v.isCode n then
    let last := v.codeEnd stop (n + 1) (n + 1)
    some (.indentedCode (v.cutLines n last (v.indent + 4) false ++ ['\n']), last)
  else none

/-- The closing line of a fence, or the line at which it ends unclosed. -/
def fenceEnd (v : View) (fence : FenceStart) (stop n : Nat) : Nat × Bool :=
  if n < stop then
    if !v.isEmptyLine n && v.isOutdented n then (n, false)
    else if v.source.size ≤ (v.line n).first then (n, false)
    else if v.isClosing fence.mark fence.length n then (n, true)
    else fenceEnd v fence stop (n + 1)
  else (n, false)
termination_by stop - n

/-- Fenced code; what the fence is indented, its lines may be indented too. -/
def fence? (v : View) (n stop : Nat) : Option (TextBlock × Nat) :=
  (v.fenceStart? n).map fun fence =>
    let (last, closed) := v.fenceEnd fence stop (n + 1)
    let content := v.cutLines (n + 1) last (v.line n).indent.toNat true
    (.fence fence.info content, if closed then last + 1 else last)

/-- A label in parentheses after two dollars, read from the end of a line. -/
def reversedLabel : Pattern :=
  .all [.greedy isBlank, .exactly ")", .many (fun c => !")$\r\n".toList.contains c) 1 none true,
    .exactly "(", .greedy isBlank, .exactly "$$"]

/-- How much of the end of a line closes a formula. -/
def mathClosing? (text : List Char) : Option Nat :=
  let stripped := strip text
  if "$$".toList.isSuffixOf stripped then some (text.length - stripped.length + 2)
  else reversedLabel.matchEnd? text.reverse.toArray 0

/-- The line that closes a formula, and how much of its end does. -/
def mathEnd? (v : View) (stop n : Nat) : Option (Nat × Nat) :=
  if n < stop then
    match mathClosing? (v.lineText n) with
    | some length => some (n, length)
    | none => mathEnd? v stop (n + 1)
  else none
termination_by stop - n

/-- Whether two dollars stand next to each other in a text. -/
def hasTwoDollars : List Char → Bool
  | '$' :: '$' :: _ => true
  | _ :: rest => hasTwoDollars rest
  | [] => false

/-- The line that closes the formula opened on line `n`, and how much of its end does.  Two more
dollars on the first line that do not close the formula there keep it from being one. -/
def mathClosingLine? (v : View) (n stop : Nat) : Option (Nat × Nat) :=
  let text := v.lineText n
  match if 3 < (strip text).length then mathClosing? text else none with
  | some length => some (n, length)
  | none => if hasTwoDollars (text.drop 2) then none else v.mathEnd? stop (n + 1)

/-- A formula between double dollars.  The lines after the first keep their indentation. -/
def math? (v : View) (n stop : Nat) : Option (TextBlock × Nat) :=
  if "$$".toList.isPrefixOf (v.startText n) then
    (v.mathClosingLine? n stop).map fun (last, length) =>
      let others := (List.range' (n + 1) (last - n)).flatMap fun i =>
        '\n' :: slice v.source (v.line i).start (v.line i).stop
      let whole := v.lineText n ++ others
      (.math ((whole.take (whole.length - length)).drop 2), last + 1)
  else none

/-! ### Rules, headings and raw HTML -/

/-- A rule. -/
def rule? (v : View) (n : Nat) : Option (TextBlock × Nat) :=
  if v.isRule n then some (.rule, n + 1) else none

/-- Where raw HTML of a kind ends. -/
def htmlEnd (v : View) (kind : HtmlTag.BlockKind) (stop n : Nat) : Nat :=
  if n < stop then
    if !v.isEmptyLine n && v.isOutdented n then n
    else
      let text := (v.lineText n).toArray
      if kind.endsAt text then if text.isEmpty then n else n + 1
      else htmlEnd v kind stop (n + 1)
  else n
termination_by stop - n

/-- Raw HTML. -/
def html? (v : View) (n stop : Nat) : Option (TextBlock × Nat) :=
  (v.htmlStart? n).map fun kind =>
    let last := if kind.endsAt (v.lineText n).toArray then n + 1 else v.htmlEnd kind stop (n + 1)
    (.html (v.cutLines n last v.indent true), last)

/-- A heading on one line. -/
def headingBlock? (v : View) (n : Nat) : Option (TextBlock × Nat) :=
  (v.heading? n).map fun (level, content) => (.heading level content, n + 1)

/-! ### Paragraphs -/

/-- Whether a line continues a paragraph whatever it looks like: it is
indented like code, or it continues the paragraph from outside its container. -/
def isLazy (v : View) (n : Nat) : Bool := v.isCode n || (v.line n).indent < 0

/-- The text of the lines of a paragraph. -/
def paragraphText (v : View) (n stop : Nat) : List Char :=
  unpad (v.cutLines n stop v.indent false)

/-- Where a paragraph ends. -/
def paragraphEnd (v : View) (n : Nat) : Nat :=
  if n < v.lineCount then
    if v.isEmptyLine n then n
    else if v.isLazy n || !v.interruptsParagraph n v.lineCount then paragraphEnd v (n + 1)
    else n
  else n
termination_by v.lineCount - n

/-- A paragraph. -/
def paragraph (v : View) (n : Nat) : TextBlock × Nat :=
  let last := v.paragraphEnd (n + 1)
  (.paragraph false (v.paragraphText n last), last)

/-- The level that a line gives to the text above it. -/
def underline? (v : View) (n : Nat) : Option (Fin 6) :=
  if v.isOutdented n then none
  else match v.lineText n with
    | [] => none
    | mark :: rest =>
      if (rest.dropWhile (· == mark)).all isGap then
        if mark == '=' then some 0 else if mark == '-' then some 1 else none
      else none

/-- The line under a heading and the level that it gives. -/
def underlineBelow? (v : View) (stop n : Nat) : Option (Nat × Fin 6) :=
  if n < stop then
    if v.isEmptyLine n then none
    else if v.isCode n then underlineBelow? v stop (n + 1)
    else match v.underline? n with
      | some level => some (n, level)
      | none =>
        if (v.line n).indent < 0 || !v.interruptsParagraph n stop then
          underlineBelow? v stop (n + 1)
        else none
  else none
termination_by stop - n

/-- A heading with a line under it. -/
def underlined? (v : View) (n stop : Nat) : Option (TextBlock × Nat) :=
  if v.isCode n then none
  else (v.underlineBelow? stop (n + 1)).map fun (last, level) =>
    (.heading level (v.paragraphText n last), last + 1)

end View

end LiveDeck.Markdown
