import LiveDeck.Markdown.LinkParts

/-! # Lines of a source

A line is a stretch of the source with its indentation.  While the content of a container is
read, its lines start after the marker of the container, and indentation counts from there.
Tabs reach to the next multiple of four columns. -/

namespace LiveDeck.Markdown

/-- A line: where it starts and stops, how many gap characters stand at its start, the column
that they reach, and the column at which the line starts itself.  A line that only continues a
paragraph in a container it does not belong to has a negative column. -/
structure Line where
  start : Nat
  stop : Nat
  shift : Nat
  indent : Int
  base : Nat
  deriving DecidableEq, Repr

namespace Line

/-- The position of the first character after the gap. -/
def first (line : Line) : Nat := line.start + line.shift

/-- Whether there is nothing but gap. -/
def isEmpty (line : Line) : Bool := line.stop ≤ line.first

end Line

/-- How far a gap character at a column reaches. -/
def gapWidth (c : Char) (column : Nat) : Nat := if c = '\t' then 4 - column % 4 else 1

/-- The column after the gap from position `i` up to `limit`, and where the gap ends; `base` is
the column at which columns start to count for tabs. -/
def gapFrom (s : Array Char) (limit base : Nat) (i column : Nat) : Nat × Nat :=
  if i < limit then
    match s[i]? with
    | some c => if isGap c then gapFrom s limit base (i + 1) (column + gapWidth c (base + column))
        else (i, column)
    | none => (i, column)
  else (i, column)
termination_by limit - i

/-- The lines of a source that is cut at its line feeds, the first of them at position `start`.
What follows the last line feed is no line if it is only gap. -/
def linesFrom (start : Nat) : List (List Char) → List Line
  | [] => []
  | text :: rest =>
    let gap := text.takeWhile isGap
    let column := gap.foldl (fun column c => column + gapWidth c column) 0
    let stop := start + text.length
    if rest.isEmpty && gap.length = text.length then []
    else ⟨start, stop, gap.length, column, 0⟩ :: linesFrom (stop + 1) rest

/-- The lines of a source. -/
def sourceLines (source : List Char) : Array Line := (linesFrom 0 (source.splitOn '\n')).toArray

/-- A source with its lines as they appear inside the current containers.  `lineCount` bounds the
lines that may continue a paragraph, and `indent` is the column at which content starts.
`listIndent` is the column of the surrounding list, if there is one, and `inDefinition` says
whether a definition surrounds the content. -/
structure View where
  source : Array Char
  lines : Array Line
  lineCount : Nat
  indent : Nat := 0
  listIndent : Option Nat := none
  inDefinition : Bool := false

namespace View

/-- A line; after the last one stands an empty line. -/
def line (v : View) (n : Nat) : Line :=
  v.lines.getD n ⟨v.source.size, v.source.size, 0, 0, 0⟩

def isEmptyLine (v : View) (n : Nat) : Bool := (v.line n).isEmpty

/-- The first line from `n` on that is not empty, or the line count. -/
def skipEmpty (v : View) (n : Nat) : Nat :=
  if n < v.lineCount then if v.isEmptyLine n then skipEmpty v (n + 1) else n else n
termination_by v.lineCount - n

/-- Whether a line is indented like code. -/
def isCode (v : View) (n : Nat) : Bool := 4 ≤ (v.line n).indent - v.indent

/-- Whether a line is indented less than the content. -/
def isOutdented (v : View) (n : Nat) : Bool := (v.line n).indent < v.indent

/-- The first character of a line, or the character after the line if it is empty. -/
def firstChar? (v : View) (n : Nat) : Option Char := v.source[(v.line n).first]?

/-- A line without its gap. -/
def lineText (v : View) (n : Nat) : List Char := slice v.source (v.line n).first (v.line n).stop

/-- The view with another version of a line. -/
def setLine (v : View) (n : Nat) (line : Line) : View :=
  { v with lines := v.lines.setIfInBounds n line }

/-- The part of a line after `indent` columns, up to `last`; a tab that reaches further leaves
spaces.  Characters that belong to the gap of the line count as one column each. -/
def cutFrom (v : View) (line : Line) (indent last : Nat) (i column : Nat) : List Char :=
  if i < last then
    if column < indent then
      match v.source[i]? with
      | some c =>
        if isGap c then
          cutFrom v line indent last (i + 1) (column + gapWidth c (column + line.base))
        else if i < line.first then cutFrom v line indent last (i + 1) (column + 1)
        else slice v.source i last
      | none => []
    else List.replicate (column - indent) ' ' ++ slice v.source i last
  else List.replicate (column - indent) ' '
termination_by last - i

/-- Lines from `begin` to `stop` without the first `indent` columns; `keepLast` says whether the
line feed of the last one is kept. -/
def cutLines (v : View) (begin stop indent : Nat) (keepLast : Bool) : List Char :=
  (List.range' begin (stop - begin)).flatMap fun n =>
    let line := v.line n
    let last := if keepLast || n + 1 < stop then line.stop + 1 else line.stop
    v.cutFrom line indent last line.start 0

end View

end LiveDeck.Markdown
