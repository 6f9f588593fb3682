import LiveDeck.Document.Basic
import LiveDeck.Markdown.HtmlTag
import LiveDeck.Markdown.Line

/-! # Starts of blocks

What a line starts, by its first characters: a fence, a quote, a rule, a list item, a footnote, a
heading and so on.  A line indented like code starts none of these.

`View.interruptsParagraph`, `View.interruptsQuote` and `View.interruptsList` say which starts put
an end to what came before. -/

namespace LiveDeck.Markdown

open Text (dropEndWhile)

/-- The opening line of a fence: its mark, how often it is repeated, and what follows. -/
structure FenceStart where
  mark : Char
  length : Nat
  info : List Char
  deriving DecidableEq, Repr

/-- The marker of a list item: its number in an ordered list, the character that ends it, and the
position after it. -/
structure ItemMarker where
  number : Option Nat
  mark : Char
  stop : Nat
  deriving DecidableEq, Repr

/-! ### Table rows -/

/-- The cells of a table row; a bar after a backslash belongs to its cell.  `cell` is what has
been read of the current one, backwards. -/
def splitCells (cell : List Char) : List Char → List (List Char)
  | [] => [cell.reverse]
  | '\\' :: '|' :: rest => splitCells ('|' :: cell) rest
  | '|' :: rest => cell.reverse :: splitCells [] rest
  | c :: rest => splitCells (c :: cell) rest

/-- The list without an empty first and an empty last element. -/
def dropEmptyEnds (cells : List (List Char)) : List (List Char) :=
  let others := if cells.head? = some [] then cells.tail else cells
  if others.getLast? = some [] then others.dropLast else others

/-- The cells of a table row. -/
def rowCells (row : List Char) : List (List Char) := dropEmptyEnds (splitCells [] (unpad row))

/-- The alignment that a cell of the delimiter row gives: dashes, with a colon on the sides to
which the column is aligned. -/
def delimiterAlignment? (cell : List Char) : Option Alignment :=
  let left := cell.head? == some ':'
  let dashes := if left then cell.tail else cell
  let right := dashes.getLast? == some ':'
  let middle := if right then dashes.dropLast else dashes
  if middle.isEmpty || middle.any (· != '-') then none
  else match left, right with
    | true, true => some .center
    | true, false => some .left
    | false, true => some .right
    | false, false => some .standard

/-- Whether a line may be a delimiter row. -/
def isDelimiterRow (row : List Char) : Bool :=
  let isMark := fun c => c == '|' || c == '-' || c == ':'
  match row with
  | first :: second :: rest =>
    isMark first && (isMark second || isGap second) && !(first == '-' && isGap second) &&
      rest.all fun c => isMark c || isGap c
  | _ => false

/-- The alignments that a delimiter row gives.  The cells at its ends may be empty. -/
def delimiterAlignments? (row : List Char) : Option (List Alignment) :=
  ((dropEmptyEnds ((row.splitOn '|').map unpad)).mapM delimiterAlignment?)

namespace View

/-! ### Blocks of one kind -/

/-- The text of a line that is not indented like code; such a line starts nothing. -/
def startText (v : View) (n : Nat) : List Char := if v.isCode n then [] else v.lineText n

/-- The fence that a line opens. -/
def fenceStart? (v : View) (n : Nat) : Option FenceStart :=
  match v.startText n with
  | [] => none
  | mark :: rest =>
    let length := (rest.takeWhile (· == mark)).length + 1
    let info := rest.dropWhile (· == mark)
    if (mark == '~' || mark == '\x60') && 3 ≤ length && !(mark == '\x60' && info.contains '\x60')
    then some ⟨mark, length, info⟩
    else none

/-- Whether a line starts a quote. -/
def startsQuote (v : View) (n : Nat) : Bool := (v.startText n).head? == some '>'

/-- Whether a line is a rule: three or more of one mark, with gaps between them. -/
def isRule (v : View) (n : Nat) : Bool :=
  match v.startText n with
  | [] => false
  | mark :: rest =>
    (mark == '*' || mark == '-' || mark == '_') && rest.all (fun c => c == mark || isGap c) &&
      2 ≤ rest.count mark

/-- Whether nothing or a gap follows. -/
def endsMarker : List Char → Bool
  | [] => true
  | c :: _ => isGap c

/-- The marker that a line starts with, whether or not the line may start an item. -/
def itemMarker? (v : View) (n : Nat) : Option ItemMarker :=
  let text := v.lineText n
  let digits := text.takeWhile Char.isDigit
  match text.drop digits.length with
  | mark :: rest =>
    let found : ItemMarker :=
      { number := if digits.isEmpty then none else (String.ofList digits).toNat?
        mark, stop := (v.line n).first + digits.length + 1 }
    let isMark := if digits.isEmpty then mark == '*' || mark == '-' || mark == '+'
      else digits.length ≤ 9 && (mark == '.' || mark == ')')
    if isMark && endsMarker rest then some found else none
  | [] => none

/-- Whether a line stands so far to the right of the surrounding list that it continues a
paragraph of an item. -/
def isDeepInList (v : View) (n : Nat) : Bool :=
  match v.listIndent with
  | some column => 4 ≤ (v.line n).indent - column && v.isOutdented n
  | none => false

/-- The marker of the list item that a line starts. -/
def itemStart? (v : View) (n : Nat) : Option ItemMarker :=
  if v.isCode n || v.isDeepInList n then none else v.itemMarker? n

/-- Whether nothing follows the marker on its line. -/
def isBareItem (v : View) (n : Nat) (marker : ItemMarker) : Bool :=
  (slice v.source marker.stop (v.line n).stop).all isGap

/-- The label of the footnote that a line defines, and the position after the colon. -/
def noteStart? (v : View) (n : Nat) : Option (List Char × Nat) :=
  match v.startText n with
  | '[' :: '^' :: rest =>
    let label := rest.takeWhile fun c => c != ' ' && c != ']'
    match rest.drop label.length with
    | ']' :: ':' :: _ =>
      if label.isEmpty then none else some (label, (v.line n).first + label.length + 4)
    | _ => none
  | _ => none

/-- The kind of raw HTML that a line starts. -/
def htmlStart? (v : View) (n : Nat) : Option HtmlTag.BlockKind :=
  let text := v.startText n
  if text.head? = some '<' then HtmlTag.blockKind? text.toArray else none

/-- The level and the content of the heading on a line; marks at its end are no content if a gap
stands before them. -/
def heading? (v : View) (n : Nat) : Option (Fin 6 × List Char) :=
  match v.startText n with
  | '#' :: rest =>
    let others := rest.takeWhile (· == '#')
    let content := dropEndWhile isGap (rest.drop others.length)
    let unmarked := dropEndWhile (· == '#') content
    let kept := match unmarked.getLast? with
      | some c => if isGap c then unmarked else content
      | none => content
    if h : others.length < 6 then
      if endsMarker (rest.drop others.length) then some (⟨others.length, h⟩, unpad kept) else none
    else none
  | _ => none

/-- The position after the marker of a definition that is not empty. -/
def definitionStart? (v : View) (n : Nat) : Option Nat :=
  match v.lineText n with
  | mark :: gap :: rest =>
    if (mark == '~' || mark == ':') && isGap gap && !rest.all isGap then
      some ((v.line n).first + 1)
    else none
  | _ => none

/-- The columns of the table whose first row stands on line `n`: alignments and header cells. -/
def tableStart? (v : View) (n stop : Nat) : Option (List (Alignment × List Char)) := do
  if stop < n + 2 || v.isOutdented (n + 1) || v.isCode (n + 1) then none
  else
    let delimiters := v.lineText (n + 1)
    if isDelimiterRow delimiters then
      let alignments ← delimiterAlignments? delimiters
      let header := v.startText n
      let cells := rowCells header
      if (unpad header).contains '|' && !cells.isEmpty && cells.length = alignments.length then
        some (alignments.zip (cells.map unpad))
      else none
    else none

/-! ### What ends other blocks -/

/-- Whether a line ends the items of a list. -/
def interruptsList (v : View) (n : Nat) : Bool :=
  (v.fenceStart? n).isSome || v.startsQuote n || v.isRule n

/-- Whether a line starts raw HTML, a heading or a definition that ends what came before. -/
def interruptsText (v : View) (n : Nat) : Bool :=
  (match v.htmlStart? n with
    | some kind => kind.interrupts
    | none => false) ||
    (v.heading? n).isSome || (v.inDefinition && (v.definitionStart? n).isSome)

/-- Whether a line ends a quote or a table. -/
def interruptsQuote (v : View) (n : Nat) : Bool :=
  v.interruptsList n || (v.itemStart? n).isSome || v.interruptsText n

/-- Whether a line starts a list that may follow a paragraph: bullets, or numbers from one on, and
not with an empty item. -/
def startsListAfterText (v : View) (n : Nat) : Bool :=
  match v.itemStart? n with
  | some marker =>
    v.isOutdented n || (marker.number.getD 1 == 1 && !v.isBareItem n marker)
  | none => false

/-- Whether a line, of those before `stop`, ends a paragraph. -/
def interruptsParagraph (v : View) (n stop : Nat) : Bool :=
  (v.tableStart? n stop).isSome || v.interruptsList n || v.startsListAfterText n ||
    (v.noteStart? n).isSome || v.interruptsText n

/-- Whether a line, of those before `stop`, ends a reference definition. -/
def interruptsReference (v : View) (n stop : Nat) : Bool :=
  (v.tableStart? n stop).isSome || v.interruptsQuote n || (v.noteStart? n).isSome

end View

end LiveDeck.Markdown
