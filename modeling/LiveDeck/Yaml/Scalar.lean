import LiveDeck.Yaml.Cursor
import LiveDeck.Yaml.Fault

/-! # Scalars

The text of a scalar in each of its styles: plain, between single or double quotes, and as a
block of lines, taken literally or folded.  A line break inside a scalar that is not literal
becomes a space, and an empty line a line break.  An escape may stand for a surrogate, so what is
read is spelled. -/

namespace LiveDeck.Yaml

open Text (CodePoint)

namespace Cursor

/-! ### Line breaks inside scalars -/

/-- What a line break contributes that is followed by the given empty lines. -/
def folded (first : Char) (others : List Char) : List Char :=
  if first ≠ '\n' then first :: others else if others.isEmpty then [' '] else others

/-- The line breaks from the cursor on, with spaces between them, for a plain scalar; `false` at
a line that separates documents.  At most `fuel` characters are read. -/
def plainBreaks : Nat → Cursor → List Char × Cursor × Bool
  | 0, cursor => ([], cursor, true)
  | fuel + 1, cursor =>
    match cursor.lineBreak? with
    | some (c, after) =>
      if startsSeparator after.rest then ([], after, false)
      else
        let (others, final, isInside) := plainBreaks fuel after
        (c :: others, final, isInside)
    | none =>
      if cursor.peek? = some ' ' then plainBreaks fuel cursor.next else ([], cursor, true)

/-- The spaces or line breaks after a part of a plain scalar, the cursor after them, and whether a
line was left; there are none if the scalar ends there. -/
def plainSpaces (cursor : Cursor) : List Char × Cursor × Bool :=
  let (spaces, afterSpaces) := cursor.span (· == ' ')
  match afterSpaces.lineBreak? with
  | none => (spaces, afterSpaces, false)
  | some (first, after) =>
    if startsSeparator after.rest then ([], after, true)
    else
      let (others, final, isInside) := plainBreaks after.rest.length after
      (if isInside then folded first others else [], final, true)

/-! ### Plain scalars -/

/-- The characters that end a plain scalar inside brackets. -/
def endsInFlow (c : Char) : Bool := ",?[]\x7b\x7d".toList.contains c

/-- The characters that, after a colon, make it end a plain scalar inside brackets. -/
def isFlowMark (c : Char) : Bool := ",[]\x7b\x7d".toList.contains c

/-- How many characters of a plain scalar stand before the next space or mark. -/
def plainLength (inFlow : Bool) : List Char → Nat
  | [] => 0
  | c :: rest =>
    let endsKey := c == ':' && (startsSpace rest || (inFlow && (rest.head?.any isFlowMark)))
    if isSpace c || endsKey || (inFlow && endsInFlow c) then 0 else plainLength inFlow rest + 1

/-- Reads a plain scalar with lines indented by at least `indent` columns, at most `fuel` parts;
`text` is what has been read and `spaces` what stands before the next part.  The last result
says whether a line was left after the scalar. -/
def plainFrom (inFlow : Bool) (indent : Int) :
    Nat → List Char → List Char → Bool → Cursor → List Char × Cursor × Bool
  | 0, text, _, hasLeft, cursor => (text, cursor, hasLeft)
  | fuel + 1, text, spaces, hasLeft, cursor =>
    let length := plainLength inFlow cursor.rest
    if cursor.peek? = some '#' || length = 0 then (text, cursor, hasLeft)
    else
      let read := text ++ spaces ++ cursor.rest.take length
      let (gap, after, leaves) := plainSpaces (cursor.skip length)
      if gap.isEmpty || (!inFlow && (after.column : Int) < indent) then (read, after, leaves)
      else plainFrom inFlow indent fuel read gap leaves after

/-- The plain scalar at the cursor, the cursor after it, and whether a line was left there. -/
def plain (inFlow : Bool) (indent : Int) (cursor : Cursor) : List Char × Cursor × Bool :=
  plainFrom inFlow indent (cursor.rest.length + 1) [] [] false cursor

/-! ### Quoted scalars -/

/-- What an escape of one character stands for. -/
def escapes : List (Char × Char) :=
  [('0', '\x00'), ('a', '\x07'), ('b', '\x08'), ('t', '\t'), ('\t', '\t'), ('n', '\n'),
    ('v', '\x0b'), ('f', '\x0c'), ('r', '\r'), ('e', '\x1b'), (' ', ' '), ('"', '"'),
    ('\\', '\\'), ('/', '/'), ('N', '\x85'), ('_', '\xa0'), ('L', '\u2028'), ('P', '\u2029')]

/-- How many hexadecimal digits follow the letter of an escape. -/
def escapeDigits? : Char → Option Nat
  | 'x' => some 2
  | 'u' => some 4
  | 'U' => some 8
  | _ => none

/-- The value of a hexadecimal digit. -/
def hexDigit? (c : Char) : Option Nat :=
  let n := c.toNat
  if c.isDigit then some (n - 0x30)
  else if 0x41 ≤ n && n ≤ 0x46 then some (n - 0x37)
  else if 0x61 ≤ n && n ≤ 0x66 then some (n - 0x57)
  else none

/-- The code point with the number that hexadecimal digits give. -/
def coded (digits : List Char) : Except Fault CodePoint :=
  match digits.foldlM (fun code c => (hexDigit? c).map fun digit => code * 16 + digit) 0 with
  | none => .error .malformed
  | some code => if code < 0x110000 then .ok (CodePoint.ofNat code) else .error .codePoint

/-- The line breaks from the cursor on, with spaces and tabs between them, for a quoted scalar. -/
def quotedBreaks : Nat → Cursor → Except Fault (List Char × Cursor)
  | 0, cursor => .ok ([], cursor)
  | fuel + 1, cursor =>
    if startsSeparator cursor.rest then .error .malformed
    else
      let start := cursor.skipWhile fun c => c == ' ' || c == '\t'
      match start.lineBreak? with
      | none => .ok ([], start)
      | some (c, after) => do
        let (others, final) ← quotedBreaks fuel after
        .ok (c :: others, final)

/-- What a backslash in double quotes and the characters after it stand for. -/
def escape (cursor : Cursor) : Except Fault (List Char × Cursor) :=
  match cursor.rest with
  | [] => .error .malformed
  | c :: rest =>
    match escapes.lookup c, escapeDigits? c, cursor.lineBreak? with
    | some character, _, _ => .ok ((CodePoint.char character).spelling, cursor.next)
    | none, some count, _ =>
      if rest.length < count then .error .malformed
      else do
        let point ← coded (rest.take count)
        .ok (point.spelling, cursor.skip (count + 1))
    | none, none, some (_, after) => quotedBreaks (after.rest.length + 1) after
    | none, none, none => .error .malformed

/-- The spaces or line breaks at the cursor inside a quoted scalar. -/
def quotedSpaces (cursor : Cursor) : Except Fault (List Char × Cursor) :=
  let (spaces, after) := cursor.span fun c => c == ' ' || c == '\t'
  match after.lineBreak? with
  | none => .ok (spaces, after)
  | some (first, start) => do
    let (others, final) ← quotedBreaks (start.rest.length + 1) start
    .ok (folded first others, final)

/-- Reads a quoted scalar up to its closing mark, at most `fuel` parts. -/
def quotedFrom (mark : Char) : Nat → List Char → Cursor → Except Fault (List Char × Cursor)
  | 0, _, _ => .error .malformed
  | fuel + 1, text, cursor =>
    match cursor.rest with
    | [] => .error .malformed
    | c :: rest =>
      if c == mark then
        if mark == '\'' && rest.head? == some '\'' then
          quotedFrom mark fuel (text ++ ['\'']) (cursor.skip 2)
        else .ok (text, cursor.next)
      else if isSpace c then do
        let (spaces, after) ← cursor.quotedSpaces
        quotedFrom mark fuel (text ++ spaces) after
      else if c == '\\' && mark == '"' then do
        let (read, after) ← cursor.next.escape
        quotedFrom mark fuel (text ++ read) after
      else quotedFrom mark fuel (text ++ [c]) cursor.next

/-- The quoted scalar at the cursor. -/
def quoted (mark : Char) (cursor : Cursor) : Except Fault (List Char × Cursor) :=
  quotedFrom mark (cursor.rest.length + 1) [] cursor.next

/-! ### Block scalars -/

/-- What becomes of the line breaks at the end of a block. -/
inductive Chomping where
  | strip
  | clip
  | keep
  deriving DecidableEq, Repr

/-- The chomping that a mark asks for. -/
def chomping? : Char → Option Chomping
  | '+' => some .keep
  | '-' => some .strip
  | _ => none

/-- The indentation that a digit gives; zero is none. -/
def increment (c : Char) : Except Fault Nat :=
  if c = '0' then .error .malformed else .ok (c.toNat - '0'.toNat)

/-- The chomping and the indentation given after the mark of a block, in either order. -/
def blockIndicators (cursor : Cursor) : Except Fault (Chomping × Option Nat × Cursor) :=
  match cursor.rest with
  | [] => .ok (.clip, none, cursor)
  | c :: rest =>
    match chomping? c with
    | some chomping =>
      match rest with
      | d :: _ =>
        if d.isDigit then (increment d).map fun n => (chomping, some n, cursor.skip 2)
        else .ok (chomping, none, cursor.next)
      | [] => .ok (chomping, none, cursor.next)
    | none =>
      if c.isDigit then
        (increment c).map fun n =>
          match rest.head?.bind chomping? with
          | some chomping => (chomping, some n, cursor.skip 2)
          | none => (.clip, some n, cursor.next)
      else .ok (.clip, none, cursor)

/-- The cursor on the next line, if nothing but a comment stands before it. -/
def nextLine (cursor : Cursor) : Except Fault Cursor :=
  let start := (cursor.skipWhile (· == ' ')).skipComment
  match start.rest, start.lineBreak? with
  | [], _ => .ok start
  | _, some (_, after) => .ok after
  | _, none => .error .malformed

/-- The cursor on the line after the header of a block; a space stands before a comment. -/
def afterHeader (cursor : Cursor) : Except Fault Cursor :=
  if cursor.peek? = some '#' then .error .malformed else cursor.nextLine

/-- The empty lines at the start of a block, the cursor after them and the spaces there, and the
largest column reached. -/
def blockIndentation : Nat → Nat → Cursor → List Char × Nat × Cursor
  | 0, widest, cursor => ([], widest, cursor)
  | fuel + 1, widest, cursor =>
    match cursor.lineBreak? with
    | some (c, after) =>
      let (others, width, final) := blockIndentation fuel widest after
      (c :: others, width, final)
    | none =>
      if cursor.peek? = some ' ' then
        blockIndentation fuel (max widest cursor.next.column) cursor.next
      else ([], widest, cursor)

/-- The cursor after the spaces up to a column. -/
def skipIndent (indent : Nat) (cursor : Cursor) : Cursor :=
  cursor.skip (min (cursor.rest.takeWhile (· == ' ')).length (indent - cursor.column))

/-- The empty lines before the next line of a block with the given indentation. -/
def blockBreaks (indent : Nat) : Nat → Cursor → List Char × Cursor
  | 0, cursor => ([], cursor)
  | fuel + 1, cursor =>
    let start := cursor.skipIndent indent
    match start.lineBreak? with
    | none => ([], start)
    | some (c, after) =>
      let (others, final) := blockBreaks indent fuel after
      (c :: others, final)

/-- Whether a line of a block continues the text of its neighbour. -/
def isFlush (cursor : Cursor) : Bool := !(cursor.peek? == some ' ' || cursor.peek? == some '\t')

/-- Reads the lines of a block, at most `fuel`; `text` is what has been read and `breaks` are the
empty lines after it.  The result keeps the last line break and the empty lines at the end
apart. -/
def blockLines (isFolded : Bool) (indent : Nat) :
    Nat → List Char → List Char → Cursor → List Char × List Char × List Char × Cursor
  | 0, text, breaks, cursor => (text, [], breaks, cursor)
  | fuel + 1, text, breaks, cursor =>
    let isFlushHere := cursor.isFlush
    let (line, atEnd) := cursor.span fun c => !isBreak c
    let (ending, start) : List Char × Cursor := match atEnd.lineBreak? with
      | some (c, after) => ([c], after)
      | none => ([], atEnd)
    let (others, next) := blockBreaks indent start.rest.length start
    let read := text ++ breaks ++ line
    if next.column = indent && !next.rest.isEmpty then
      let isJoined := isFolded && ending == ['\n'] && isFlushHere && next.isFlush
      let joint := if isJoined then if others.isEmpty then [' '] else [] else ending
      blockLines isFolded indent fuel (read ++ joint) others next
    else (read, ending, others, next)

/-- The block scalar at the cursor inside a collection indented by `parent` columns. -/
def block (isFolded : Bool) (parent : Int) (cursor : Cursor) : Except Fault (List Char × Cursor) := do
  let (chomping, increment, afterIndicators) ← cursor.next.blockIndicators
  let start ← afterIndicators.afterHeader
  let least := max (parent + 1).toNat 1
  let (indent, breaks, first) : Nat × List Char × Cursor := match increment with
    | some n =>
      let indent := least + n - 1
      let (breaks, first) := blockBreaks indent start.rest.length start
      (indent, breaks, first)
    | none =>
      let (breaks, widest, first) := blockIndentation start.rest.length 0 start
      (max least widest, breaks, first)
  let (text, ending, others, final) :=
    if first.column = indent && !first.rest.isEmpty then
      blockLines isFolded indent first.rest.length [] breaks first
    else ([], [], breaks, first)
  let tail := match chomping with
    | .strip => []
    | .clip => ending
    | .keep => ending ++ others
  .ok (text ++ tail, final)

end Cursor

end LiveDeck.Yaml
