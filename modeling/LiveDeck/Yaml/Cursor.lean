/-! # Positions in a text

A cursor is the rest of a text together with the number of characters, the line and the column
reached.  Lines end at a line feed, a next-line character or one of the two Unicode
separators. -/

namespace LiveDeck.Yaml

/-- A position in a text. -/
structure Cursor where
  rest : List Char
  index : Nat := 0
  line : Nat := 0
  column : Nat := 0
  deriving DecidableEq, Repr

/-- The characters that end a line. -/
def isBreak (c : Char) : Bool :=
  c == '\n' || c == '\x85' || c == '\u2028' || c == '\u2029'

/-- A space, a tab or the end of a line. -/
def isSpace (c : Char) : Bool := c == ' ' || c == '\t' || isBreak c

/-- Whether a text starts with a space or is at its end. -/
def startsSpace : List Char → Bool
  | [] => true
  | c :: _ => isSpace c

/-- Whether a line starts with three of a mark that stand by themselves. -/
def startsMarker (mark : Char) : List Char → Bool
  | a :: b :: c :: rest => a == mark && b == mark && c == mark && startsSpace rest
  | _ => false

/-- Whether a line separates documents. -/
def startsSeparator (text : List Char) : Bool := startsMarker '-' text || startsMarker '.' text

namespace Cursor

/-- The character at the cursor. -/
def peek? (cursor : Cursor) : Option Char := cursor.rest.head?

/-- The cursor after one character; a byte order mark takes no column. -/
def next (cursor : Cursor) : Cursor :=
  match cursor.rest with
  | [] => cursor
  | c :: rest =>
    if isBreak c then ⟨rest, cursor.index + 1, cursor.line + 1, 0⟩
    else ⟨rest, cursor.index + 1, cursor.line,
      if c = '\ufeff' then cursor.column else cursor.column + 1⟩

/-- The cursor after `n` characters. -/
def skip : Nat → Cursor → Cursor
  | 0, cursor => cursor
  | n + 1, cursor => skip n cursor.next

/-- The characters from the cursor on that satisfy `p`, and the cursor after them. -/
def span (p : Char → Bool) (cursor : Cursor) : List Char × Cursor :=
  let taken := cursor.rest.takeWhile p
  (taken, cursor.skip taken.length)

/-- The cursor after the characters that satisfy `p`. -/
def skipWhile (p : Char → Bool) (cursor : Cursor) : Cursor := (cursor.span p).2

/-- The line break at the cursor, with a line feed for the next-line character, and the cursor
after it. -/
def lineBreak? (cursor : Cursor) : Option (Char × Cursor) :=
  match cursor.rest with
  | [] => none
  | c :: _ => if isBreak c then some (if c = '\x85' then '\n' else c, cursor.next) else none

/-- The cursor after a comment, if there is one. -/
def skipComment (cursor : Cursor) : Cursor :=
  if cursor.peek? = some '#' then cursor.skipWhile fun c => !isBreak c else cursor

end Cursor

end LiveDeck.Yaml
