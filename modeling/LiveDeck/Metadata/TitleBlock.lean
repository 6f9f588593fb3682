import LiveDeck.Metadata.Basic
import LiveDeck.Text.Lines

/-! # Title blocks

Up to three fields at the start of a source, each on a line that starts with a percent sign: the
title, the authors with semicolons between them, and the date.  Indented lines continue a field.
The rest of the source is the body. -/

namespace LiveDeck.TitleBlock

open Text (strip splitLines)

/-- Whether a line continues the field above it. -/
def isContinuation (line : List Char) : Bool :=
  (line.head? == some ' ' || line.head? == some '\t') && !(strip line).isEmpty

/-- A field whose first line is given without its mark. -/
def field (first : List Char) (others : List (List Char)) : List Char :=
  [' '].intercalate (strip first :: others.map strip)

/-- At most `count` fields, and the lines after them. -/
def fields : Nat → List (List Char) → List (List Char) × List (List Char)
  | count + 1, ('%' :: first) :: rest =>
    let (found, body) := fields count (rest.dropWhile isContinuation)
    (field first (rest.takeWhile isContinuation) :: found, body)
  | _, lines => ([], lines)

/-- The authors of a field. -/
def authors (field : List Char) : List (List Char) :=
  ((field.splitOn ';').map strip).filter fun name => !name.isEmpty

/-- The metadata that fields give. -/
def metadata : List (List Char) → Metadata
  | [] => {}
  | [title] => { title }
  | [title, names] => { title, authors := authors names }
  | title :: names :: date :: _ => { title, authors := authors names, date }

/-- The metadata of a source, and its body. -/
def split (source : List Char) : Metadata × List Char :=
  let (found, body) := fields 3 (splitLines source)
  (metadata found, body.flatten)

end LiveDeck.TitleBlock
