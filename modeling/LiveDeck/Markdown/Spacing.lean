import LiveDeck.Text.Blank

/-! # Spacing

The characters that are space in a Markdown source, in three classes, each within the next:

* a *gap* is a space or a tab: it stands before and between the marks of a block;
* *spacing* decides on which side of a run of delimiters text stands;
* *padding* is dropped at the ends of paragraphs, headings, cells and labels.

All of it is blank, but the information separators and the next-line character, which are blank
too, are no padding: they are part of the content that they stand in. -/

namespace LiveDeck.Markdown

open Text

/-- A space or a tab. -/
def isGap (c : Char) : Bool := c == ' ' || c == '\t'

/-- A space, a tab or a line feed. -/
def isGapOrFeed (c : Char) : Bool := isGap c || c == '\n'

/-- The whitespace that decides which side of a run is text. -/
def isSpacing (c : Char) : Bool :=
  let n := c.toNat
  (0x09 ≤ n && n ≤ 0x0D) || n == 0x20 || n == 0xA0 || n == 0x1680 || (0x2000 ≤ n && n ≤ 0x200A) ||
    n == 0x202F || n == 0x205F || n == 0x3000

/-- The whitespace that is dropped around a content. -/
def isPadding (c : Char) : Bool := isSpacing c || c.toNat == 0x2028 || c.toNat == 0x2029

/-- A content without the padding at its ends. -/
def unpad (content : List Char) : List Char := trimBy isPadding content

/-- A content without the padding at its ends and with a single space for any other. -/
def collapse (content : List Char) : List Char := [' '].intercalate (wordsBy isPadding content)

end LiveDeck.Markdown
