import LiveDeck.Markdown.BlockContent
import LiveDeck.Markdown.InlineContent
import LiveDeck.Text.Lines

/-! # Sources

`parse?` reads the blocks of a source with their inline elements, `parseInline` the inline
elements of a single text, which is spelled.  Line endings of every kind are read as line feeds. -/

namespace LiveDeck.Markdown

open Text (CodePoint codePoints universal replacementChar)

/-- A text with line feeds for line endings and without null characters. -/
def normalizeSource (text : List Char) : List Char :=
  (universal text).map fun c => if c = '\x00' then replacementChar else c

/-- The blocks of a source; `none` if its elements do not nest.  There are no surrogates in a
source, so all its addresses can be encoded. -/
def parse? (text : List Char) : Option (List (Block (List Inline))) := do
  let (blocks, definitions) := sourceBlocks (normalizeSource text)
  let kept ← Block.dropNotes? blocks
  Block.mapAllM?
    (fun content => (Inline.read definitions.references definitions.notes content).toOption) kept

/-- A spelled text with line feeds for line endings and without null characters, except where they
spell a surrogate. -/
def normalizeSpelled (text : List Char) : List Char :=
  (codePoints (universal text)).flatMap fun point =>
    if point = .char '\x00' then [replacementChar] else point.spelling

/-- The inline elements of a spelled text. -/
def parseInline (text : List Char) : Except InlineFault (List Inline) :=
  Inline.read [] [] (normalizeSpelled text)

end LiveDeck.Markdown
