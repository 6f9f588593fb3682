import LiveDeck.Document.Basic
import LiveDeck.Text.Blank
import LiveDeck.Text.Replace

/-! # Titles on one line

`Node.onOneLine` replaces every line break of inline content by a space, at any depth: line
break nodes, raw `<br>` tags and the tag written out in text.  Notes are left as they are, and
so is every node that does not hold inline content. -/

namespace LiveDeck

/-- The line break tag as it is looked for in text. -/
def lineBreakTag : List Char := "<br>".toList

/-- Whether raw markup is nothing but a line break tag, open or closed in itself, in any letter
case, with blanks around it and spaces inside. -/
def isLineBreakMarkup (text : String) : Bool :=
  let compact := ((Text.strip text.toList).map Char.toLower).filter (· != ' ')
  compact == lineBreakTag || compact == "<br/>".toList

namespace Node

mutual

/-- One node without line breaks. -/
def onOneLine : Node → Node
  | .lineBreak => .space
  | .rawInline format text => if isLineBreakMarkup text then .space else .rawInline format text
  | .str text => .str (String.ofList (Text.replace lineBreakTag [' '] text.toList))
  | .styled style inlines => .styled style (allOnOneLine inlines)
  | .quoted kind inlines => .quoted kind (allOnOneLine inlines)
  | .cite citations inlines => .cite citations (allOnOneLine inlines)
  | .link inlines url title => .link (allOnOneLine inlines) url title
  | .image inlines url title => .image (allOnOneLine inlines) url title
  | node => node

/-- Inline content without line breaks. -/
def allOnOneLine : List Node → List Node
  | [] => []
  | node :: rest => onOneLine node :: allOnOneLine rest

end

end Node

end LiveDeck
