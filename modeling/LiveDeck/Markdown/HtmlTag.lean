import LiveDeck.Text.Blank
import LiveDeck.Text.Pattern

/-! # Raw HTML

What counts as an HTML tag in a line, and which lines start and end a block of raw HTML. -/

namespace LiveDeck.Markdown.HtmlTag

open Text (Pattern isBlank)

def letter (c : Char) : Bool := c.isAlpha

def blanks : Pattern := .greedy isBlank

def anything (_ : Char) : Bool := true

def tagName : Pattern := .seq (.one letter) (.greedy fun c => c.isAlphanum || c == '-')

def attributeName : Pattern :=
  .seq (.one fun c => letter c || c == '_' || c == ':')
    (.greedy fun c => c.isAlphanum || ":._-".toList.contains c)

/-- Whether a character is more than a blank or a control character; a null character spells a
surrogate. -/
def isVisible (c : Char) : Bool := 0x20 < c.toNat || c == '\x00'

def unquotedValue : Pattern :=
  .greedy1 fun c => isVisible c && !("\"'=<>".toList.contains c || c == '\x60')

def attributeValue : Pattern :=
  .any [unquotedValue, .all [.exactly "'", .greedy (· != '\''), .exactly "'"],
    .all [.exactly "\"", .greedy (· != '"'), .exactly "\""]]

def attributePart : Pattern :=
  .all [.greedy1 isBlank, attributeName,
    .opt (.all [blanks, .exactly "=", blanks, attributeValue])]

/-- A start tag. -/
def openTag : Pattern :=
  .all [.exactly "<", tagName, .star attributePart, blanks, .opt (.exactly "/"), .exactly ">"]

/-- An end tag. -/
def closeTag : Pattern := .all [.exactly "</", tagName, blanks, .exactly ">"]

/-- What may stand in a comment. -/
def commentPart : Pattern :=
  .any [.one (· != '-'), .seq (.exactly "-") (.one (· != '-')),
    .seq (.exactly "--") (.one (· != '>'))]

def comment : Pattern :=
  .alt (.any [.exactly "<!-->", .exactly "<!--->"])
    (.all [.exactly "<!--", .star commentPart, .exactly "-->"])

def processing : Pattern := .all [.exactly "<?", .lazy anything, .exactly "?>"]

def declaration : Pattern :=
  .all [.exactly "<!", .one letter, .greedy (· != '>'), .exactly ">"]

def characterData : Pattern := .all [.exactly "<![CDATA[", .lazy anything, .exactly "]]>"]

/-- A tag of any kind. -/
def any : Pattern := .any [openTag, closeTag, comment, processing, declaration, characterData]

/-! ### Blocks -/

/-- A letter in either case. -/
def anyCase (c : Char) : Pattern := .one fun d => d == c || d == c.toUpper

/-- A space, or one of the control characters from tab to carriage return: what may follow the
name of an element that starts a block. -/
def isNameEnd (c : Char) : Bool := c == ' ' || (0x09 ≤ c.toNat && c.toNat ≤ 0x0D)

/-- A word in any letter case. -/
def word (text : String) : Pattern := .all (text.toList.map anyCase)

/-- One of the words; where one starts another, each is tried in turn. -/
def wordOf (words : List String) : Pattern := .any (words.map word)

/-- Elements whose content is taken over as it is. -/
def verbatimNames : List String := ["script", "pre", "style", "textarea"]

/-- Elements that start a block. -/
def blockNames : List String :=
  ["address", "article", "aside", "base", "basefont", "blockquote", "body", "caption", "center",
    "col", "colgroup", "dd", "details", "dialog", "dir", "div", "dl", "dt", "fieldset",
    "figcaption", "figure", "footer", "form", "frame", "frameset", "h1", "h2", "h3", "h4", "h5",
    "h6", "head", "header", "hr", "html", "iframe", "legend", "li", "link", "main", "menu",
    "menuitem", "nav", "noframes", "ol", "optgroup", "option", "p", "param", "search", "section",
    "summary", "table", "tbody", "td", "tfoot", "th", "thead", "title", "tr", "track", "ul"]

/-- A kind of block: how its first line starts, what its last line contains (`none` for a blank
line after it), and whether it may interrupt a paragraph. -/
structure BlockKind where
  start : Pattern
  finish : Option Pattern
  interrupts : Bool

/-- The kinds of block, in the order in which they are tried. -/
def blockKinds : List BlockKind :=
  [⟨.all [.exactly "<", wordOf verbatimNames,
      .before (.any [.one isNameEnd, .exactly ">", .lastLineEnd])],
      some (.all [.exactly "</", wordOf verbatimNames, .exactly ">"]), true⟩,
    ⟨.exactly "<!--", some (.exactly "-->"), true⟩,
    ⟨.exactly "<?", some (.exactly "?>"), true⟩,
    ⟨.seq (.exactly "<!") (.one letter), some (.exactly ">"), true⟩,
    ⟨.exactly "<![CDATA[", some (.exactly "]]>"), true⟩,
    ⟨.all [.exactly "<", .opt (.exactly "/"), wordOf blockNames,
      .before (.any [.one isNameEnd, .seq (.opt (.exactly "/")) (.exactly ">"), .lastLineEnd])],
      none, true⟩,
    ⟨.all [.alt openTag closeTag, blanks, .lastLineEnd], none, false⟩]

/-- The kind of block that a line starts. -/
def blockKind? (line : Array Char) : Option BlockKind :=
  blockKinds.find? fun kind => kind.start.matchesStart line

/-- Whether a line is the last of a block. -/
def BlockKind.endsAt (kind : BlockKind) (line : Array Char) : Bool :=
  match kind.finish with
  | some pattern => pattern.occursIn line
  | none => line.isEmpty

end LiveDeck.Markdown.HtmlTag
