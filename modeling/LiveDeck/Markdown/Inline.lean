import LiveDeck.Markdown.Attributes

/-! # Inline elements

The elements inside a paragraph, a heading, a table cell or a term.  They are found as a flat
sequence of pieces, some of which open or close an element; `Piece.tree?` nests them.  A piece
that closes ends the element that was opened last, so there is a tree exactly if no piece
closes what was never opened and nothing stays open.

Escaped text is made part of the text around it, except in a description inside a description:
there it remains an element of its own. -/

namespace LiveDeck.Markdown

/-- An inline element. -/
inductive Inline where
  | text (content : List Char)
  | escaped (content : List Char)
  | softBreak
  | hardBreak
  | emphasis (children : List Inline)
  | strong (children : List Inline)
  | strike (children : List Inline)
  | code (attributes : Attributes) (content : List Char)
  | html (content : List Char)
  | link (attributes : Attributes) (children : List Inline)
  | image (attributes : Attributes) (children : List Inline)
  | math (content : List Char)
  | footnoteReference
  deriving Repr, Inhabited

/-- An element that is opened and closed. -/
inductive Span where
  | emphasis
  | strong
  | strike
  | link (attributes : Attributes)
  deriving Repr, DecidableEq

namespace Span

/-- The element around the given children. -/
def toInline : Span → List Inline → Inline
  | .emphasis, children => .emphasis children
  | .strong, children => .strong children
  | .strike, children => .strike children
  | .link attributes, children => .link attributes children

end Span

/-- A piece of inline content.  Escaped text is kept apart from other text. -/
inductive Piece where
  | text (content : List Char)
  | escaped (content : List Char)
  | opening (span : Span)
  | closing (span : Span)
  | element (inline : Inline)
  deriving Repr, Inhabited

namespace Piece

/-- The text of a piece that may be joined to the text next to it; with `joinEscaped`, escaped
text may. -/
def joinable? (joinEscaped : Bool) : Piece → Option (List Char)
  | .text content => some content
  | .escaped content => if joinEscaped then some content else none
  | _ => none

/-- Makes one text of neighbouring texts. -/
def joinTexts (joinEscaped : Bool) : List Piece → List Piece
  | [] => []
  | piece :: rest =>
    match joinable? joinEscaped piece, joinTexts joinEscaped rest with
    | some content, .text next :: others => .text (content ++ next) :: others
    | some content, others => .text content :: others
    | none, others => piece :: others

/-- Nests pieces; `opened` are the elements that are open, the innermost first, each with the
children that came before it in its parent, and `children` those of the innermost, both
backwards. -/
def treeFrom (opened : List (Span × List Inline)) (children : List Inline) :
    List Piece → Option (List Inline)
  | [] => if opened.isEmpty then some children.reverse else none
  | .text content :: rest => treeFrom opened (.text content :: children) rest
  | .escaped content :: rest => treeFrom opened (.escaped content :: children) rest
  | .element inline :: rest => treeFrom opened (inline :: children) rest
  | .opening span :: rest => treeFrom ((span, children) :: opened) [] rest
  | .closing _ :: rest =>
    match opened with
    | [] => none
    | (span, before) :: others => treeFrom others (span.toInline children.reverse :: before) rest

/-- The elements that pieces make up. -/
def tree? (joinEscaped : Bool) (pieces : List Piece) : Option (List Inline) :=
  treeFrom [] [] (joinTexts joinEscaped pieces)

end Piece

end LiveDeck.Markdown
