/-! # Documents

The tree that a deck is built from.  Inline and block nodes are one type: a tree may hold a
block where an inline is expected, and the functions on trees say what becomes of it.

`Node.kindName` is the name under which a node is reported. -/

namespace LiveDeck

/-- Identifier, classes and key/value pairs attached to code. -/
structure Attr where
  identifier : String := ""
  classes : List String := []
  attributes : List (String × String) := []
  deriving DecidableEq, Repr, Inhabited

/-- The markup that only changes how its content looks. -/
inductive Style where
  | emph
  | strong
  | strikeout
  | superscript
  | subscript
  | smallCaps
  deriving DecidableEq, Repr

/-- Which quotation marks; `other` is a kind that is neither. -/
inductive QuoteKind where
  | single
  | double
  | other (name : String)
  deriving DecidableEq, Repr

/-- Whether a formula stands in the line or by itself; `other` is a kind that is neither. -/
inductive MathKind where
  | inline
  | display
  | other (name : String)
  deriving DecidableEq, Repr

/-- How a table column is set; `other` is a name that is none of these. -/
inductive Alignment where
  | standard
  | left
  | center
  | right
  | other (name : String)
  deriving DecidableEq, Repr

/-- A node of the document tree.  Column widths are kept in decimal notation. -/
inductive Node where
  | str (text : String)
  | styled (style : Style) (inlines : List Node)
  | quoted (kind : QuoteKind) (inlines : List Node)
  | cite (citations : List String) (inlines : List Node)
  | code (attr : Attr) (text : String)
  | space
  | lineBreak
  | math (kind : MathKind) (text : String)
  | rawInline (format text : String)
  | link (inlines : List Node) (url title : String)
  | image (inlines : List Node) (url title : String)
  | note (blocks : List Node)
  | plain (inlines : List Node)
  | para (inlines : List Node)
  | codeBlock (attr : Attr) (text : String)
  | rawBlock (format text : String)
  | blockQuote (blocks : List Node)
  | orderedList (items : List (List Node)) (start : Int)
  | bulletList (items : List (List Node))
  | definitionList (items : List (List Node × List (List Node)))
  | header (level : Int) (inlines : List Node)
  | horizontalRule
  | table (caption : List Node) (alignments : List Alignment) (widths : List String)
      (header : List (List Node)) (rows : List (List (List Node)))
  | null
  deriving Repr, Inhabited

/-- A document: what its title slide shows, and its blocks. -/
structure Document where
  title : List Node := []
  authors : List (List Node) := []
  date : List Node := []
  blocks : List Node := []
  deriving Repr, Inhabited

namespace Style

/-- The name under which a styled node is reported. -/
def kindName : Style → String
  | .emph => "Emph"
  | .strong => "Strong"
  | .strikeout => "Strikeout"
  | .superscript => "Superscript"
  | .subscript => "Subscript"
  | .smallCaps => "SmallCaps"

end Style

namespace Node

/-- The name under which a node is reported. -/
def kindName : Node → String
  | .str _ => "Str"
  | .styled style _ => style.kindName
  | .quoted _ _ => "Quoted"
  | .cite _ _ => "Cite"
  | .code _ _ => "Code"
  | .space => "Space"
  | .lineBreak => "LineBreak"
  | .math _ _ => "Math"
  | .rawInline _ _ => "RawInline"
  | .link _ _ _ => "Link"
  | .image _ _ _ => "Image"
  | .note _ => "Note"
  | .plain _ => "Plain"
  | .para _ => "Para"
  | .codeBlock _ _ => "CodeBlock"
  | .rawBlock _ _ => "RawBlock"
  | .blockQuote _ => "BlockQuote"
  | .orderedList _ _ => "OrderedList"
  | .bulletList _ => "BulletList"
  | .definitionList _ => "DefinitionList"
  | .header _ _ => "Header"
  | .horizontalRule => "HorizontalRule"
  | .table _ _ _ _ _ => "Table"
  | .null => "Null"

/-- Whether the node opens a new slide. -/
def isHeader : Node → Bool
  | .header _ _ => true
  | _ => false

end Node

end LiveDeck
