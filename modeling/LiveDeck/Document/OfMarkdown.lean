import LiveDeck.Document.FenceInfo
import LiveDeck.Markdown.Block

/-! # Documents from Markdown

How the elements of a Markdown source become nodes.  Text is cut into words, so that a text node
never holds a blank.  Two things have no counterpart: front matter that is not at the start of the
source, and escaped text in a description inside a description.  Whichever comes first in the
source is what is reported. -/

namespace LiveDeck

open Markdown (Inline Block Attributes)
open Text (filter_splitKeeping isBlank isBlankRun runs splitKeeping words)

/-- What has no counterpart in a document. -/
inductive NoCounterpart where
  | frontMatter
  | escapedText
  deriving DecidableEq, Repr

namespace NoCounterpart

/-- The text that reports it. -/
def message : NoCounterpart → String
  | .frontMatter => "unsupported markdown element: front_matter"
  | .escapedText => "unsupported markdown inline: text_special"

end NoCounterpart

namespace Node

/-! ### Inline elements -/

/-- The node of a piece of text: a space for a run of blanks. -/
def ofRun (run : List Char) : Node :=
  if isBlankRun run then .space else .str (String.ofList run)

/-- The words of a text, with a space for every run of blanks. -/
def ofText (text : List Char) : List Node :=
  ((splitKeeping isBlank text).filter fun piece => !piece.isEmpty).map ofRun

/-- The nodes of a text are those of its runs. -/
theorem ofText_eq (text : List Char) : ofText text = (runs text).map ofRun := by
  rw [ofText, filter_splitKeeping, runs]

end Node

/-- The attributes of a code span: the identifier and the classes have places of their own. -/
def Attr.ofAttributes (attributes : Attributes) : Attr where
  identifier := attributes.value "id"
  classes := (words (attributes.value "class").toList).map String.ofList
  attributes := attributes.filter fun (key, _) => key != "id" && key != "class"

namespace Node

mutual

/-- The nodes that an inline element becomes. -/
def ofInline : Inline → Except NoCounterpart (List Node)
  | .text content => .ok (ofText content)
  | .escaped _ => .error .escapedText
  | .softBreak => .ok [.space]
  | .hardBreak => .ok [.lineBreak]
  | .emphasis children => do .ok [.styled .emph (← ofInlines children)]
  | .strong children => do .ok [.styled .strong (← ofInlines children)]
  | .strike children => do .ok [.styled .strikeout (← ofInlines children)]
  | .code attributes content => .ok [.code (Attr.ofAttributes attributes) (String.ofList content)]
  | .html content => .ok [.rawInline "html" (String.ofList content)]
  | .link attributes children => do
    .ok [.link (← ofInlines children) (attributes.value "href") (attributes.value "title")]
  | .image attributes children => do
    .ok [.image (← ofInlines children) (attributes.value "src") (attributes.value "title")]
  | .math content => .ok [.math .inline (String.ofList content)]
  | .footnoteReference => .ok [.note []]

/-- The nodes that inline elements become. -/
def ofInlines : List Inline → Except NoCounterpart (List Node)
  | [] => .ok []
  | inline :: rest => do
    let first ← ofInline inline
    let others ← ofInlines rest
    .ok (first ++ others)

end

/-! ### Definition lists -/

/-- The definitions before the first term, and every term with the definitions up to the next. -/
def gather : List (List Node ⊕ List Node) →
    List (List Node) × List (List Node × List (List Node))
  | [] => ([], [])
  | .inl term :: rest => let (definitions, items) := gather rest; ([], (term, definitions) :: items)
  | .inr blocks :: rest => let (definitions, items) := gather rest; (blocks :: definitions, items)

/-- The items of a definition list: definitions before the first term belong to none. -/
def definitionItems (parts : List (List Node ⊕ List Node)) :
    List (List Node × List (List Node)) :=
  (gather parts).2

/-! ### Blocks -/

/-- A table whose cells hold text only; no column has a width. -/
def ofTable (columns : List (Alignment × List Inline)) (rows : List (List (List Inline))) :
    Except NoCounterpart Node := do
  let cell := fun (content : List Inline) => (ofInlines content).map fun nodes => [Node.plain nodes]
  let header ← columns.mapM fun (_, content) => cell content
  let cells ← rows.mapM fun row => row.mapM cell
  .ok (.table [] (columns.map Prod.fst) (columns.map fun _ => "0.0") header cells)

mutual

/-- The nodes that a block becomes. -/
def ofBlock : Block (List Inline) → Except NoCounterpart (List Node)
  | .frontMatter _ => .error .frontMatter
  | .paragraph true content => do .ok [.plain (← ofInlines content)]
  | .paragraph false content => do .ok [.para (← ofInlines content)]
  | .heading level content => do .ok [.header (level.val + 1) (← ofInlines content)]
  | .fence info content => .ok [.codeBlock (Attr.ofFenceInfo info) (String.ofList content)]
  | .indentedCode content => .ok [.codeBlock {} (String.ofList content)]
  | .html content => .ok [.rawBlock "html" (String.ofList content)]
  | .quote blocks => do .ok [.blockQuote (← ofBlocks blocks)]
  | .bulletList items => do .ok [.bulletList (← ofItems items)]
  | .orderedList start items => do .ok [.orderedList (← ofItems items) start]
  | .definitionList parts => do .ok [.definitionList (definitionItems (← ofListedParts parts))]
  | .rule => .ok [.horizontalRule]
  | .table columns rows => do .ok [← ofTable columns rows]
  | .math content => .ok [.para [.math .display (String.ofList content)]]
  | .footnote _ => .ok []

/-- The nodes that blocks become. -/
def ofBlocks : List (Block (List Inline)) → Except NoCounterpart (List Node)
  | [] => .ok []
  | block :: rest => do
    let first ← ofBlock block
    let others ← ofBlocks rest
    .ok (first ++ others)

/-- The nodes in each item of a list. -/
def ofItems : List (List (Block (List Inline))) → Except NoCounterpart (List (List Node))
  | [] => .ok []
  | blocks :: rest => do
    let first ← ofBlocks blocks
    let others ← ofItems rest
    .ok (first :: others)

/-- The nodes in each term and each definition. -/
def ofParts : List (List Inline ⊕ List (Block (List Inline))) →
    Except NoCounterpart (List (List Node ⊕ List Node))
  | [] => .ok []
  | .inl term :: rest => do
    let first ← ofInlines term
    let others ← ofParts rest
    .ok (.inl first :: others)
  | .inr blocks :: rest => do
    let first ← ofBlocks blocks
    let others ← ofParts rest
    .ok (.inr first :: others)

/-- The nodes in each term and each definition from the first term on; definitions before it are
not read. -/
def ofListedParts : List (List Inline ⊕ List (Block (List Inline))) →
    Except NoCounterpart (List (List Node ⊕ List Node))
  | [] => .ok []
  | .inl term :: rest => do
    let first ← ofInlines term
    let others ← ofParts rest
    .ok (.inl first :: others)
  | .inr _ :: rest => ofListedParts rest

end

theorem ofListedParts_eq (parts : List (List Inline ⊕ List (Block (List Inline)))) :
    ofListedParts parts = ofParts (parts.dropWhile Sum.isRight) := by
  induction parts with
  | nil => rfl
  | cons part rest ih =>
      cases part with
      | inl term => rfl
      | inr blocks => exact ih

end Node

end LiveDeck
