import LiveDeck.Document.Basic

/-! # Plain text of inline content

`Node.plainText` flattens inline content to text: notes and raw markup leave nothing, breaks
leave a space, quotes keep their marks.  A node of any kind that holds inline content is
flattened too; a node that holds none is an error, which names its kind. -/

namespace LiveDeck

/-- A node without inline content where text was to be read. -/
structure NoInlines where
  kind : String
  deriving DecidableEq, Repr

namespace QuoteKind

/-- The mark around a quotation in plain text. -/
def plainMark : QuoteKind → String
  | .single => "'"
  | _ => "\""

end QuoteKind

namespace Node

mutual

/-- The text of one node. -/
def plainText : Node → Except NoInlines String
  | .str text => .ok text
  | .space => .ok " "
  | .lineBreak => .ok " "
  | .code _ text => .ok text
  | .math _ text => .ok text
  | .quoted kind inlines => do
    let text ← plainTexts inlines
    .ok (kind.plainMark ++ text ++ kind.plainMark)
  | .note _ => .ok ""
  | .rawInline _ _ => .ok ""
  | .styled _ inlines => plainTexts inlines
  | .cite _ inlines => plainTexts inlines
  | .link inlines _ _ => plainTexts inlines
  | .image inlines _ _ => plainTexts inlines
  | .plain inlines => plainTexts inlines
  | .para inlines => plainTexts inlines
  | .header _ inlines => plainTexts inlines
  | .codeBlock _ _ => .error ⟨"CodeBlock"⟩
  | .rawBlock _ _ => .error ⟨"RawBlock"⟩
  | .blockQuote _ => .error ⟨"BlockQuote"⟩
  | .orderedList _ _ => .error ⟨"OrderedList"⟩
  | .bulletList _ => .error ⟨"BulletList"⟩
  | .definitionList _ => .error ⟨"DefinitionList"⟩
  | .horizontalRule => .error ⟨"HorizontalRule"⟩
  | .table _ _ _ _ _ => .error ⟨"Table"⟩
  | .null => .error ⟨"Null"⟩

/-- The text of inline content. -/
def plainTexts : List Node → Except NoInlines String
  | [] => .ok ""
  | node :: rest => do
    let text ← plainText node
    let texts ← plainTexts rest
    .ok (text ++ texts)

end

end Node

end LiveDeck
