import LiveDeck.Document.Basic
import LiveDeck.Markdown.Inline

/-! # Blocks

The block structure of a source, where `α` is what stands in a paragraph, a heading, a term or a
table cell: first its text, later its inline elements.

Footnotes are defined where they stand but belong to the end of a document.  `Block.dropNotes?`
takes them out.  Inside a definition, whatever follows another definition is not part of either
and stays; where the inner definition stands in a container of its own, taking it out leaves the
end of that container without its start, and there is no document. -/

namespace LiveDeck.Markdown

/-- A block.  Headings have levels 1 to 6, written 0 to 5. -/
inductive Block (α : Type) where
  | frontMatter (content : List Char)
  | paragraph (isTight : Bool) (content : α)
  | heading (level : Fin 6) (content : α)
  | fence (info content : List Char)
  | indentedCode (content : List Char)
  | html (content : List Char)
  | quote (blocks : List (Block α))
  | bulletList (items : List (List (Block α)))
  | orderedList (start : Nat) (items : List (List (Block α)))
  | definitionList (parts : List (α ⊕ List (Block α)))
  | rule
  | table (columns : List (Alignment × α)) (rows : List (List α))
  | math (content : List Char)
  | footnote (blocks : List (Block α))
  deriving Repr, Inhabited

namespace Block

variable {α β : Type}

mutual

/-- The block with `f` applied to the content of every paragraph, heading, term and cell; `none`
if `f` fails on one of them. -/
def mapM? (f : α → Option β) : Block α → Option (Block β)
  | .frontMatter content => some (.frontMatter content)
  | .paragraph isTight content => (f content).map (.paragraph isTight)
  | .heading level content => (f content).map (.heading level)
  | .fence info content => some (.fence info content)
  | .indentedCode content => some (.indentedCode content)
  | .html content => some (.html content)
  | .quote blocks => (mapAllM? f blocks).map .quote
  | .bulletList items => (mapItemsM? f items).map .bulletList
  | .orderedList start items => (mapItemsM? f items).map (.orderedList start)
  | .definitionList parts => (mapPartsM? f parts).map .definitionList
  | .rule => some .rule
  | .table columns rows => do
    let columns ← columns.mapM fun (alignment, content) => (f content).map fun c => (alignment, c)
    let rows ← rows.mapM fun row => row.mapM f
    some (.table columns rows)
  | .math content => some (.math content)
  | .footnote blocks => (mapAllM? f blocks).map .footnote

/-- `mapM?` on a sequence of blocks. -/
def mapAllM? (f : α → Option β) : List (Block α) → Option (List (Block β))
  | [] => some []
  | block :: rest => do
    let first ← mapM? f block
    let others ← mapAllM? f rest
    some (first :: others)

/-- `mapM?` on the items of a list. -/
def mapItemsM? (f : α → Option β) : List (List (Block α)) → Option (List (List (Block β)))
  | [] => some []
  | blocks :: rest => do
    let first ← mapAllM? f blocks
    let others ← mapItemsM? f rest
    some (first :: others)

/-- `mapM?` on terms and definitions. -/
def mapPartsM? (f : α → Option β) :
    List (α ⊕ List (Block α)) → Option (List (β ⊕ List (Block β)))
  | [] => some []
  | .inl term :: rest => do
    let first ← f term
    let others ← mapPartsM? f rest
    some (.inl first :: others)
  | .inr blocks :: rest => do
    let first ← mapAllM? f blocks
    let others ← mapPartsM? f rest
    some (.inr first :: others)

end

mutual

/-- Whether a footnote is defined in the block. -/
def definesNote : Block α → Bool
  | .quote blocks => anyDefinesNote blocks
  | .bulletList items => itemsDefineNote items
  | .orderedList _ items => itemsDefineNote items
  | .definitionList parts => partsDefineNote parts
  | .footnote _ => true
  | _ => false

def anyDefinesNote : List (Block α) → Bool
  | [] => false
  | block :: rest => definesNote block || anyDefinesNote rest

def itemsDefineNote : List (List (Block α)) → Bool
  | [] => false
  | blocks :: rest => anyDefinesNote blocks || itemsDefineNote rest

def partsDefineNote : List (α ⊕ List (Block α)) → Bool
  | [] => false
  | .inl _ :: rest => partsDefineNote rest
  | .inr blocks :: rest => anyDefinesNote blocks || partsDefineNote rest

end

mutual

/-- The blocks without the footnotes defined in them; with `inNote`, those of a definition. -/
def dropNotesFrom (inNote : Bool) : List (Block α) → Option (List (Block α))
  | [] => some []
  | .footnote blocks :: rest => do
    let spilled ← dropNotesFrom true blocks
    let others ← dropNotesFrom false rest
    some (spilled ++ others)
  | .quote blocks :: rest => do
    if inNote then
      if anyDefinesNote blocks then none else dropNotesFrom true rest
    else
      let kept ← dropNotesFrom false blocks
      let others ← dropNotesFrom false rest
      some (.quote kept :: others)
  | .bulletList items :: rest => do
    if inNote then
      if itemsDefineNote items then none else dropNotesFrom true rest
    else
      let kept ← dropNotesInItems items
      let others ← dropNotesFrom false rest
      some (.bulletList kept :: others)
  | .orderedList start items :: rest => do
    if inNote then
      if itemsDefineNote items then none else dropNotesFrom true rest
    else
      let kept ← dropNotesInItems items
      let others ← dropNotesFrom false rest
      some (.orderedList start kept :: others)
  | .definitionList parts :: rest => do
    if inNote then
      if partsDefineNote parts then none else dropNotesFrom true rest
    else
      let kept ← dropNotesInParts parts
      let others ← dropNotesFrom false rest
      some (.definitionList kept :: others)
  | block :: rest => do
    let others ← dropNotesFrom inNote rest
    some (if inNote then others else block :: others)

def dropNotesInItems : List (List (Block α)) → Option (List (List (Block α)))
  | [] => some []
  | blocks :: rest => do
    let first ← dropNotesFrom false blocks
    let others ← dropNotesInItems rest
    some (first :: others)

def dropNotesInParts : List (α ⊕ List (Block α)) → Option (List (α ⊕ List (Block α)))
  | [] => some []
  | .inl term :: rest => (dropNotesInParts rest).map (.inl term :: ·)
  | .inr blocks :: rest => do
    let first ← dropNotesFrom false blocks
    let others ← dropNotesInParts rest
    some (.inr first :: others)

end

/-- The blocks of a document without footnote definitions; `none` if there is no document. -/
def dropNotes? (blocks : List (Block α)) : Option (List (Block α)) := dropNotesFrom false blocks

end Block

end LiveDeck.Markdown
