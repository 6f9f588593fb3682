import Mathlib
import LiveDeck.Proofs.Document.Normal
import LiveDeck.Proofs.Text.Words

/-! # The contents of a source

Texts, code, formulas and markup are the contents of a source; everything else only arranges them.
`Markdown.Block.contents` reads them off the leaves of parsed blocks and `Node.contents` off the
nodes of a document, both in the order of the source.  A text is its pieces between blanks.

Reading keeps the contents of every block (`Node.contents_of_ofBlock`).  Front matter and footnotes
become nothing and every other block becomes one node, as `Document.contents_of_readMetadata` says
for all blocks of a source and `Document.contents_of_read` for a document.  Both ask that a
definition list starts with a term (`Markdown.Block.TermsFirst`): a definition before the first term
belongs to none and is left out. -/

namespace LiveDeck

open Markdown (Inline Block)

/-! ### What leaves hold -/

/-- What a leaf of a tree holds. -/
inductive LeafContent where
  | word (text : String)
  | code (text : String)
  | formula (text : String)
  | markup (text : String)
  | codeBlock (text : String)
  | markupBlock (text : String)
  deriving DecidableEq, Repr

/-- The pieces of a text between its blanks. -/
def LeafContent.ofText (text : List Char) : List LeafContent :=
  ((text.splitOnP Text.isBlank).filter fun piece => !piece.isEmpty).map fun piece =>
    .word (String.ofList piece)

mutual

/-- The contents of an inline element. -/
def Markdown.Inline.contents : Inline → List LeafContent
  | .text content => LeafContent.ofText content
  | .escaped content => [.word (String.ofList content)]
  | .emphasis children => Inline.allContents children
  | .strong children => Inline.allContents children
  | .strike children => Inline.allContents children
  | .code _ content => [.code (String.ofList content)]
  | .html content => [.markup (String.ofList content)]
  | .link _ children => Inline.allContents children
  | .image _ children => Inline.allContents children
  | .math content => [.formula (String.ofList content)]
  | .softBreak => []
  | .hardBreak => []
  | .footnoteReference => []

/-- The contents of inline elements. -/
def Markdown.Inline.allContents : List Inline → List LeafContent
  | [] => []
  | inline :: rest => inline.contents ++ Inline.allContents rest

end

mutual

/-- The contents of a block; those of front matter and footnotes are not shown. -/
def Markdown.Block.contents : Block (List Inline) → List LeafContent
  | .frontMatter _ => []
  | .paragraph _ content => Inline.allContents content
  | .heading _ content => Inline.allContents content
  | .fence _ content => [.codeBlock (String.ofList content)]
  | .indentedCode content => [.codeBlock (String.ofList content)]
  | .html content => [.markupBlock (String.ofList content)]
  | .quote blocks => Block.allContents blocks
  | .bulletList items => Block.itemsContents items
  | .orderedList _ items => Block.itemsContents items
  | .definitionList parts => Block.partsContents parts
  | .rule => []
  | .table columns rows =>
    (columns.flatMap fun column => Inline.allContents column.2) ++
      rows.flatMap fun row => row.flatMap Inline.allContents
  | .math content => [.formula (String.ofList content)]
  | .footnote _ => []

/-- The contents of blocks. -/
def Markdown.Block.allContents : List (Block (List Inline)) → List LeafContent
  | [] => []
  | block :: rest => block.contents ++ Block.allContents rest

/-- The contents of the items of a list. -/
def Markdown.Block.itemsContents : List (List (Block (List Inline))) → List LeafContent
  | [] => []
  | blocks :: rest => Block.allContents blocks ++ Block.itemsContents rest

/-- The contents of terms and definitions. -/
def Markdown.Block.partsContents :
    List (List Inline ⊕ List (Block (List Inline))) → List LeafContent
  | [] => []
  | .inl term :: rest => Inline.allContents term ++ Block.partsContents rest
  | .inr blocks :: rest => Block.allContents blocks ++ Block.partsContents rest

end

/-- Front matter and footnotes have no place of their own among the nodes of a document. -/
def Markdown.Block.isLeftOut : Block (List Inline) → Bool
  | .frontMatter _ => true
  | .footnote _ => true
  | _ => false

/-! ### Terms before definitions -/

mutual

/-- In every definition list in the block, a term stands before the first definition. -/
def Markdown.Block.TermsFirst : Block (List Inline) → Prop
  | .quote blocks => Block.AllTermsFirst blocks
  | .bulletList items => Block.ItemsTermsFirst items
  | .orderedList _ items => Block.ItemsTermsFirst items
  | .definitionList parts => (∀ blocks, parts.head? ≠ some (.inr blocks)) ∧
      Block.PartsTermsFirst parts
  | _ => True

/-- In every definition list in the blocks, a term stands before the first definition. -/
def Markdown.Block.AllTermsFirst : List (Block (List Inline)) → Prop
  | [] => True
  | block :: rest => block.TermsFirst ∧ Block.AllTermsFirst rest

/-- In every definition list in the items, a term stands before the first definition. -/
def Markdown.Block.ItemsTermsFirst : List (List (Block (List Inline))) → Prop
  | [] => True
  | blocks :: rest => Block.AllTermsFirst blocks ∧ Block.ItemsTermsFirst rest

/-- In every definition list in the definitions, a term stands before the first definition. -/
def Markdown.Block.PartsTermsFirst : List (List Inline ⊕ List (Block (List Inline))) → Prop
  | [] => True
  | .inl _ :: rest => Block.PartsTermsFirst rest
  | .inr blocks :: rest => Block.AllTermsFirst blocks ∧ Block.PartsTermsFirst rest

end

/-! ### The contents of nodes -/

namespace Node

/-- The content of a node that is a leaf. -/
def content? : Node → Option LeafContent
  | .str text => some (.word text)
  | .code _ text => some (.code text)
  | .math _ text => some (.formula text)
  | .rawInline _ text => some (.markup text)
  | .codeBlock _ text => some (.codeBlock text)
  | .rawBlock _ text => some (.markupBlock text)
  | _ => none

/-- The contents of nodes at every depth. -/
def contents (nodes : List Node) : List LeafContent := (allWithin nodes).filterMap content?

theorem allWithin_append : ∀ nodes others : List Node,
    allWithin (nodes ++ others) = allWithin nodes ++ allWithin others
  | [], _ => rfl
  | node :: nodes, others => by
      rw [List.cons_append, allWithin, allWithin_append nodes others, allWithin, List.append_assoc]

theorem groupsWithin_eq_flatMap (groups : List (List Node)) :
    groupsWithin groups = groups.flatMap allWithin := by
  induction groups with
  | nil => rfl
  | cons nodes groups ih => rw [groupsWithin, ih, List.flatMap_cons]

theorem rowsWithin_eq_flatMap (rows : List (List (List Node))) :
    rowsWithin rows = rows.flatMap groupsWithin := by
  induction rows with
  | nil => rfl
  | cons cells rows ih => rw [rowsWithin, ih, List.flatMap_cons]

theorem contents_append (nodes others : List Node) :
    contents (nodes ++ others) = contents nodes ++ contents others := by
  rw [contents, allWithin_append, List.filterMap_append, contents, contents]

theorem filterMap_groupsWithin (groups : List (List Node)) :
    (groupsWithin groups).filterMap content? = groups.flatMap contents := by
  rw [groupsWithin_eq_flatMap, List.filterMap_flatMap]
  rfl

theorem contents_singleton {node : Node} {inner : List Node} (h : node.within = node :: inner) :
    contents [node] = node.content?.toList ++ inner.filterMap content? := by
  rw [contents, allWithin, allWithin, List.append_nil, h]
  cases hcontent : node.content? with
  | none =>
      rw [List.filterMap_cons_none hcontent]
      rfl
  | some content =>
      rw [List.filterMap_cons_some hcontent]
      rfl

/-! ### Inline elements -/

theorem contents_map_runs : ∀ {runs : List (List Char)}, (∀ run ∈ runs, run ≠ []) →
    contents (runs.map fun run =>
        if Text.isBlankRun run then .space else .str (String.ofList run)) =
      (runs.filter fun run => !run.all Text.isBlank).map fun run => .word (String.ofList run)
  | [], _ => rfl
  | run :: runs, h => by
      obtain ⟨hrun, hruns⟩ := List.forall_mem_cons.mp h
      have hblank : Text.isBlankRun run = run.all Text.isBlank := by
        rw [Text.isBlankRun, List.isEmpty_eq_false_iff.mpr hrun, Bool.not_false, Bool.true_and]
      rw [List.map_cons, ← List.singleton_append, contents_append, contents_map_runs hruns, hblank]
      cases hall : run.all Text.isBlank with
      | true =>
          rw [List.filter_cons_of_neg (by rw [hall]; decide)]
          rfl
      | false =>
          rw [List.filter_cons_of_pos (by rw [hall]; decide)]
          rfl

theorem contents_ofText (text : List Char) : contents (ofText text) = LeafContent.ofText text := by
  have hwords := Text.wordsBy_eq_splitOnP Text.isBlank text
  rw [ofText_eq, LeafContent.ofText, ← hwords]
  refine contents_map_runs fun run hrun => ?_
  obtain ⟨_, _, rfl, _⟩ := Text.class_of_mem_runsBy hrun
  exact List.cons_ne_nil _ _

mutual

theorem contents_of_ofInline : ∀ {inline : Inline} {nodes : List Node},
    ofInline inline = .ok nodes → contents nodes = inline.contents
  | .text content, _, h => by
      cases h
      exact contents_ofText content
  | .escaped _, _, h => by cases h
  | .softBreak, _, h => by
      cases h
      rfl
  | .hardBreak, _, h => by
      cases h
      rfl
  | .emphasis _, _, h => by
      obtain ⟨_, hchildren, h⟩ := bind_eq_ok.mp h
      cases h
      exact (contents_singleton rfl).trans (contents_of_ofInlines hchildren)
  | .strong _, _, h => by
      obtain ⟨_, hchildren, h⟩ := bind_eq_ok.mp h
      cases h
      exact (contents_singleton rfl).trans (contents_of_ofInlines hchildren)
  | .strike _, _, h => by
      obtain ⟨_, hchildren, h⟩ := bind_eq_ok.mp h
      cases h
      exact (contents_singleton rfl).trans (contents_of_ofInlines hchildren)
  | .code _ _, _, h => by
      cases h
      rfl
  | .html _, _, h => by
      cases h
      rfl
  | .link _ _, _, h => by
      obtain ⟨_, hchildren, h⟩ := bind_eq_ok.mp h
      cases h
      exact (contents_singleton rfl).trans (contents_of_ofInlines hchildren)
  | .image _ _, _, h => by
      obtain ⟨_, hchildren, h⟩ := bind_eq_ok.mp h
      cases h
      exact (contents_singleton rfl).trans (contents_of_ofInlines hchildren)
  | .math _, _, h => by
      cases h
      rfl
  | .footnoteReference, _, h => by
      cases h
      rfl

theorem contents_of_ofInlines : ∀ {inlines : List Inline} {nodes : List Node},
    ofInlines inlines = .ok nodes → contents nodes = Inline.allContents inlines
  | [], _, h => by
      cases h
      rfl
  | _ :: _, _, h => by
      obtain ⟨_, hfirst, h⟩ := bind_eq_ok.mp h
      obtain ⟨_, hothers, h⟩ := bind_eq_ok.mp h
      cases h
      rw [contents_append, contents_of_ofInline hfirst, contents_of_ofInlines hothers,
        Inline.allContents]

end

/-! ### Tables -/

theorem flatMap_of_mapM {ε α β γ : Type} {f : α → Except ε β} {held : β → List γ}
    {given : α → List γ} (hf : ∀ {x y}, f x = .ok y → held y = given x) :
    ∀ {xs : List α} {ys : List β}, xs.mapM f = .ok ys → ys.flatMap held = xs.flatMap given
  | [], _, h => by
      cases h
      rfl
  | x :: xs, _, h => by
      rw [List.mapM_cons] at h
      obtain ⟨y, hy, h⟩ := bind_eq_ok.mp h
      obtain ⟨ys, hys, h⟩ := bind_eq_ok.mp h
      cases h
      rw [List.flatMap_cons, List.flatMap_cons, hf hy, flatMap_of_mapM hf hys]

theorem contents_table (alignments : List Alignment) (widths : List String)
    (headings : List (List Node)) (rows : List (List (List Node))) :
    contents [.table [] alignments widths headings rows] =
      headings.flatMap contents ++ rows.flatMap fun cells => cells.flatMap contents := by
  have hinner : contents [.table [] alignments widths headings rows] =
      (groupsWithin headings ++ rowsWithin rows).filterMap content? := contents_singleton rfl
  rw [hinner, List.filterMap_append, filterMap_groupsWithin, rowsWithin_eq_flatMap,
    List.filterMap_flatMap]
  simp only [filterMap_groupsWithin]

theorem contents_of_ofTable {columns : List (Alignment × List Inline)}
    {rows : List (List (List Inline))} {node : Node} (h : ofTable columns rows = .ok node) :
    contents [node] = Block.contents (.table columns rows) := by
  have hcell : ∀ {content : List Inline} {cell : List Node},
      ((ofInlines content).map fun nodes => [Node.plain nodes]) = .ok cell →
        contents cell = Inline.allContents content := by
    intro content cell hcell
    cases hnodes : ofInlines content with
    | error cause =>
        rw [hnodes] at hcell
        cases hcell
    | ok nodes =>
        rw [hnodes] at hcell
        cases hcell
        exact (contents_singleton rfl).trans (contents_of_ofInlines hnodes)
  obtain ⟨headings, hheadings, h⟩ := bind_eq_ok.mp h
  obtain ⟨cells, hcells, h⟩ := bind_eq_ok.mp h
  cases h
  have hheader : headings.flatMap contents =
      columns.flatMap fun column => Inline.allContents column.2 :=
    flatMap_of_mapM (fun h => hcell h) hheadings
  have hrows : cells.flatMap (fun cells => cells.flatMap contents) =
      rows.flatMap fun row => row.flatMap Inline.allContents :=
    flatMap_of_mapM (fun h => flatMap_of_mapM (fun h => hcell h) h) hcells
  rw [contents_table, hheader, hrows, Block.contents]

/-! ### Definition lists -/

/-- The nodes of a term or of a definition. -/
def partNodes : List Node ⊕ List Node → List Node := Sum.elim id id

theorem within_gather : ∀ parts : List (List Node ⊕ List Node),
    groupsWithin (gather parts).1 ++ definitionsWithin (gather parts).2 =
      parts.flatMap fun part => allWithin (partNodes part)
  | [] => rfl
  | .inl term :: rest => by
      rw [gather, groupsWithin, definitionsWithin, List.flatMap_cons, within_gather rest,
        List.nil_append]
      rfl
  | .inr blocks :: rest => by
      rw [gather, groupsWithin, List.append_assoc, List.flatMap_cons, within_gather rest]
      rfl

/-- If a term comes first, nothing of a definition list is left out. -/
theorem contents_definitionItems {parts : List (List Node ⊕ List Node)}
    (h : ∀ blocks, parts.head? ≠ some (.inr blocks)) :
    contents [.definitionList (definitionItems parts)] =
      parts.flatMap fun part => contents (partNodes part) := by
  have hnone : groupsWithin (gather parts).1 = [] := by
    match parts with
    | [] => rfl
    | .inl _ :: _ => rfl
    | .inr blocks :: _ => exact absurd rfl (h blocks)
  have hinner : contents [.definitionList (definitionItems parts)] =
      (definitionsWithin (gather parts).2).filterMap content? := contents_singleton rfl
  have hparts := within_gather parts
  rw [hnone, List.nil_append] at hparts
  rw [hinner, hparts, List.filterMap_flatMap]
  rfl

theorem dropWhile_isRight_eq_self {α β : Type} {parts : List (α ⊕ β)}
    (h : ∀ part, parts.head? ≠ some (.inr part)) : parts.dropWhile Sum.isRight = parts := by
  match parts with
  | [] => rfl
  | .inl _ :: _ => rfl
  | .inr part :: _ => exact absurd rfl (h part)

theorem head?_of_ofParts {parts : List (List Inline ⊕ List (Block (List Inline)))}
    {read : List (List Node ⊕ List Node)} (h : ofParts parts = .ok read)
    (hterms : ∀ blocks, parts.head? ≠ some (.inr blocks)) :
    ∀ blocks, read.head? ≠ some (.inr blocks) := by
  match parts with
  | [] =>
      cases h
      exact fun _ => nofun
  | .inl _ :: _ =>
      obtain ⟨_, _, h⟩ := bind_eq_ok.mp h
      obtain ⟨_, _, h⟩ := bind_eq_ok.mp h
      cases h
      exact fun _ => nofun
  | .inr blocks :: _ => exact absurd rfl (hterms blocks)

/-! ### Blocks -/

mutual

theorem contents_of_ofBlock : ∀ {block : Block (List Inline)} {nodes : List Node},
    ofBlock block = .ok nodes → block.TermsFirst → contents nodes = block.contents
  | .frontMatter _, _, h, _ => by cases h
  | .paragraph true _, _, h, _ => by
      obtain ⟨_, hinlines, h⟩ := bind_eq_ok.mp h
      cases h
      exact (contents_singleton rfl).trans (contents_of_ofInlines hinlines)
  | .paragraph false _, _, h, _ => by
      obtain ⟨_, hinlines, h⟩ := bind_eq_ok.mp h
      cases h
      exact (contents_singleton rfl).trans (contents_of_ofInlines hinlines)
  | .heading _ _, _, h, _ => by
      obtain ⟨_, hinlines, h⟩ := bind_eq_ok.mp h
      cases h
      exact (contents_singleton rfl).trans (contents_of_ofInlines hinlines)
  | .fence _ _, _, h, _ => by
      cases h
      rfl
  | .indentedCode _, _, h, _ => by
      cases h
      rfl
  | .html _, _, h, _ => by
      cases h
      rfl
  | .quote _, _, h, hterms => by
      obtain ⟨_, hblocks, h⟩ := bind_eq_ok.mp h
      cases h
      exact (contents_singleton rfl).trans (contents_of_ofBlocks hblocks hterms)
  | .bulletList _, _, h, hterms => by
      obtain ⟨_, hitems, h⟩ := bind_eq_ok.mp h
      cases h
      exact (contents_singleton rfl).trans (contents_of_ofItems hitems hterms)
  | .orderedList _ _, _, h, hterms => by
      obtain ⟨_, hitems, h⟩ := bind_eq_ok.mp h
      cases h
      exact (contents_singleton rfl).trans (contents_of_ofItems hitems hterms)
  | .definitionList _, _, h, hterms => by
      obtain ⟨hfirst, hdefinitions⟩ := hterms
      obtain ⟨_, hparts, h⟩ := bind_eq_ok.mp h
      cases h
      rw [ofListedParts_eq, dropWhile_isRight_eq_self hfirst] at hparts
      rw [contents_definitionItems (head?_of_ofParts hparts hfirst)]
      exact contents_of_ofParts hparts hdefinitions
  | .rule, _, h, _ => by
      cases h
      rfl
  | .table _ _, _, h, _ => by
      obtain ⟨_, htable, h⟩ := bind_eq_ok.mp h
      cases h
      exact contents_of_ofTable htable
  | .math _, _, h, _ => by
      cases h
      rfl
  | .footnote _, _, h, _ => by
      cases h
      rfl

theorem contents_of_ofBlocks : ∀ {blocks : List (Block (List Inline))} {nodes : List Node},
    ofBlocks blocks = .ok nodes → Block.AllTermsFirst blocks →
      contents nodes = Block.allContents blocks
  | [], _, h, _ => by
      cases h
      rfl
  | _ :: _, _, h, hterms => by
      obtain ⟨_, hfirst, h⟩ := bind_eq_ok.mp h
      obtain ⟨_, hothers, h⟩ := bind_eq_ok.mp h
      cases h
      rw [contents_append, contents_of_ofBlock hfirst hterms.1,
        contents_of_ofBlocks hothers hterms.2, Block.allContents]

theorem contents_of_ofItems : ∀ {items : List (List (Block (List Inline)))}
    {groups : List (List Node)}, ofItems items = .ok groups → Block.ItemsTermsFirst items →
      (groupsWithin groups).filterMap content? = Block.itemsContents items
  | [], _, h, _ => by
      cases h
      rfl
  | _ :: _, _, h, hterms => by
      obtain ⟨_, hfirst, h⟩ := bind_eq_ok.mp h
      obtain ⟨_, hothers, h⟩ := bind_eq_ok.mp h
      cases h
      rw [groupsWithin, List.filterMap_append, contents_of_ofItems hothers hterms.2,
        Block.itemsContents, ← contents_of_ofBlocks hfirst hterms.1, contents]

theorem contents_of_ofParts : ∀ {parts : List (List Inline ⊕ List (Block (List Inline)))}
    {read : List (List Node ⊕ List Node)}, ofParts parts = .ok read →
      Block.PartsTermsFirst parts →
      (read.flatMap fun part => contents (partNodes part)) = Block.partsContents parts
  | [], _, h, _ => by
      cases h
      rfl
  | .inl _ :: _, _, h, hterms => by
      obtain ⟨_, hfirst, h⟩ := bind_eq_ok.mp h
      obtain ⟨_, hothers, h⟩ := bind_eq_ok.mp h
      cases h
      rw [List.flatMap_cons, contents_of_ofParts hothers hterms, Block.partsContents,
        ← contents_of_ofInlines hfirst]
      rfl
  | .inr _ :: _, _, h, hterms => by
      obtain ⟨_, hfirst, h⟩ := bind_eq_ok.mp h
      obtain ⟨_, hothers, h⟩ := bind_eq_ok.mp h
      cases h
      rw [List.flatMap_cons, contents_of_ofParts hothers hterms.2, Block.partsContents,
        ← contents_of_ofBlocks hfirst hterms.1]
      rfl

end

/-! ### One node for every block -/

/-- Front matter and footnotes become nothing, every other block becomes one node. -/
theorem length_of_ofBlock {block : Block (List Inline)} {nodes : List Node}
    (h : ofBlock block = .ok nodes) : nodes.length = if block.isLeftOut then 0 else 1 := by
  cases block with
  | frontMatter _ => cases h
  | paragraph isTight _ =>
      cases isTight with
      | true =>
          obtain ⟨_, _, h⟩ := bind_eq_ok.mp h
          cases h
          rfl
      | false =>
          obtain ⟨_, _, h⟩ := bind_eq_ok.mp h
          cases h
          rfl
  | heading _ _ | quote _ | bulletList _ | orderedList _ _ | definitionList _ | table _ _ =>
      obtain ⟨_, _, h⟩ := bind_eq_ok.mp h
      cases h
      rfl
  | fence _ _ | indentedCode _ | html _ | rule | math _ | footnote _ =>
      cases h
      rfl

theorem exists_parts_of_ofBlocks : ∀ {blocks : List (Block (List Inline))} {nodes : List Node},
    ofBlocks blocks = .ok nodes → Block.AllTermsFirst blocks →
      ∃ parts : List (List Node), parts.flatten = nodes ∧
        parts.map contents = blocks.map Block.contents ∧
        parts.map List.length = blocks.map fun block => if block.isLeftOut then 0 else 1
  | [], _, h, _ => by
      cases h
      exact ⟨[], rfl, rfl, rfl⟩
  | block :: rest, _, h, hterms => by
      obtain ⟨first, hfirst, h⟩ := bind_eq_ok.mp h
      obtain ⟨others, hothers, h⟩ := bind_eq_ok.mp h
      cases h
      obtain ⟨parts, hparts, hcontents, hlengths⟩ := exists_parts_of_ofBlocks hothers hterms.2
      refine ⟨first :: parts, ?_, ?_, ?_⟩
      · rw [List.flatten_cons, hparts]
      · rw [List.map_cons, List.map_cons, hcontents, contents_of_ofBlock hfirst hterms.1]
      · rw [List.map_cons, List.map_cons, hlengths, length_of_ofBlock hfirst]

theorem contents_flatten (parts : List (List Node)) :
    contents parts.flatten = (parts.map contents).flatten := by
  induction parts with
  | nil => rfl
  | cons nodes parts ih =>
      rw [List.flatten_cons, contents_append, ih, List.map_cons, List.flatten_cons]

end Node

theorem Markdown.Block.allContents_eq_flatten : ∀ blocks : List (Block (List Inline)),
    Block.allContents blocks = (blocks.map Block.contents).flatten
  | [] => rfl
  | block :: rest => by
      rw [Block.allContents, Block.allContents_eq_flatten rest, List.map_cons, List.flatten_cons]

/-! ### Documents -/

namespace Document

/-- The nodes of the blocks of a source, block by block; front matter at the start is one of them
and becomes nothing. -/
theorem exists_parts_of_readMetadata {fromTitle metadata : Metadata}
    {parsed content : List (Block (List Inline))} {nodes : List Node}
    (hterms : Block.AllTermsFirst parsed)
    (hmetadata : readMetadata fromTitle parsed = .ok (metadata, content))
    (hblocks : readBlocks content = .ok nodes) :
    ∃ parts : List (List Node), parts.flatten = nodes ∧
      parts.map Node.contents = parsed.map Block.contents ∧
      parts.map List.length = parsed.map fun block => if block.isLeftOut then 0 else 1 := by
  have hnodes := mapError_eq_ok hblocks
  unfold readMetadata at hmetadata
  split at hmetadata
  · obtain ⟨_, _, h⟩ := bind_eq_ok.mp hmetadata
    cases h
    obtain ⟨parts, hparts, hcontents, hlengths⟩ :=
      Node.exists_parts_of_ofBlocks hnodes hterms.2
    refine ⟨[] :: parts, hparts, ?_, ?_⟩
    · rw [List.map_cons, List.map_cons, hcontents]
      rfl
    · rw [List.map_cons, List.map_cons, hlengths]
      rfl
  · cases hmetadata
    exact Node.exists_parts_of_ofBlocks hnodes hterms

/-- What parsed blocks hold, the nodes that are made of them hold in the same order: front matter
and footnotes become nothing, and every other block one node with its contents. -/
theorem contents_of_readMetadata {fromTitle metadata : Metadata}
    {parsed content : List (Block (List Inline))} {nodes : List Node}
    (hterms : Block.AllTermsFirst parsed)
    (hmetadata : readMetadata fromTitle parsed = .ok (metadata, content))
    (hblocks : readBlocks content = .ok nodes) :
    Node.contents nodes = Block.allContents parsed ∧
      ∃ parts : List (List Node), parts.flatten = nodes ∧
        parts.map Node.contents = parsed.map Block.contents ∧
        parts.map List.length = parsed.map fun block => if block.isLeftOut then 0 else 1 := by
  obtain ⟨parts, rfl, hcontents, hlengths⟩ :=
    exists_parts_of_readMetadata hterms hmetadata hblocks
  refine ⟨?_, parts, rfl, hcontents, hlengths⟩
  rw [Node.contents_flatten, hcontents, Block.allContents_eq_flatten]

/-- Front matter, a term with a quotation for its definition, a table and a footnote. -/
theorem contents_of_readMetadata_of_quote_in_definition :
    let parsed : List (Block (List Inline)) := [.frontMatter [],
      .definitionList [.inl [.text "a \n".toList],
        .inr [.quote [.paragraph false [.text "b\tc".toList]]]],
      .table [(.left, [.text "d".toList])] [[[.code [] "e f".toList]]], .footnote [.rule]]
    let nodes : List Node := [.definitionList [([.str "a", .space],
        [[.blockQuote [.para [.str "b", .space, .str "c"]]]])],
      .table [] [.left] ["0.0"] [[.plain [.str "d"]]] [[[.plain [.code {} "e f"]]]]]
    Node.contents nodes = [.word "a", .word "b", .word "c", .word "d", .code "e f"] ∧
      Node.contents nodes = Block.allContents parsed ∧
      ∃ parts : List (List Node), parts.flatten = nodes ∧
        parts.map Node.contents = parsed.map Block.contents ∧
        parts.map List.length = parsed.map fun block => if block.isLeftOut then 0 else 1 := by
  intro parsed nodes
  have hterms : Block.AllTermsFirst parsed :=
    ⟨trivial, ⟨fun _ => nofun, ⟨⟨trivial, trivial⟩, trivial⟩, trivial⟩, trivial, trivial, trivial⟩
  have hmetadata : readMetadata {} parsed = .ok ({}, parsed.tail) := by cbv
  have hblocks : readBlocks parsed.tail = .ok nodes := by cbv
  exact ⟨rfl, contents_of_readMetadata hterms hmetadata hblocks⟩

/-- A document holds what its source holds. -/
theorem contents_of_read {source : List Char} {doc : Document}
    {parsed : List (Block (List Inline))}
    (hparsed : Markdown.parse? (TitleBlock.split source).2 = some parsed)
    (hterms : Block.AllTermsFirst parsed) (h : read source = .ok doc) :
    Node.contents doc.blocks = Block.allContents parsed := by
  unfold read at h
  dsimp only at h
  rw [hparsed] at h
  obtain ⟨⟨metadata, content⟩, hmetadata, h⟩ := bind_eq_ok.mp h
  obtain ⟨blocks, hblocks, h⟩ := bind_eq_ok.mp h
  obtain ⟨_, _, h⟩ := bind_eq_ok.mp h
  obtain ⟨_, _, h⟩ := bind_eq_ok.mp h
  obtain ⟨_, _, h⟩ := bind_eq_ok.mp h
  cases h
  obtain ⟨parts, rfl, hcontents, _⟩ := exists_parts_of_readMetadata hterms hmetadata hblocks
  rw [Node.contents_flatten, hcontents, Block.allContents_eq_flatten]

end Document

end LiveDeck
