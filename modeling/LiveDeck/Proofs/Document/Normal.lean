import LiveDeck.Document.Read
import LiveDeck.Proofs.Markdown.Tables
import LiveDeck.Proofs.Page.Shows

/-! # The normal form of documents

A document that is read from a source is made of fewer things than a document may be made of: text
without blanks, no quotations and no citations, tables without captions, and so on.  `IsNormal` says
so of a single node, and `Document.isNormal_of_read` of every node at every depth.

The reader also puts every node where it belongs.  `IsReadInline` and `IsReadBlock` are the trees
that it builds, one rule for each kind of node; a node in such a tree is normal
(`isNormal_of_isReadInline`, `isNormal_of_isReadBlock`). -/

namespace LiveDeck

open Markdown (Inline Block)

/-! ### Results -/

theorem mapM_eq_ok {ε α β : Type} {f : α → Except ε β} : ∀ {xs : List α} {ys : List β},
    xs.mapM f = .ok ys → ys.length = xs.length ∧ ∀ y ∈ ys, ∃ x ∈ xs, f x = .ok y
  | [], _, h => by
      cases h
      exact ⟨rfl, List.forall_mem_nil _⟩
  | x :: xs, _, h => by
      rw [List.mapM_cons] at h
      obtain ⟨y, hy, h⟩ := bind_eq_ok.mp h
      obtain ⟨ys, hys, h⟩ := bind_eq_ok.mp h
      cases h
      obtain ⟨hlength, hmem⟩ := mapM_eq_ok hys
      refine ⟨by rw [List.length_cons, List.length_cons, hlength], ?_⟩
      refine List.forall_mem_cons.mpr ⟨⟨x, List.mem_cons_self, hy⟩, fun z hz => ?_⟩
      obtain ⟨w, hw, hfound⟩ := hmem z hz
      exact ⟨w, List.mem_cons_of_mem _ hw, hfound⟩

theorem mapError_eq_ok {ε δ α : Type} {f : ε → δ} {result : Except ε α} {value : α}
    (h : result.mapError f = .ok value) : result = .ok value := by
  cases result with
  | error cause => cases h
  | ok found =>
      cases h
      rfl

/-! ### Nodes at every depth -/

namespace Node

mutual

/-- A node and all nodes in it, also those in descriptions and notes. -/
def within (node : Node) : List Node :=
  node :: match node with
    | .styled _ inlines => allWithin inlines
    | .quoted _ inlines => allWithin inlines
    | .cite _ inlines => allWithin inlines
    | .link inlines _ _ => allWithin inlines
    | .image inlines _ _ => allWithin inlines
    | .note blocks => allWithin blocks
    | .plain inlines => allWithin inlines
    | .para inlines => allWithin inlines
    | .blockQuote blocks => allWithin blocks
    | .orderedList items _ => groupsWithin items
    | .bulletList items => groupsWithin items
    | .definitionList items => definitionsWithin items
    | .header _ inlines => allWithin inlines
    | .table caption _ _ headings rows =>
      allWithin caption ++ (groupsWithin headings ++ rowsWithin rows)
    | _ => []

/-- All nodes in a sequence of nodes. -/
def allWithin : List Node → List Node
  | [] => []
  | node :: rest => within node ++ allWithin rest

/-- All nodes in list items, definitions or cells. -/
def groupsWithin : List (List Node) → List Node
  | [] => []
  | nodes :: rest => allWithin nodes ++ groupsWithin rest

/-- All nodes in terms and their definitions. -/
def definitionsWithin : List (List Node × List (List Node)) → List Node
  | [] => []
  | (term, definitions) :: rest =>
    allWithin term ++ (groupsWithin definitions ++ definitionsWithin rest)

/-- All nodes in the rows of a table. -/
def rowsWithin : List (List (List Node)) → List Node
  | [] => []
  | cells :: rest => groupsWithin cells ++ rowsWithin rest

end

variable {property : Node → Prop}

theorem forall_mem_allWithin {nodes : List Node} :
    (∀ part ∈ allWithin nodes, property part) ↔
      ∀ node ∈ nodes, ∀ part ∈ node.within, property part := by
  induction nodes with
  | nil => simp [allWithin]
  | cons node nodes ih => rw [allWithin, List.forall_mem_append, ih, List.forall_mem_cons]

theorem forall_mem_groupsWithin {groups : List (List Node)} :
    (∀ part ∈ groupsWithin groups, property part) ↔
      ∀ nodes ∈ groups, ∀ part ∈ allWithin nodes, property part := by
  induction groups with
  | nil => simp [groupsWithin]
  | cons nodes groups ih => rw [groupsWithin, List.forall_mem_append, ih, List.forall_mem_cons]

theorem forall_mem_definitionsWithin {items : List (List Node × List (List Node))} :
    (∀ part ∈ definitionsWithin items, property part) ↔
      ∀ item ∈ items, (∀ part ∈ allWithin item.1, property part) ∧
        ∀ part ∈ groupsWithin item.2, property part := by
  induction items with
  | nil => simp [definitionsWithin]
  | cons item items ih =>
      rw [definitionsWithin, List.forall_mem_append, List.forall_mem_append, ih,
        List.forall_mem_cons, and_assoc]

theorem forall_mem_rowsWithin {rows : List (List (List Node))} :
    (∀ part ∈ rowsWithin rows, property part) ↔
      ∀ cells ∈ rows, ∀ part ∈ groupsWithin cells, property part := by
  induction rows with
  | nil => simp [rowsWithin]
  | cons cells rows ih => rw [rowsWithin, List.forall_mem_append, ih, List.forall_mem_cons]

end Node

/-- All nodes of a document. -/
def Document.nodes (doc : Document) : List Node :=
  Node.allWithin (doc.title ++ doc.authors.flatten ++ doc.date ++ doc.blocks)

/-! ### The normal form -/

namespace Node

/-- A cell that holds text only. -/
def IsTextCell (cell : List Node) : Prop := ∃ inlines, cell = [.plain inlines]

/-- What the reader makes of a node of each kind. -/
def IsNormal : Node → Prop
  | .str text => text ≠ "" ∧ ∀ c ∈ text.toList, Text.isBlank c = false
  | .styled style _ => style ≠ .superscript ∧ style ≠ .subscript ∧ style ≠ .smallCaps
  | .quoted _ _ => False
  | .cite _ _ => False
  | .rawInline format _ => format = "html"
  | .note blocks => blocks = []
  | .rawBlock format _ => format = "html"
  | .header level _ => 1 ≤ level ∧ level ≤ 6
  | .table caption alignments widths headings rows =>
    caption = [] ∧ alignments.length = headings.length ∧ widths.length = headings.length ∧
      (∀ width ∈ widths, width = "0.0") ∧ (∀ cell ∈ headings, IsTextCell cell) ∧
      ∀ cells ∈ rows, cells.length = headings.length ∧ ∀ cell ∈ cells, IsTextCell cell
  | .null => False
  | _ => True

/-- A node that the reader puts where an inline belongs. -/
inductive IsReadInline : Node → Prop
  | str {text : String} :
      text ≠ "" → (∀ c ∈ text.toList, Text.isBlank c = false) → IsReadInline (.str text)
  | styled {style : Style} {inlines : List Node} :
      style ≠ .superscript ∧ style ≠ .subscript ∧ style ≠ .smallCaps →
      (∀ node ∈ inlines, IsReadInline node) → IsReadInline (.styled style inlines)
  | code (attr : Attr) (text : String) : IsReadInline (.code attr text)
  | space : IsReadInline .space
  | lineBreak : IsReadInline .lineBreak
  | math (kind : MathKind) (text : String) : IsReadInline (.math kind text)
  | rawInline (text : String) : IsReadInline (.rawInline "html" text)
  | link {inlines : List Node} (url title : String) :
      (∀ node ∈ inlines, IsReadInline node) → IsReadInline (.link inlines url title)
  | image {inlines : List Node} (url title : String) :
      (∀ node ∈ inlines, IsReadInline node) → IsReadInline (.image inlines url title)
  | note : IsReadInline (.note [])

/-- Inline content that the reader makes. -/
abbrev AllReadInline (nodes : List Node) : Prop := ∀ node ∈ nodes, IsReadInline node

/-- A cell that the reader makes. -/
def IsReadCell (cell : List Node) : Prop :=
  ∃ inlines, cell = [.plain inlines] ∧ AllReadInline inlines

/-- A node that the reader puts where a block belongs. -/
inductive IsReadBlock : Node → Prop
  | plain {inlines : List Node} : AllReadInline inlines → IsReadBlock (.plain inlines)
  | para {inlines : List Node} : AllReadInline inlines → IsReadBlock (.para inlines)
  | codeBlock (attr : Attr) (text : String) : IsReadBlock (.codeBlock attr text)
  | rawBlock (text : String) : IsReadBlock (.rawBlock "html" text)
  | blockQuote {blocks : List Node} :
      (∀ block ∈ blocks, IsReadBlock block) → IsReadBlock (.blockQuote blocks)
  | orderedList {items : List (List Node)} (start : Int) :
      (∀ blocks ∈ items, ∀ block ∈ blocks, IsReadBlock block) →
      IsReadBlock (.orderedList items start)
  | bulletList {items : List (List Node)} :
      (∀ blocks ∈ items, ∀ block ∈ blocks, IsReadBlock block) → IsReadBlock (.bulletList items)
  | definitionList {items : List (List Node × List (List Node))} :
      (∀ item ∈ items, AllReadInline item.1) →
      (∀ item ∈ items, ∀ blocks ∈ item.2, ∀ block ∈ blocks, IsReadBlock block) →
      IsReadBlock (.definitionList items)
  | header {level : Int} {inlines : List Node} :
      1 ≤ level ∧ level ≤ 6 → AllReadInline inlines → IsReadBlock (.header level inlines)
  | horizontalRule : IsReadBlock .horizontalRule
  | table {alignments : List Alignment} {widths : List String} {headings : List (List Node)}
      {rows : List (List (List Node))} :
      alignments.length = headings.length → widths.length = headings.length →
      (∀ width ∈ widths, width = "0.0") → (∀ cell ∈ headings, IsReadCell cell) →
      (∀ cells ∈ rows, cells.length = headings.length ∧ ∀ cell ∈ cells, IsReadCell cell) →
      IsReadBlock (.table [] alignments widths headings rows)

/-- Blocks that the reader makes. -/
abbrev AllReadBlock (nodes : List Node) : Prop := ∀ node ∈ nodes, IsReadBlock node

theorem isNormal_of_isReadInline {node : Node} (h : IsReadInline node) :
    ∀ part ∈ node.within, part.IsNormal := by
  induction h with
  | str hne hblank => exact List.forall_mem_singleton.mpr ⟨hne, hblank⟩
  | styled hstyle _ ih =>
      exact List.forall_mem_cons.mpr ⟨hstyle, forall_mem_allWithin.mpr ih⟩
  | link _ _ _ ih | image _ _ _ ih =>
      exact List.forall_mem_cons.mpr ⟨trivial, forall_mem_allWithin.mpr ih⟩
  | code _ _ | space | lineBreak | math _ _ => exact List.forall_mem_singleton.mpr trivial
  | rawInline _ | note => exact List.forall_mem_singleton.mpr rfl

theorem isNormal_of_allReadInline {nodes : List Node} (h : AllReadInline nodes) :
    ∀ part ∈ allWithin nodes, part.IsNormal :=
  forall_mem_allWithin.mpr fun node hnode => isNormal_of_isReadInline (h node hnode)

theorem isNormal_of_isReadCell {cells : List (List Node)} (h : ∀ cell ∈ cells, IsReadCell cell) :
    ∀ part ∈ groupsWithin cells, part.IsNormal := by
  refine forall_mem_groupsWithin.mpr fun cell hcell => ?_
  obtain ⟨inlines, rfl, hinlines⟩ := h cell hcell
  refine forall_mem_allWithin.mpr (List.forall_mem_singleton.mpr ?_)
  exact List.forall_mem_cons.mpr ⟨trivial, isNormal_of_allReadInline hinlines⟩

theorem IsReadCell.isTextCell {cell : List Node} (h : IsReadCell cell) : IsTextCell cell := by
  obtain ⟨inlines, hcell, _⟩ := h
  exact ⟨inlines, hcell⟩

theorem isNormal_of_isReadBlock {node : Node} (h : IsReadBlock node) :
    ∀ part ∈ node.within, part.IsNormal := by
  induction h with
  | plain hinlines | para hinlines =>
      exact List.forall_mem_cons.mpr ⟨trivial, isNormal_of_allReadInline hinlines⟩
  | header hlevel hinlines =>
      exact List.forall_mem_cons.mpr ⟨hlevel, isNormal_of_allReadInline hinlines⟩
  | codeBlock _ _ | horizontalRule => exact List.forall_mem_singleton.mpr trivial
  | rawBlock _ => exact List.forall_mem_singleton.mpr rfl
  | blockQuote _ ih => exact List.forall_mem_cons.mpr ⟨trivial, forall_mem_allWithin.mpr ih⟩
  | orderedList _ _ ih | bulletList _ ih =>
      refine List.forall_mem_cons.mpr ⟨trivial, forall_mem_groupsWithin.mpr ?_⟩
      exact fun blocks hblocks => forall_mem_allWithin.mpr (ih blocks hblocks)
  | definitionList hterms _ ih =>
      refine List.forall_mem_cons.mpr ⟨trivial, forall_mem_definitionsWithin.mpr ?_⟩
      refine fun item hitem => ⟨isNormal_of_allReadInline (hterms item hitem), ?_⟩
      exact forall_mem_groupsWithin.mpr fun blocks hblocks =>
        forall_mem_allWithin.mpr (ih item hitem blocks hblocks)
  | table halignments hwidths hzero hcells hrows =>
      have htable : ∀ cells ∈ _, _ ∧ ∀ cell ∈ cells, IsTextCell cell := fun cells hcells =>
        ⟨(hrows cells hcells).1, fun cell hcell => ((hrows cells hcells).2 cell hcell).isTextCell⟩
      refine List.forall_mem_cons.mpr ⟨⟨rfl, halignments, hwidths, hzero,
        fun cell hcell => (hcells cell hcell).isTextCell, htable⟩, ?_⟩
      refine List.forall_mem_append.mpr ⟨List.forall_mem_nil _, ?_⟩
      refine List.forall_mem_append.mpr ⟨isNormal_of_isReadCell hcells, ?_⟩
      exact forall_mem_rowsWithin.mpr fun cells hcells =>
        isNormal_of_isReadCell (hrows cells hcells).2

/-! ### Reading inline elements -/

theorem allReadInline_ofText (text : List Char) : AllReadInline (ofText text) := by
  rw [ofText_eq]
  refine List.forall_mem_map.mpr fun run hrun => ?_
  unfold ofRun
  split
  · exact .space
  · rename_i hblank
    obtain ⟨hne, hclear⟩ := Text.isBlank_of_mem_runs hrun hblank
    refine .str ?_ ?_
    · intro hempty
      exact hne (String.ofList_eq_empty_iff.mp hempty)
    · rw [String.toList_ofList]
      exact hclear

mutual

theorem allReadInline_of_ofInline : ∀ {inline : Inline} {nodes : List Node},
    ofInline inline = .ok nodes → AllReadInline nodes
  | .text content, _, h => by
      cases h
      exact allReadInline_ofText content
  | .escaped _, _, h => by cases h
  | .softBreak, _, h => by
      cases h
      exact List.forall_mem_singleton.mpr .space
  | .hardBreak, _, h => by
      cases h
      exact List.forall_mem_singleton.mpr .lineBreak
  | .emphasis _, _, h => by
      obtain ⟨_, hchildren, h⟩ := bind_eq_ok.mp h
      cases h
      exact List.forall_mem_singleton.mpr
        (.styled (by decide) (allReadInline_of_ofInlines hchildren))
  | .strong _, _, h => by
      obtain ⟨_, hchildren, h⟩ := bind_eq_ok.mp h
      cases h
      exact List.forall_mem_singleton.mpr
        (.styled (by decide) (allReadInline_of_ofInlines hchildren))
  | .strike _, _, h => by
      obtain ⟨_, hchildren, h⟩ := bind_eq_ok.mp h
      cases h
      exact List.forall_mem_singleton.mpr
        (.styled (by decide) (allReadInline_of_ofInlines hchildren))
  | .code attributes content, _, h => by
      cases h
      exact List.forall_mem_singleton.mpr (.code _ _)
  | .html content, _, h => by
      cases h
      exact List.forall_mem_singleton.mpr (.rawInline _)
  | .link _ _, _, h => by
      obtain ⟨_, hchildren, h⟩ := bind_eq_ok.mp h
      cases h
      exact List.forall_mem_singleton.mpr (.link _ _ (allReadInline_of_ofInlines hchildren))
  | .image _ _, _, h => by
      obtain ⟨_, hchildren, h⟩ := bind_eq_ok.mp h
      cases h
      exact List.forall_mem_singleton.mpr (.image _ _ (allReadInline_of_ofInlines hchildren))
  | .math _, _, h => by
      cases h
      exact List.forall_mem_singleton.mpr (.math _ _)
  | .footnoteReference, _, h => by
      cases h
      exact List.forall_mem_singleton.mpr .note

theorem allReadInline_of_ofInlines : ∀ {inlines : List Inline} {nodes : List Node},
    ofInlines inlines = .ok nodes → AllReadInline nodes
  | [], _, h => by
      cases h
      exact List.forall_mem_nil _
  | _ :: _, _, h => by
      obtain ⟨_, hfirst, h⟩ := bind_eq_ok.mp h
      obtain ⟨_, hothers, h⟩ := bind_eq_ok.mp h
      cases h
      exact List.forall_mem_append.mpr
        ⟨allReadInline_of_ofInline hfirst, allReadInline_of_ofInlines hothers⟩

end

/-! ### Reading blocks -/

theorem isReadCell_of_ofInlines {content : List Inline} {cell : List Node}
    (h : ((ofInlines content).map fun nodes => [Node.plain nodes]) = .ok cell) :
    IsReadCell cell := by
  cases hnodes : ofInlines content with
  | error cause =>
      rw [hnodes] at h
      cases h
  | ok nodes =>
      rw [hnodes] at h
      cases h
      exact ⟨nodes, rfl, allReadInline_of_ofInlines hnodes⟩

theorem isReadBlock_of_ofTable {columns : List (Alignment × List Inline)}
    {rows : List (List (List Inline))} {node : Node} (h : ofTable columns rows = .ok node)
    (hrows : ∀ row ∈ rows, row.length = columns.length) : IsReadBlock node := by
  obtain ⟨headings, hheadings, h⟩ := bind_eq_ok.mp h
  obtain ⟨cells, hcells, h⟩ := bind_eq_ok.mp h
  cases h
  obtain ⟨hlength, hcolumns⟩ := mapM_eq_ok hheadings
  refine .table ?_ ?_ ?_ ?_ ?_
  · rw [List.length_map, hlength]
  · rw [List.length_map, hlength]
  · exact List.forall_mem_map.mpr fun _ _ => rfl
  · intro cell hcell
    obtain ⟨column, _, hcell⟩ := hcolumns cell hcell
    exact isReadCell_of_ofInlines hcell
  · intro line hline
    obtain ⟨row, hrow, hline⟩ := (mapM_eq_ok hcells).2 line hline
    obtain ⟨hwidth, hread⟩ := mapM_eq_ok hline
    refine ⟨by rw [hwidth, hrows row hrow, hlength], fun cell hcell => ?_⟩
    obtain ⟨content, _, hcell⟩ := hread cell hcell
    exact isReadCell_of_ofInlines hcell

/-- Terms hold inline content, definitions hold blocks. -/
def PartIsRead : List Node ⊕ List Node → Prop
  | .inl term => AllReadInline term
  | .inr blocks => AllReadBlock blocks

theorem isRead_gather : ∀ {parts : List (List Node ⊕ List Node)},
    (∀ part ∈ parts, PartIsRead part) →
    (∀ blocks ∈ (gather parts).1, AllReadBlock blocks) ∧
      ∀ item ∈ (gather parts).2, AllReadInline item.1 ∧ ∀ blocks ∈ item.2, AllReadBlock blocks
  | [], _ => ⟨List.forall_mem_nil _, List.forall_mem_nil _⟩
  | .inl term :: rest, h => by
      obtain ⟨hterm, hrest⟩ := List.forall_mem_cons.mp h
      obtain ⟨hdefinitions, hitems⟩ := isRead_gather hrest
      exact ⟨List.forall_mem_nil _, List.forall_mem_cons.mpr ⟨⟨hterm, hdefinitions⟩, hitems⟩⟩
  | .inr blocks :: rest, h => by
      obtain ⟨hblocks, hrest⟩ := List.forall_mem_cons.mp h
      obtain ⟨hdefinitions, hitems⟩ := isRead_gather hrest
      exact ⟨List.forall_mem_cons.mpr ⟨hblocks, hdefinitions⟩, hitems⟩

mutual

theorem allReadBlock_of_ofBlock : ∀ {block : Block (List Inline)} {nodes : List Node},
    ofBlock block = .ok nodes → block.IsRectangular → AllReadBlock nodes
  | .frontMatter _, _, h, _ => by cases h
  | .paragraph true _, _, h, _ => by
      obtain ⟨_, hinlines, h⟩ := bind_eq_ok.mp h
      cases h
      exact List.forall_mem_singleton.mpr (.plain (allReadInline_of_ofInlines hinlines))
  | .paragraph false _, _, h, _ => by
      obtain ⟨_, hinlines, h⟩ := bind_eq_ok.mp h
      cases h
      exact List.forall_mem_singleton.mpr (.para (allReadInline_of_ofInlines hinlines))
  | .heading level _, _, h, _ => by
      obtain ⟨_, hinlines, h⟩ := bind_eq_ok.mp h
      cases h
      have hlevel : 1 ≤ (level.val + 1 : Int) ∧ (level.val + 1 : Int) ≤ 6 := by omega
      exact List.forall_mem_singleton.mpr (.header hlevel (allReadInline_of_ofInlines hinlines))
  | .fence _ _, _, h, _ => by
      cases h
      exact List.forall_mem_singleton.mpr (.codeBlock _ _)
  | .indentedCode _, _, h, _ => by
      cases h
      exact List.forall_mem_singleton.mpr (.codeBlock _ _)
  | .html _, _, h, _ => by
      cases h
      exact List.forall_mem_singleton.mpr (.rawBlock _)
  | .quote _, _, h, .quote hinner => by
      obtain ⟨_, hblocks, h⟩ := bind_eq_ok.mp h
      cases h
      exact List.forall_mem_singleton.mpr (.blockQuote (allReadBlock_of_ofBlocks hblocks hinner))
  | .bulletList _, _, h, .bulletList hinner => by
      obtain ⟨_, hitems, h⟩ := bind_eq_ok.mp h
      cases h
      exact List.forall_mem_singleton.mpr (.bulletList (allReadBlock_of_ofItems hitems hinner))
  | .orderedList _ _, _, h, .orderedList _ hinner => by
      obtain ⟨_, hitems, h⟩ := bind_eq_ok.mp h
      cases h
      exact List.forall_mem_singleton.mpr
        (.orderedList _ (allReadBlock_of_ofItems hitems hinner))
  | .definitionList _, _, h, .definitionList hinner => by
      obtain ⟨_, hparts, h⟩ := bind_eq_ok.mp h
      cases h
      have hitems := (isRead_gather (partIsRead_of_ofListedParts hparts hinner)).2
      exact List.forall_mem_singleton.mpr (.definitionList (fun item hitem => (hitems item hitem).1)
        fun item hitem => (hitems item hitem).2)
  | .rule, _, h, _ => by
      cases h
      exact List.forall_mem_singleton.mpr .horizontalRule
  | .table _ _, _, h, .table hrows => by
      obtain ⟨_, htable, h⟩ := bind_eq_ok.mp h
      cases h
      exact List.forall_mem_singleton.mpr (isReadBlock_of_ofTable htable hrows)
  | .math _, _, h, _ => by
      cases h
      refine List.forall_mem_singleton.mpr (.para ?_)
      exact List.forall_mem_singleton.mpr (.math _ _)
  | .footnote _, _, h, _ => by
      cases h
      exact List.forall_mem_nil _

theorem allReadBlock_of_ofBlocks : ∀ {blocks : List (Block (List Inline))} {nodes : List Node},
    ofBlocks blocks = .ok nodes → Block.AllRectangular blocks → AllReadBlock nodes
  | [], _, h, _ => by
      cases h
      exact List.forall_mem_nil _
  | _ :: _, _, h, hblocks => by
      obtain ⟨hblock, hrest⟩ := List.forall_mem_cons.mp hblocks
      obtain ⟨_, hfirst, h⟩ := bind_eq_ok.mp h
      obtain ⟨_, hothers, h⟩ := bind_eq_ok.mp h
      cases h
      exact List.forall_mem_append.mpr
        ⟨allReadBlock_of_ofBlock hfirst hblock, allReadBlock_of_ofBlocks hothers hrest⟩

theorem allReadBlock_of_ofItems : ∀ {items : List (List (Block (List Inline)))}
    {groups : List (List Node)}, ofItems items = .ok groups →
      (∀ blocks ∈ items, Block.AllRectangular blocks) → ∀ nodes ∈ groups, AllReadBlock nodes
  | [], _, h, _ => by
      cases h
      exact List.forall_mem_nil _
  | _ :: _, _, h, hitems => by
      obtain ⟨hblocks, hrest⟩ := List.forall_mem_cons.mp hitems
      obtain ⟨_, hfirst, h⟩ := bind_eq_ok.mp h
      obtain ⟨_, hothers, h⟩ := bind_eq_ok.mp h
      cases h
      exact List.forall_mem_cons.mpr
        ⟨allReadBlock_of_ofBlocks hfirst hblocks, allReadBlock_of_ofItems hothers hrest⟩

theorem partIsRead_of_ofParts : ∀ {parts : List (List Inline ⊕ List (Block (List Inline)))}
    {read : List (List Node ⊕ List Node)}, ofParts parts = .ok read →
      Block.PartsRectangular parts → ∀ part ∈ read, PartIsRead part
  | [], _, h, _ => by
      cases h
      exact List.forall_mem_nil _
  | .inl _ :: _, _, h, hparts => by
      have hrest := Block.partsRectangular_cons_inl.mp hparts
      obtain ⟨_, hfirst, h⟩ := bind_eq_ok.mp h
      obtain ⟨_, hothers, h⟩ := bind_eq_ok.mp h
      cases h
      exact List.forall_mem_cons.mpr
        ⟨allReadInline_of_ofInlines hfirst, partIsRead_of_ofParts hothers hrest⟩
  | .inr _ :: _, _, h, hparts => by
      obtain ⟨hblocks, hrest⟩ := Block.partsRectangular_cons_inr.mp hparts
      obtain ⟨_, hfirst, h⟩ := bind_eq_ok.mp h
      obtain ⟨_, hothers, h⟩ := bind_eq_ok.mp h
      cases h
      exact List.forall_mem_cons.mpr
        ⟨allReadBlock_of_ofBlocks hfirst hblocks, partIsRead_of_ofParts hothers hrest⟩

theorem partIsRead_of_ofListedParts :
    ∀ {parts : List (List Inline ⊕ List (Block (List Inline)))}
    {read : List (List Node ⊕ List Node)}, ofListedParts parts = .ok read →
      Block.PartsRectangular parts → ∀ part ∈ read, PartIsRead part
  | [], _, h, _ => by
      cases h
      exact List.forall_mem_nil _
  | .inl _ :: _, _, h, hparts => by
      have hrest := Block.partsRectangular_cons_inl.mp hparts
      obtain ⟨_, hfirst, h⟩ := bind_eq_ok.mp h
      obtain ⟨_, hothers, h⟩ := bind_eq_ok.mp h
      cases h
      exact List.forall_mem_cons.mpr
        ⟨allReadInline_of_ofInlines hfirst, partIsRead_of_ofParts hothers hrest⟩
  | .inr _ :: rest, read, h, hparts => by
      have hlisted : ofListedParts rest = .ok read := h
      exact partIsRead_of_ofListedParts hlisted (Block.partsRectangular_cons_inr.mp hparts).2

end

end Node

/-! ### Reading documents -/

namespace Document

open Node (AllReadInline AllReadBlock)

theorem allReadInline_of_readText {text : List Char} {nodes : List Node}
    (h : readText text = .ok nodes) : AllReadInline nodes := by
  unfold readText at h
  split at h
  · cases h
    exact List.forall_mem_nil _
  · split at h
    · exact Node.allReadInline_of_ofInlines (mapError_eq_ok h)
    · cases h

theorem mem_of_readMetadata {fromTitle metadata : Metadata}
    {parsed content : List (Block (List Inline))}
    (h : readMetadata fromTitle parsed = .ok (metadata, content)) :
    ∀ block ∈ content, block ∈ parsed := by
  unfold readMetadata at h
  split at h
  · obtain ⟨_, _, h⟩ := bind_eq_ok.mp h
    cases h
    exact fun block hblock => List.mem_cons_of_mem _ hblock
  · cases h
    exact fun block hblock => hblock

theorem isRead_of_read {source : List Char} {doc : Document} (h : read source = .ok doc) :
    AllReadInline doc.title ∧ AllReadInline doc.authors.flatten ∧ AllReadInline doc.date ∧
      AllReadBlock doc.blocks := by
  unfold read at h
  dsimp only at h
  split at h
  · cases h
  · rename_i parsed hparsed
    obtain ⟨⟨metadata, content⟩, hmetadata, h⟩ := bind_eq_ok.mp h
    obtain ⟨blocks, hblocks, h⟩ := bind_eq_ok.mp h
    obtain ⟨title, htitle, h⟩ := bind_eq_ok.mp h
    obtain ⟨authors, hauthors, h⟩ := bind_eq_ok.mp h
    obtain ⟨date, hdate, h⟩ := bind_eq_ok.mp h
    cases h
    refine ⟨allReadInline_of_readText htitle, ?_, allReadInline_of_readText hdate, ?_⟩
    · intro node hnode
      obtain ⟨nodes, hnodes, hnode⟩ := List.mem_flatten.mp hnode
      obtain ⟨text, _, htext⟩ := (mapM_eq_ok hauthors).2 nodes hnodes
      exact allReadInline_of_readText htext node hnode
    · refine Node.allReadBlock_of_ofBlocks (mapError_eq_ok hblocks) fun block hblock => ?_
      have hmem := mem_of_readMetadata hmetadata block hblock
      exact Markdown.allRectangular_of_parse? hparsed block hmem

/-- Every node of a document that is read is in the normal form of its kind. -/
theorem isNormal_of_read {source : List Char} {doc : Document} (h : read source = .ok doc) :
    ∀ node ∈ doc.nodes, node.IsNormal := by
  obtain ⟨htitle, hauthors, hdate, hblocks⟩ := isRead_of_read h
  have hinlines : AllReadInline (doc.title ++ doc.authors.flatten ++ doc.date) :=
    List.forall_mem_append.mpr ⟨List.forall_mem_append.mpr ⟨htitle, hauthors⟩, hdate⟩
  refine Node.forall_mem_allWithin.mpr (List.forall_mem_append.mpr ⟨?_, ?_⟩)
  · exact fun node hnode => Node.isNormal_of_isReadInline (hinlines node hnode)
  · exact fun node hnode => Node.isNormal_of_isReadBlock (hblocks node hnode)

end Document

end LiveDeck
