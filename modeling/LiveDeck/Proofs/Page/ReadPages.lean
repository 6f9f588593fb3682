import LiveDeck.Proofs.Document.Normal
import LiveDeck.Proofs.Document.Shape
import LiveDeck.Proofs.Page.Offences
import LiveDeck.Proofs.Page.Regular

/-! # Pages of sources

Of all that a document may hold and a page may not, a source can give three things only: formulas,
notes, and code in the line that is not marked as an address.  `render_of_read` says so: a document
that is read always renders to a page or is refused, it is refused exactly if one of the three is
rendered, and the reason names it.

The reason is the first of the three in the document (`stopsAt_page_of_read`): in the trees that the
reader builds, `offence?` gives the offences of `Proofs/Page/Offences` node by node.  Descriptions
add none, since inline content that is read can always be read as text. -/

namespace LiveDeck

namespace Node

/-! ### What stands in the way -/

/-- A formula, a note, or code in the line that is not marked as an address. -/
def IsObstacle : Node → Prop
  | .math _ _ => True
  | .note _ => True
  | .code attr _ => attr ≠ ⟨"", ["url"], []⟩
  | _ => False

/-- The offence of a node in a document that is read. -/
def offence? : Node → Option RenderError
  | .math _ _ => some (.unsupported .math)
  | .note _ => some (.unsupported .note)
  | .code attr _ =>
    if attr = ⟨"", ["url"], []⟩ then none else some (.unsupported (.codeAttributes attr))
  | _ => none

theorem offence?_eq_none_iff (node : Node) : node.offence? = none ↔ ¬ node.IsObstacle := by
  cases node with
  | code attr text => simp [offence?, IsObstacle]
  | _ => simp [offence?, IsObstacle]

/-- The wording of an offence in a document that is read. -/
theorem message_of_offence? {node : Node} {cause : RenderError} (h : node.offence? = some cause) :
    ∃ reason, cause = .unsupported reason ∧
      (reason.message = "math" ∨ reason.message = "note not supported" ∨
        ∃ attributes, reason.message = "inline code attributes: " ++ attributes) := by
  cases node with
  | math kind text =>
      cases h
      exact ⟨.math, rfl, Or.inl rfl⟩
  | note blocks =>
      cases h
      exact ⟨.note, rfl, Or.inr (Or.inl rfl)⟩
  | code attr text =>
      rw [offence?] at h
      split at h
      · cases h
      · cases h
        exact ⟨.codeAttributes attr, rfl, Or.inr (Or.inr ⟨attr.describe, rfl⟩)⟩
  | _ => cases h

/-! ### Descriptions -/

theorem plainTexts_of_forall_mem {nodes : List Node}
    (h : ∀ node ∈ nodes, ∃ text, plainText node = .ok text) :
    ∃ text, plainTexts nodes = .ok text := by
  induction nodes with
  | nil => exact ⟨"", rfl⟩
  | cons node nodes ih =>
      obtain ⟨⟨text, htext⟩, hrest⟩ := List.forall_mem_cons.mp h
      obtain ⟨texts, htexts⟩ := ih hrest
      exact ⟨text ++ texts, bind_eq_ok.mpr ⟨text, htext, bind_eq_ok.mpr ⟨texts, htexts, rfl⟩⟩⟩

theorem plainText_of_isReadInline {node : Node} (h : IsReadInline node) :
    ∃ text, plainText node = .ok text := by
  induction h with
  | styled _ _ ih | link _ _ _ ih | image _ _ _ ih => exact plainTexts_of_forall_mem ih
  | str _ _ | code _ _ | space | lineBreak | math _ _ | rawInline _ | note => exact ⟨_, rfl⟩

theorem descriptionOffences_of_allReadInline {inlines : List Node} (h : AllReadInline inlines) :
    descriptionOffences inlines = [] := by
  obtain ⟨text, htext⟩ := plainTexts_of_forall_mem fun node hnode =>
    plainText_of_isReadInline (h node hnode)
  rw [descriptionOffences, htext]

theorem descriptionOffences_allOnOneLine (inlines : List Node) :
    descriptionOffences (allOnOneLine inlines) = descriptionOffences inlines := by
  unfold descriptionOffences
  rcases (alike_plainTexts_allOnOneLine inlines).cases with ⟨_, hline, h⟩ | ⟨_, _, hline, h, _⟩
  · rw [hline, h]
  · rw [hline, h]

/-! ### Offences of inlines -/

theorem allRendered_append (nodes rest : List Node) :
    allRendered (nodes ++ rest) = allRendered nodes ++ allRendered rest := by
  induction nodes with
  | nil => rfl
  | cons node nodes ih => rw [List.cons_append, allRendered, allRendered, ih, List.append_assoc]

theorem inlinesOffences_of_forall_mem {nodes : List Node}
    (h : ∀ node ∈ nodes, inlineOffences node = node.rendered.filterMap offence?) :
    inlinesOffences nodes = (allRendered nodes).filterMap offence? := by
  induction nodes with
  | nil => rfl
  | cons node nodes ih =>
      obtain ⟨hnode, hnodes⟩ := List.forall_mem_cons.mp h
      rw [inlinesOffences, allRendered, List.filterMap_append, hnode, ih hnodes]

/-- The offences of an inline that is read are those of the nodes that are rendered. -/
theorem inlineOffences_of_isReadInline {node : Node} (h : IsReadInline node) :
    inlineOffences node = node.rendered.filterMap offence? := by
  induction h with
  | str _ _ | space | lineBreak | math _ _ | note => rfl
  | rawInline text => rw [inlineOffences, if_pos rfl]; rfl
  | code attr text =>
      have hrendered : rendered (.code attr text) = [.code attr text] := rfl
      rw [inlineOffences, hrendered]
      by_cases hattr : attr = ⟨"", ["url"], []⟩
      · have hoffence : offence? (.code attr text) = none := if_pos hattr
        rw [if_pos hattr, List.filterMap_cons_none hoffence]
        rfl
      · have hoffence : offence? (.code attr text) = some (.unsupported (.codeAttributes attr)) :=
          if_neg hattr
        rw [if_neg hattr, List.filterMap_cons_some hoffence]
        rfl
  | styled _ _ ih | link _ _ _ ih =>
      rw [inlineOffences, rendered, List.filterMap_cons_none rfl]
      exact inlinesOffences_of_forall_mem ih
  | image _ _ hinlines _ => exact descriptionOffences_of_allReadInline hinlines

theorem inlinesOffences_of_allReadInline {nodes : List Node} (h : AllReadInline nodes) :
    inlinesOffences nodes = (allRendered nodes).filterMap offence? :=
  inlinesOffences_of_forall_mem fun node hnode => inlineOffences_of_isReadInline (h node hnode)

theorem inlinesOffences_allOnOneLine_of_forall_mem {nodes : List Node}
    (h : ∀ node ∈ nodes, inlineOffences (onOneLine node) = inlineOffences node) :
    inlinesOffences (allOnOneLine nodes) = inlinesOffences nodes := by
  induction nodes with
  | nil => rfl
  | cons node nodes ih =>
      obtain ⟨hnode, hnodes⟩ := List.forall_mem_cons.mp h
      rw [allOnOneLine, inlinesOffences, inlinesOffences, hnode, ih hnodes]

theorem inlineOffences_onOneLine {node : Node} (h : IsReadInline node) :
    inlineOffences (onOneLine node) = inlineOffences node := by
  induction h with
  | str _ _ | space | lineBreak | math _ _ | note | code _ _ => rfl
  | rawInline text =>
      rw [onOneLine]
      split
      · rw [inlineOffences, inlineOffences, if_pos rfl]
      · rfl
  | styled _ _ ih | link _ _ _ ih => exact inlinesOffences_allOnOneLine_of_forall_mem ih
  | image _ _ _ _ => exact descriptionOffences_allOnOneLine _

/-! ### Offences of blocks -/

theorem blocksOffences_of_forall_mem {nodes : List Node}
    (h : ∀ node ∈ nodes, blockOffences node = node.rendered.filterMap offence?) :
    blocksOffences nodes = (allRendered nodes).filterMap offence? := by
  induction nodes with
  | nil => rfl
  | cons node nodes ih =>
      obtain ⟨hnode, hnodes⟩ := List.forall_mem_cons.mp h
      rw [blocksOffences, allRendered, List.filterMap_append, hnode, ih hnodes]

theorem groupsOffences_of_forall_mem {groups : List (List Node)}
    (h : ∀ nodes ∈ groups, blocksOffences nodes = (allRendered nodes).filterMap offence?) :
    groupsOffences groups = (groupsRendered groups).filterMap offence? := by
  induction groups with
  | nil => rfl
  | cons nodes groups ih =>
      obtain ⟨hnodes, hgroups⟩ := List.forall_mem_cons.mp h
      rw [groupsOffences, groupsRendered, List.filterMap_append, hnodes, ih hgroups]

theorem definitionsOffences_of_forall_mem {items : List (List Node × List (List Node))}
    (hterms : ∀ item ∈ items, AllReadInline item.1)
    (h : ∀ item ∈ items, groupsOffences item.2 = (groupsRendered item.2).filterMap offence?) :
    definitionsOffences items = (definitionsRendered items).filterMap offence? := by
  induction items with
  | nil => rfl
  | cons item items ih =>
      obtain ⟨hterm, hterms⟩ := List.forall_mem_cons.mp hterms
      obtain ⟨hitem, hitems⟩ := List.forall_mem_cons.mp h
      rw [definitionsOffences, definitionsRendered, List.filterMap_append, List.filterMap_append,
        inlinesOffences_of_allReadInline hterm, hitem, ih hterms hitems]

theorem groupsOffences_of_isReadCell {cells : List (List Node)}
    (h : ∀ cell ∈ cells, IsReadCell cell) :
    groupsOffences cells = (groupsRendered cells).filterMap offence? := by
  refine groupsOffences_of_forall_mem fun cell hcell => ?_
  obtain ⟨inlines, rfl, hinlines⟩ := h cell hcell
  refine blocksOffences_of_forall_mem (List.forall_mem_singleton.mpr ?_)
  rw [blockOffences, rendered, List.filterMap_cons_none rfl]
  exact inlinesOffences_of_allReadInline hinlines

theorem rowsOffences_of_isReadCell {rows : List (List (List Node))}
    (h : ∀ cells ∈ rows, ∀ cell ∈ cells, IsReadCell cell) :
    rowsOffences rows = (rowsRendered rows).filterMap offence? := by
  induction rows with
  | nil => rfl
  | cons cells rows ih =>
      obtain ⟨hcells, hrows⟩ := List.forall_mem_cons.mp h
      rw [rowsOffences, rowsRendered, List.filterMap_append, groupsOffences_of_isReadCell hcells,
        ih hrows]

/-- The offences of a block that is read are those of the nodes that are rendered. -/
theorem blockOffences_of_isReadBlock {node : Node} (h : IsReadBlock node) :
    blockOffences node = node.rendered.filterMap offence? := by
  induction h with
  | codeBlock _ _ | rawBlock _ | horizontalRule => rfl
  | plain hinlines | para hinlines =>
      rw [blockOffences, rendered, List.filterMap_cons_none rfl]
      exact inlinesOffences_of_allReadInline hinlines
  | header hlevel hinlines =>
      rw [blockOffences, levelOffences, if_pos hlevel, List.nil_append, rendered,
        List.filterMap_cons_none rfl]
      exact inlinesOffences_of_allReadInline hinlines
  | blockQuote _ ih =>
      rw [blockOffences, rendered, List.filterMap_cons_none rfl]
      exact blocksOffences_of_forall_mem ih
  | orderedList _ _ ih | bulletList _ ih =>
      rw [blockOffences, rendered, List.filterMap_cons_none rfl]
      exact groupsOffences_of_forall_mem fun blocks hblocks =>
        blocksOffences_of_forall_mem (ih blocks hblocks)
  | definitionList hterms _ ih =>
      rw [blockOffences, rendered, List.filterMap_cons_none rfl]
      refine definitionsOffences_of_forall_mem hterms fun item hitem => ?_
      exact groupsOffences_of_forall_mem fun blocks hblocks =>
        blocksOffences_of_forall_mem (ih item hitem blocks hblocks)
  | table _ _ _ hcells hrows =>
      rw [blockOffences, rendered, List.filterMap_cons_none rfl, inlinesOffences, List.append_nil,
        allRendered, List.nil_append, List.filterMap_append, groupsOffences_of_isReadCell hcells,
        rowsOffences_of_isReadCell fun cells hcells => (hrows cells hcells).2]

end Node

/-! ### Pages -/

theorem StopsAt.of_head? {ε α : Type} {offences others : List ε} {result : Except ε α}
    (h : StopsAt offences result) (hhead : offences.head? = others.head?) :
    StopsAt others result := by
  cases offences with
  | nil =>
      rw [List.head?_eq_none_iff.mp hhead.symm]
      exact h
  | cons first rest =>
      obtain ⟨rest, rfl⟩ := List.head?_eq_some_iff.mp hhead.symm
      exact h

namespace Document

open Node (offence?)

/-- Rendering a document that is read stops at the first formula, note or code in it. -/
theorem stopsAt_page_of_read {source : List Char} {doc : Document} (h : read source = .ok doc)
    (stylesheet : String) :
    StopsAt (doc.rendered.filterMap offence?) (doc.page stylesheet) := by
  obtain ⟨htitle, hauthors, hdate, hblocks⟩ := isRead_of_read h
  have hline := Node.inlinesOffences_allOnOneLine_of_forall_mem fun node hnode =>
    Node.inlineOffences_onOneLine (htitle node hnode)
  have hoffences := Node.blocksOffences_of_forall_mem fun node hnode =>
    Node.blockOffences_of_isReadBlock (hblocks node hnode)
  refine (doc.stopsAt_page stylesheet).of_head? ?_
  rw [offences, hline, ← Node.inlinesOffences_flatten,
    Node.inlinesOffences_of_allReadInline htitle, Node.inlinesOffences_of_allReadInline hauthors,
    Node.inlinesOffences_of_allReadInline hdate, hoffences]
  simp only [rendered, Node.allRendered_append, List.filterMap_append, List.append_assoc]
  cases (Node.allRendered doc.title).filterMap offence? with
  | nil => rfl
  | cons first rest => rfl

/-- Every document that is read is in normal form, and rendering it gives a page or a reason.
There is a page exactly if no formula, no note and no code other than an address is rendered, and
otherwise the reason is one of these three. -/
theorem render_of_read {source : List Char} {doc : Document} (h : read source = .ok doc)
    (stylesheet : String) :
    (∀ node ∈ doc.nodes, node.IsNormal) ∧
      (∃ rendering, doc.render stylesheet = .ok rendering) ∧
      ((∃ html, doc.render stylesheet = .ok (.page html)) ↔
        ∀ node ∈ doc.rendered, ¬ node.IsObstacle) ∧
      ∀ reason, doc.render stylesheet = .ok (.refused reason) →
        reason.message = "math" ∨ reason.message = "note not supported" ∨
          ∃ attributes, reason.message = "inline code attributes: " ++ attributes := by
  have hpage := stopsAt_page_of_read h stylesheet
  have hcause : ∀ cause, doc.page stylesheet = .error cause →
      ∃ reason, cause = .unsupported reason ∧
        (reason.message = "math" ∨ reason.message = "note not supported" ∨
          ∃ attributes, reason.message = "inline code attributes: " ++ attributes) := by
    intro cause hcause
    have hfirst := List.mem_of_head? ((hpage.error_iff cause).mp hcause)
    obtain ⟨node, _, hnode⟩ := List.mem_filterMap.mp hfirst
    exact Node.message_of_offence? hnode
  have hnone : doc.rendered.filterMap offence? = [] ↔ ∀ node ∈ doc.rendered, ¬ node.IsObstacle := by
    simp only [List.filterMap_eq_nil_iff, Node.offence?_eq_none_iff]
  refine ⟨isNormal_of_read h, ?_⟩
  rw [← hnone, ← hpage.isOk_iff, render]
  cases hresult : doc.page stylesheet with
  | ok html => simp
  | error cause =>
      obtain ⟨reason, rfl, hmessage⟩ := hcause cause hresult
      simpa using hmessage

/-- A table with an image in it; the formula in the description of the image does no harm. -/
theorem render_of_read_of_formula_in_description :
    ∃ doc, read "|a|\n|-|\n|![$x$](b)|".toList = .ok doc ∧ (∀ node ∈ doc.nodes, node.IsNormal) ∧
      ∃ html, doc.render "a.css" = .ok (.page html) := by
  have hread : read "|a|\n|-|\n|![$x$](b)|".toList = .ok { blocks :=
      [.table [] [.standard] ["0.0"] [[.plain [.str "a"]]]
        [[[.plain [.image [.math .inline "x"] "b" ""]]]]] } := by
    with_unfolding_all rfl
  obtain ⟨hnormal, _, hpage, _⟩ := render_of_read hread "a.css"
  refine ⟨_, hread, hnormal, hpage.mpr ?_⟩
  simp [rendered, Node.allRendered, Node.rendered, Node.groupsRendered, Node.rowsRendered,
    Node.IsObstacle]

end Document

end LiveDeck
