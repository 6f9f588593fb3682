import LiveDeck.Page.Render

/-! # What stands in the way of a page

`Document.offences` lists everything in a document that has no rendering, in the order in which
nodes are visited.  The list goes on where rendering stops: it is collected over the whole tree,
whatever comes before.  An image contributes nothing but the failure of its description to be
text, a note nothing but itself.

`StopsAt` relates such a list to a computation that succeeds if the list is empty and otherwise
fails with its first member; it is preserved by sequencing (`StopsAt.bind`).  One lemma for each
kind of sequence says that rendering stops at the offences, and `render_iff` says what this means
for a document: there is a page exactly if there is no offence, and the first offence is what is
reported. -/

namespace LiveDeck

/-! ### Computations that stop at the first offence -/

/-- Succeeds if the list is empty, and fails with its first member otherwise. -/
def StopsAt {ε α : Type} (offences : List ε) (result : Except ε α) : Prop :=
  match offences with
  | [] => ∃ value, result = .ok value
  | first :: _ => result = .error first

section stopsAt

variable {ε α β : Type} {offences others : List ε} {result : Except ε α}

theorem stopsAt_ok (value : α) : StopsAt ([] : List ε) (.ok value) := ⟨value, rfl⟩

theorem stopsAt_error (cause : ε) : StopsAt [cause] (.error cause : Except ε α) := rfl

theorem StopsAt.bind {next : α → Except ε β} (h : StopsAt offences result)
    (hnext : ∀ value, StopsAt others (next value)) :
    StopsAt (offences ++ others) (result >>= next) := by
  cases offences with
  | nil =>
      obtain ⟨value, rfl⟩ := h
      exact hnext value
  | cons first rest =>
      have hresult : result = .error first := h
      rw [hresult]
      exact rfl

theorem StopsAt.map (h : StopsAt offences result) (f : α → β) :
    StopsAt offences (result >>= fun value => .ok (f value)) := by
  have := h.bind (fun value => stopsAt_ok (f value))
  rwa [List.append_nil] at this

theorem StopsAt.isOk_iff (h : StopsAt offences result) :
    (∃ value, result = .ok value) ↔ offences = [] := by
  cases offences with
  | nil => exact ⟨fun _ => rfl, fun _ => h⟩
  | cons first rest =>
      have hresult : result = .error first := h
      rw [hresult]
      simp

theorem StopsAt.error_iff (h : StopsAt offences result) (cause : ε) :
    result = .error cause ↔ offences.head? = some cause := by
  cases offences with
  | nil =>
      obtain ⟨value, rfl⟩ := h
      simp
  | cons first rest =>
      have hresult : result = .error first := h
      rw [hresult]
      simp

end stopsAt

/-! ### Offences -/

namespace Node

/-- A description is an offence only if it cannot be read as text. -/
def descriptionOffences (inlines : List Node) : List RenderError :=
  match plainTexts inlines with
  | .ok _ => []
  | .error cause => [.noInlines cause]

mutual

/-- The offences of a node where an inline is expected. -/
def inlineOffences : Node → List RenderError
  | .str _ => []
  | .styled _ inlines => inlinesOffences inlines
  | .quoted _ inlines => inlinesOffences inlines
  | .cite _ inlines => inlinesOffences inlines
  | .code attr _ => if attr = ⟨"", ["url"], []⟩ then [] else [.unsupported (.codeAttributes attr)]
  | .space => []
  | .lineBreak => []
  | .math _ _ => [.unsupported .math]
  | .rawInline format _ => if format = "html" then [] else [.unsupported (.rawFormat format)]
  | .link inlines _ _ => inlinesOffences inlines
  | .image inlines _ _ => descriptionOffences inlines
  | .note _ => [.unsupported .note]
  | node => [.unsupported (.inline node.kindName)]

/-- The offences of inline content. -/
def inlinesOffences : List Node → List RenderError
  | [] => []
  | node :: rest => inlineOffences node ++ inlinesOffences rest

end

/-- A header offends if no element is there for its level. -/
def levelOffences (level : Int) : List RenderError :=
  if 1 ≤ level ∧ level ≤ 6 then [] else [.unsupported (.headerLevel level)]

mutual

/-- The offences of a node where a block is expected. -/
def blockOffences : Node → List RenderError
  | .plain inlines => inlinesOffences inlines
  | .para inlines => inlinesOffences inlines
  | .codeBlock _ _ => []
  | .rawBlock _ _ => []
  | .blockQuote blocks => blocksOffences blocks
  | .orderedList items _ => groupsOffences items
  | .bulletList items => groupsOffences items
  | .definitionList items => definitionsOffences items
  | .header level inlines => levelOffences level ++ inlinesOffences inlines
  | .horizontalRule => []
  | .table caption _ _ headings rows =>
    groupsOffences headings ++ (rowsOffences rows ++ inlinesOffences caption)
  | .null => []
  | node => [.unsupported (.block node.kindName)]

/-- The offences of blocks in sequence. -/
def blocksOffences : List Node → List RenderError
  | [] => []
  | node :: rest => blockOffences node ++ blocksOffences rest

/-- The offences of list items, of definitions, or of the cells of a row. -/
def groupsOffences : List (List Node) → List RenderError
  | [] => []
  | blocks :: rest => blocksOffences blocks ++ groupsOffences rest

/-- The offences of terms, each followed by those of its definitions. -/
def definitionsOffences : List (List Node × List (List Node)) → List RenderError
  | [] => []
  | (term, definitions) :: rest =>
    inlinesOffences term ++ (groupsOffences definitions ++ definitionsOffences rest)

/-- The offences of the rows of a table. -/
def rowsOffences : List (List (List Node)) → List RenderError
  | [] => []
  | cells :: rest => groupsOffences cells ++ rowsOffences rest

end

end Node

/-- The offences of a document: the title on one line, the authors, the title, the date, the
blocks. -/
def Document.offences (doc : Document) : List RenderError :=
  Node.inlinesOffences (Node.allOnOneLine doc.title) ++
    (doc.authors.flatMap Node.inlinesOffences ++
      (Node.inlinesOffences doc.title ++
        (Node.inlinesOffences doc.date ++ Node.blocksOffences doc.blocks)))

/-! ### Rendering stops at the offences -/

namespace Node

theorem stopsAt_imageHtml (inlines : List Node) (url title : String) :
    StopsAt (inlineOffences (.image inlines url title)) (inlineHtml (.image inlines url title)) := by
  simp only [inlineOffences, descriptionOffences, inlineHtml]
  cases plainTexts inlines with
  | ok alt => exact stopsAt_ok _
  | error cause => exact stopsAt_error _

theorem stopsAt_codeHtml (attr : Attr) (text : String) :
    StopsAt (inlineOffences (.code attr text)) (inlineHtml (.code attr text)) := by
  by_cases h : attr = urlCode
  · have hoffences : inlineOffences (.code attr text) = [] := if_pos h
    rw [hoffences, inlineHtml, if_pos h]
    exact stopsAt_ok _
  · have hoffences : inlineOffences (.code attr text) = [.unsupported (.codeAttributes attr)] :=
      if_neg h
    rw [hoffences, inlineHtml, if_neg h]
    exact stopsAt_error _

mutual

theorem stopsAt_inlineHtml : ∀ node : Node, StopsAt (inlineOffences node) (inlineHtml node)
  | .str _ => stopsAt_ok _
  | .styled _ inlines => (stopsAt_inlinesHtml inlines).map _
  | .quoted _ inlines => (stopsAt_inlinesHtml inlines).map _
  | .cite _ inlines => (stopsAt_inlinesHtml inlines).map _
  | .code attr text => stopsAt_codeHtml attr text
  | .space => stopsAt_ok _
  | .lineBreak => stopsAt_ok _
  | .math _ _ => stopsAt_error _
  | .rawInline format _ => by
      simp only [inlineOffences, inlineHtml]
      split
      · exact stopsAt_ok _
      · exact stopsAt_error _
  | .link inlines _ _ => (stopsAt_inlinesHtml inlines).map _
  | .image inlines url title => stopsAt_imageHtml inlines url title
  | .note _ => stopsAt_error _
  | .plain _ => stopsAt_error _
  | .para _ => stopsAt_error _
  | .codeBlock _ _ => stopsAt_error _
  | .rawBlock _ _ => stopsAt_error _
  | .blockQuote _ => stopsAt_error _
  | .orderedList _ _ => stopsAt_error _
  | .bulletList _ => stopsAt_error _
  | .definitionList _ => stopsAt_error _
  | .header _ _ => stopsAt_error _
  | .horizontalRule => stopsAt_error _
  | .table _ _ _ _ _ => stopsAt_error _
  | .null => stopsAt_error _

theorem stopsAt_inlinesHtml : ∀ nodes : List Node,
    StopsAt (inlinesOffences nodes) (inlinesHtml nodes)
  | [] => stopsAt_ok _
  | node :: rest => (stopsAt_inlineHtml node).bind fun _ => (stopsAt_inlinesHtml rest).map _

end

theorem stopsAt_headerHtml (level : Int) (inlines : List Node) :
    StopsAt (blockOffences (.header level inlines)) (blockHtml (.header level inlines)) := by
  simp only [blockOffences, levelOffences, blockHtml, headerTag?]
  split
  · exact (stopsAt_inlinesHtml inlines).map _
  · exact rfl

mutual

theorem stopsAt_blockHtml : ∀ node : Node, StopsAt (blockOffences node) (blockHtml node)
  | .plain inlines => stopsAt_inlinesHtml inlines
  | .para inlines => (stopsAt_inlinesHtml inlines).map _
  | .codeBlock _ _ => stopsAt_ok _
  | .rawBlock _ _ => stopsAt_ok _
  | .blockQuote blocks => (stopsAt_blocksHtml blocks).map _
  | .orderedList items _ => (stopsAt_wrappedHtml "li" items).map _
  | .bulletList items => (stopsAt_wrappedHtml "li" items).map _
  | .definitionList items => (stopsAt_definitionsHtml items).map _
  | .header level inlines => stopsAt_headerHtml level inlines
  | .horizontalRule => stopsAt_ok _
  | .table caption _ _ headings rows =>
      (stopsAt_wrappedHtml "td" headings).bind fun _ =>
        (stopsAt_rowsHtml rows).bind fun _ => (stopsAt_inlinesHtml caption).map _
  | .null => stopsAt_ok _
  | .str _ => stopsAt_error _
  | .styled _ _ => stopsAt_error _
  | .quoted _ _ => stopsAt_error _
  | .cite _ _ => stopsAt_error _
  | .code _ _ => stopsAt_error _
  | .space => stopsAt_error _
  | .lineBreak => stopsAt_error _
  | .math _ _ => stopsAt_error _
  | .rawInline _ _ => stopsAt_error _
  | .link _ _ _ => stopsAt_error _
  | .image _ _ _ => stopsAt_error _
  | .note _ => stopsAt_error _

theorem stopsAt_blocksHtml : ∀ nodes : List Node,
    StopsAt (blocksOffences nodes) (blocksHtml nodes)
  | [] => stopsAt_ok _
  | node :: rest => (stopsAt_blockHtml node).bind fun _ => (stopsAt_blocksHtml rest).map _

theorem stopsAt_wrappedHtml (tag : String) : ∀ groups : List (List Node),
    StopsAt (groupsOffences groups) (wrappedHtml tag groups)
  | [] => stopsAt_ok _
  | blocks :: rest =>
      (stopsAt_blocksHtml blocks).bind fun _ => (stopsAt_wrappedHtml tag rest).map _

theorem stopsAt_unwrappedHtml : ∀ groups : List (List Node),
    StopsAt (groupsOffences groups) (unwrappedHtml groups)
  | [] => stopsAt_ok _
  | blocks :: rest =>
      (stopsAt_blocksHtml blocks).bind fun _ => (stopsAt_unwrappedHtml rest).map _

theorem stopsAt_definitionsHtml : ∀ items : List (List Node × List (List Node)),
    StopsAt (definitionsOffences items) (definitionsHtml items)
  | [] => stopsAt_ok _
  | (term, definitions) :: rest =>
      (stopsAt_inlinesHtml term).bind fun _ =>
        (stopsAt_unwrappedHtml definitions).bind fun _ => (stopsAt_definitionsHtml rest).map _

theorem stopsAt_rowsHtml : ∀ rows : List (List (List Node)),
    StopsAt (rowsOffences rows) (rowsHtml rows)
  | [] => stopsAt_ok _
  | cells :: rest => (stopsAt_wrappedHtml "td" cells).bind fun _ => (stopsAt_rowsHtml rest).map _

end

theorem inlinesOffences_append (nodes rest : List Node) :
    inlinesOffences (nodes ++ rest) = inlinesOffences nodes ++ inlinesOffences rest := by
  induction nodes with
  | nil => rfl
  | cons node nodes ih => simp only [List.cons_append, inlinesOffences, ih, List.append_assoc]

theorem inlinesOffences_flatten (groups : List (List Node)) :
    inlinesOffences groups.flatten = groups.flatMap inlinesOffences := by
  induction groups with
  | nil => rfl
  | cons group groups ih =>
      rw [List.flatten_cons, List.flatMap_cons, inlinesOffences_append, ih]

theorem blocksOffences_append (nodes rest : List Node) :
    blocksOffences (nodes ++ rest) = blocksOffences nodes ++ blocksOffences rest := by
  induction nodes with
  | nil => rfl
  | cons node nodes ih => simp only [List.cons_append, blocksOffences, ih, List.append_assoc]

end Node

theorem stopsAt_articlesHtml : ∀ groups : List (List Node),
    StopsAt (Node.blocksOffences groups.flatten) (articlesHtml groups)
  | [] => stopsAt_ok _
  | group :: rest => by
      rw [List.flatten_cons, Node.blocksOffences_append]
      exact (Node.stopsAt_blocksHtml group).bind fun _ => (stopsAt_articlesHtml rest).map _

namespace Document

theorem stopsAt_html (doc : Document) (stylesheet : String) :
    StopsAt doc.offences (doc.html stylesheet) := by
  have hauthors := Node.stopsAt_inlinesHtml doc.authors.flatten
  rw [Node.inlinesOffences_flatten] at hauthors
  have harticles := stopsAt_articlesHtml (slides doc.blocks)
  rw [flatten_slides] at harticles
  exact (Node.stopsAt_inlinesHtml _).bind fun _ => hauthors.bind fun _ =>
    (Node.stopsAt_inlinesHtml doc.title).bind fun _ =>
      (Node.stopsAt_inlinesHtml doc.date).bind fun _ => harticles.map _

theorem stopsAt_page (doc : Document) (stylesheet : String) :
    StopsAt doc.offences (doc.page stylesheet) :=
  (doc.stopsAt_html stylesheet).map printPage

/-- There is a page exactly if there is no offence, and then rendering gives that page.  Otherwise
the first offence is reported as the reason, with its wording in `Unsupported.message`, or is the
error if it is text that is missing. -/
theorem render_iff (doc : Document) (stylesheet : String) :
    ((∃ html, doc.render stylesheet = .ok (.page html)) ↔ doc.offences = []) ∧
      (∀ html, doc.render stylesheet = .ok (.page html) ↔ doc.page stylesheet = .ok html) ∧
      (∀ cause, doc.render stylesheet = .ok (.refused cause) ↔
        doc.offences.head? = some (.unsupported cause)) ∧
      (∀ cause, doc.render stylesheet = .error cause ↔
        doc.offences.head? = some (.noInlines cause)) := by
  have hpage := doc.stopsAt_page stylesheet
  rw [← hpage.isOk_iff]
  simp only [← hpage.error_iff]
  unfold render
  cases doc.page stylesheet with
  | ok html => simp
  | error cause =>
      cases cause with
      | unsupported cause => simp
      | noInlines cause => simp

end Document

end LiveDeck
