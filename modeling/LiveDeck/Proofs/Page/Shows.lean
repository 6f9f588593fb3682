import LiveDeck.Page.Render

/-! # Successful rendering as a relation

`Shows content html` relates a part of a document to its markup, one rule for each way in which
rendering can succeed.  `Content` names the kinds of parts that rendering visits, from a single node
to the rows of a table, so that what rendering keeps is one induction over one relation.
`shows_iff` says that the relation is exactly the success of the functions of `Page/Render`.

`Content.rendered` lists the nodes that rendering visits: not those in the description of an image,
nor those in a note. -/

namespace LiveDeck

theorem bind_eq_ok {ε α β : Type} {result : Except ε α} {next : α → Except ε β} {value : β} :
    result >>= next = .ok value ↔ ∃ first, result = .ok first ∧ next first = .ok value := by
  cases result with
  | error cause =>
      constructor
      · intro h
        cases h
      · rintro ⟨_, h, _⟩
        cases h
  | ok first =>
      constructor
      · intro h
        exact ⟨first, rfl, h⟩
      · rintro ⟨_, h, hnext⟩
        cases h
        exact hnext

/-! ### Visited nodes -/

namespace Node

mutual

/-- A node and the nodes in it that rendering visits. -/
def rendered (node : Node) : List Node :=
  node :: match node with
    | .styled _ inlines => allRendered inlines
    | .quoted _ inlines => allRendered inlines
    | .cite _ inlines => allRendered inlines
    | .link inlines _ _ => allRendered inlines
    | .plain inlines => allRendered inlines
    | .para inlines => allRendered inlines
    | .blockQuote blocks => allRendered blocks
    | .orderedList items _ => groupsRendered items
    | .bulletList items => groupsRendered items
    | .definitionList items => definitionsRendered items
    | .header _ inlines => allRendered inlines
    | .table caption _ _ headings rows =>
      allRendered caption ++ (groupsRendered headings ++ rowsRendered rows)
    | _ => []

/-- The nodes that rendering visits in a sequence of nodes. -/
def allRendered : List Node → List Node
  | [] => []
  | node :: rest => rendered node ++ allRendered rest

/-- The nodes that rendering visits in list items, definitions or cells. -/
def groupsRendered : List (List Node) → List Node
  | [] => []
  | nodes :: rest => allRendered nodes ++ groupsRendered rest

/-- The nodes that rendering visits in terms and their definitions. -/
def definitionsRendered : List (List Node × List (List Node)) → List Node
  | [] => []
  | (term, definitions) :: rest =>
    allRendered term ++ (groupsRendered definitions ++ definitionsRendered rest)

/-- The nodes that rendering visits in the rows of a table. -/
def rowsRendered : List (List (List Node)) → List Node
  | [] => []
  | cells :: rest => groupsRendered cells ++ rowsRendered rest

end

theorem mem_rendered_self (node : Node) : node ∈ node.rendered := by
  unfold rendered
  exact List.mem_cons_self

end Node

/-! ### The relation -/

/-- What is an element of its own: an item of a list, or a cell of a table. -/
inductive Wrapper where
  | item
  | cell

/-- The element of an item or a cell. -/
def Wrapper.tag : Wrapper → String
  | .item => "li"
  | .cell => "td"

/-- A part of a document in the role in which it is rendered.  The groups of `wrapped` have an
element each, those of `unwrapped` follow one another. -/
inductive Content where
  | inline (node : Node)
  | inlines (nodes : List Node)
  | block (node : Node)
  | blocks (nodes : List Node)
  | wrapped (wrapper : Wrapper) (groups : List (List Node))
  | unwrapped (groups : List (List Node))
  | definitions (items : List (List Node × List (List Node)))
  | rows (lines : List (List (List Node)))

namespace Content

/-- The markup of a part of a document. -/
def html : Content → Except RenderError (List Html)
  | .inline node => node.inlineHtml
  | .inlines nodes => Node.inlinesHtml nodes
  | .block node => node.blockHtml
  | .blocks nodes => Node.blocksHtml nodes
  | .wrapped wrapper groups => Node.wrappedHtml wrapper.tag groups
  | .unwrapped groups => Node.unwrappedHtml groups
  | .definitions items => Node.definitionsHtml items
  | .rows lines => Node.rowsHtml lines

/-- The nodes of a part of a document that rendering visits. -/
def rendered : Content → List Node
  | .inline node => node.rendered
  | .inlines nodes => Node.allRendered nodes
  | .block node => node.rendered
  | .blocks nodes => Node.allRendered nodes
  | .wrapped _ groups => Node.groupsRendered groups
  | .unwrapped groups => Node.groupsRendered groups
  | .definitions items => Node.definitionsRendered items
  | .rows lines => Node.rowsRendered lines

end Content

/-- A part of a document has the markup. -/
inductive Shows : Content → List Html → Prop
  | str (text : String) : Shows (.inline (.str text)) [.text text]
  | styled {inlines : List Node} {children : List Html} (style : Style) :
      Shows (.inlines inlines) children →
      Shows (.inline (.styled style inlines)) [.element style.tag [] children]
  | quoted {inlines : List Node} {children : List Html} (kind : QuoteKind) :
      Shows (.inlines inlines) children →
      Shows (.inline (.quoted kind inlines)) (.text kind.mark :: children ++ [.text kind.mark])
  | cite {inlines : List Node} {children : List Html} (citations : List String) :
      Shows (.inlines inlines) children →
      Shows (.inline (.cite citations inlines)) [.element "cite" [] children]
  | code (text : String) : Shows (.inline (.code urlCode text)) [.verbatim text]
  | space : Shows (.inline .space) [.hardSpace]
  | lineBreak : Shows (.inline .lineBreak) [.void "br" []]
  | rawInline (text : String) : Shows (.inline (.rawInline "html" text)) [.verbatim text]
  | link {inlines : List Node} {children : List Html} (url title : String) :
      Shows (.inlines inlines) children →
      Shows (.inline (.link inlines url title))
        [.element "a" [("href", url), ("title", title)] children]
  | image {inlines : List Node} {alt : String} (url title : String) :
      Node.plainTexts inlines = .ok alt →
      Shows (.inline (.image inlines url title)) [imageHtml url alt title]
  | noInlines : Shows (.inlines []) []
  | inlines {node : Node} {rest : List Node} {first others : List Html} :
      Shows (.inline node) first → Shows (.inlines rest) others →
      Shows (.inlines (node :: rest)) (first ++ others)
  | plain {inlines : List Node} {children : List Html} :
      Shows (.inlines inlines) children → Shows (.block (.plain inlines)) children
  | para {inlines : List Node} {children : List Html} :
      Shows (.inlines inlines) children →
      Shows (.block (.para inlines)) [.element "p" [] children]
  | codeBlock (attr : Attr) (text : String) :
      Shows (.block (.codeBlock attr text)) [codeBlockHtml attr text]
  | rawBlock (format text : String) : Shows (.block (.rawBlock format text)) [.verbatim text]
  | blockQuote {blocks : List Node} {children : List Html} :
      Shows (.blocks blocks) children →
      Shows (.block (.blockQuote blocks)) [.element "blockquote" [] children]
  | orderedList {items : List (List Node)} {children : List Html} (start : Int) :
      Shows (.wrapped .item items) children →
      Shows (.block (.orderedList items start)) [.element "ol" [] children]
  | bulletList {items : List (List Node)} {children : List Html} :
      Shows (.wrapped .item items) children →
      Shows (.block (.bulletList items)) [.element "ul" [] children]
  | definitionList {items : List (List Node × List (List Node))} {children : List Html} :
      Shows (.definitions items) children →
      Shows (.block (.definitionList items)) [.element "dl" [] children]
  | header {level : Int} {tag : String} {inlines : List Node} {children : List Html} :
      headerTag? level = some tag → Shows (.inlines inlines) children →
      Shows (.block (.header level inlines)) [.element tag [] children]
  | horizontalRule : Shows (.block .horizontalRule) [.void "hr" []]
  | table {caption : List Node} {headings : List (List Node)} {rows : List (List (List Node))}
      {title headerCells body : List Html} (alignments : List Alignment) (widths : List String) :
      Shows (.wrapped .cell headings) headerCells → Shows (.rows rows) body →
      Shows (.inlines caption) title →
      Shows (.block (.table caption alignments widths headings rows))
        [.element "table" []
          [.element "caption" [] title,
            .element "thead" [] [.element "tr" [] headerCells],
            .element "tbody" [] body]]
  | null : Shows (.block .null) []
  | noBlocks : Shows (.blocks []) []
  | blocks {node : Node} {rest : List Node} {first others : List Html} :
      Shows (.block node) first → Shows (.blocks rest) others →
      Shows (.blocks (node :: rest)) (first ++ others)
  | noneWrapped (wrapper : Wrapper) : Shows (.wrapped wrapper []) []
  | wrapped {wrapper : Wrapper} {blocks : List Node} {rest : List (List Node)}
      {children others : List Html} :
      Shows (.blocks blocks) children → Shows (.wrapped wrapper rest) others →
      Shows (.wrapped wrapper (blocks :: rest)) (.element wrapper.tag [] children :: others)
  | noneUnwrapped : Shows (.unwrapped []) []
  | unwrapped {blocks : List Node} {rest : List (List Node)} {first others : List Html} :
      Shows (.blocks blocks) first → Shows (.unwrapped rest) others →
      Shows (.unwrapped (blocks :: rest)) (first ++ others)
  | noDefinitions : Shows (.definitions []) []
  | definitions {term : List Node} {bodies : List (List Node)}
      {rest : List (List Node × List (List Node))} {title body others : List Html} :
      Shows (.inlines term) title → Shows (.unwrapped bodies) body →
      Shows (.definitions rest) others →
      Shows (.definitions ((term, bodies) :: rest)) (.element "dd" [] title :: body ++ others)
  | noRows : Shows (.rows []) []
  | rows {cells : List (List Node)} {rest : List (List (List Node))}
      {children others : List Html} :
      Shows (.wrapped .cell cells) children → Shows (.rows rest) others →
      Shows (.rows (cells :: rest)) (.element "tr" [] children :: others)

namespace Node

mutual

theorem shows_of_inlineHtml : ∀ {node : Node} {html : List Html},
    node.inlineHtml = .ok html → Shows (.inline node) html
  | .str text, _, h => by cases h; exact .str text
  | .styled style inlines, _, h => by
      obtain ⟨_, hchildren, h⟩ := bind_eq_ok.mp h
      cases h
      exact .styled style (shows_of_inlinesHtml hchildren)
  | .quoted kind inlines, _, h => by
      obtain ⟨_, hchildren, h⟩ := bind_eq_ok.mp h
      cases h
      exact .quoted kind (shows_of_inlinesHtml hchildren)
  | .cite citations inlines, _, h => by
      obtain ⟨_, hchildren, h⟩ := bind_eq_ok.mp h
      cases h
      exact .cite citations (shows_of_inlinesHtml hchildren)
  | .code attr text, _, h => by
      simp only [inlineHtml] at h
      split at h
      · rename_i hattr
        cases h
        rw [hattr]
        exact .code text
      · cases h
  | .space, _, h => by cases h; exact .space
  | .lineBreak, _, h => by cases h; exact .lineBreak
  | .math _ _, _, h => by cases h
  | .rawInline format text, _, h => by
      simp only [inlineHtml] at h
      split at h
      · rename_i hformat
        cases h
        rw [hformat]
        exact .rawInline text
      · cases h
  | .link inlines url title, _, h => by
      obtain ⟨_, hchildren, h⟩ := bind_eq_ok.mp h
      cases h
      exact .link url title (shows_of_inlinesHtml hchildren)
  | .image inlines url title, _, h => by
      simp only [inlineHtml] at h
      split at h
      · rename_i alt halt
        cases h
        exact .image url title halt
      · cases h
  | .note _, _, h => by cases h
  | .plain _, _, h => by cases h
  | .para _, _, h => by cases h
  | .codeBlock _ _, _, h => by cases h
  | .rawBlock _ _, _, h => by cases h
  | .blockQuote _, _, h => by cases h
  | .orderedList _ _, _, h => by cases h
  | .bulletList _, _, h => by cases h
  | .definitionList _, _, h => by cases h
  | .header _ _, _, h => by cases h
  | .horizontalRule, _, h => by cases h
  | .table _ _ _ _ _, _, h => by cases h
  | .null, _, h => by cases h

theorem shows_of_inlinesHtml : ∀ {nodes : List Node} {html : List Html},
    inlinesHtml nodes = .ok html → Shows (.inlines nodes) html
  | [], _, h => by cases h; exact .noInlines
  | node :: rest, _, h => by
      obtain ⟨_, hfirst, h⟩ := bind_eq_ok.mp h
      obtain ⟨_, hothers, h⟩ := bind_eq_ok.mp h
      cases h
      exact .inlines (shows_of_inlineHtml hfirst) (shows_of_inlinesHtml hothers)

end

mutual

theorem shows_of_blockHtml : ∀ {node : Node} {html : List Html},
    node.blockHtml = .ok html → Shows (.block node) html
  | .plain _, _, h => .plain (shows_of_inlinesHtml h)
  | .para _, _, h => by
      obtain ⟨_, hchildren, h⟩ := bind_eq_ok.mp h
      cases h
      exact .para (shows_of_inlinesHtml hchildren)
  | .codeBlock attr text, _, h => by cases h; exact .codeBlock attr text
  | .rawBlock format text, _, h => by cases h; exact .rawBlock format text
  | .blockQuote _, _, h => by
      obtain ⟨_, hchildren, h⟩ := bind_eq_ok.mp h
      cases h
      exact .blockQuote (shows_of_blocksHtml hchildren)
  | .orderedList _ start, _, h => by
      obtain ⟨_, hchildren, h⟩ := bind_eq_ok.mp h
      cases h
      exact .orderedList start (shows_of_wrappedHtml hchildren)
  | .bulletList _, _, h => by
      obtain ⟨_, hchildren, h⟩ := bind_eq_ok.mp h
      cases h
      exact .bulletList (shows_of_wrappedHtml hchildren)
  | .definitionList _, _, h => by
      obtain ⟨_, hchildren, h⟩ := bind_eq_ok.mp h
      cases h
      exact .definitionList (shows_of_definitionsHtml hchildren)
  | .header level _, _, h => by
      simp only [blockHtml] at h
      split at h
      · cases h
      · rename_i tag htag
        obtain ⟨_, hchildren, h⟩ := bind_eq_ok.mp h
        cases h
        exact .header htag (shows_of_inlinesHtml hchildren)
  | .horizontalRule, _, h => by cases h; exact .horizontalRule
  | .table _ alignments widths _ _, _, h => by
      obtain ⟨_, hcells, h⟩ := bind_eq_ok.mp h
      obtain ⟨_, hbody, h⟩ := bind_eq_ok.mp h
      obtain ⟨_, htitle, h⟩ := bind_eq_ok.mp h
      cases h
      exact .table alignments widths (shows_of_wrappedHtml hcells) (shows_of_rowsHtml hbody)
        (shows_of_inlinesHtml htitle)
  | .null, _, h => by cases h; exact .null
  | .str _, _, h => by cases h
  | .styled _ _, _, h => by cases h
  | .quoted _ _, _, h => by cases h
  | .cite _ _, _, h => by cases h
  | .code _ _, _, h => by cases h
  | .space, _, h => by cases h
  | .lineBreak, _, h => by cases h
  | .math _ _, _, h => by cases h
  | .rawInline _ _, _, h => by cases h
  | .link _ _ _, _, h => by cases h
  | .image _ _ _, _, h => by cases h
  | .note _, _, h => by cases h

theorem shows_of_blocksHtml : ∀ {nodes : List Node} {html : List Html},
    blocksHtml nodes = .ok html → Shows (.blocks nodes) html
  | [], _, h => by cases h; exact .noBlocks
  | node :: rest, _, h => by
      obtain ⟨_, hfirst, h⟩ := bind_eq_ok.mp h
      obtain ⟨_, hothers, h⟩ := bind_eq_ok.mp h
      cases h
      exact .blocks (shows_of_blockHtml hfirst) (shows_of_blocksHtml hothers)

theorem shows_of_wrappedHtml {wrapper : Wrapper} : ∀ {groups : List (List Node)}
    {html : List Html}, wrappedHtml wrapper.tag groups = .ok html →
      Shows (.wrapped wrapper groups) html
  | [], _, h => by cases h; exact .noneWrapped wrapper
  | blocks :: rest, _, h => by
      obtain ⟨_, hchildren, h⟩ := bind_eq_ok.mp h
      obtain ⟨_, hothers, h⟩ := bind_eq_ok.mp h
      cases h
      exact .wrapped (shows_of_blocksHtml hchildren) (shows_of_wrappedHtml hothers)

theorem shows_of_unwrappedHtml : ∀ {groups : List (List Node)} {html : List Html},
    unwrappedHtml groups = .ok html → Shows (.unwrapped groups) html
  | [], _, h => by cases h; exact .noneUnwrapped
  | blocks :: rest, _, h => by
      obtain ⟨_, hfirst, h⟩ := bind_eq_ok.mp h
      obtain ⟨_, hothers, h⟩ := bind_eq_ok.mp h
      cases h
      exact .unwrapped (shows_of_blocksHtml hfirst) (shows_of_unwrappedHtml hothers)

theorem shows_of_definitionsHtml : ∀ {items : List (List Node × List (List Node))}
    {html : List Html}, definitionsHtml items = .ok html → Shows (.definitions items) html
  | [], _, h => by cases h; exact .noDefinitions
  | (term, definitions) :: rest, _, h => by
      obtain ⟨_, htitle, h⟩ := bind_eq_ok.mp h
      obtain ⟨_, hbody, h⟩ := bind_eq_ok.mp h
      obtain ⟨_, hothers, h⟩ := bind_eq_ok.mp h
      cases h
      exact .definitions (shows_of_inlinesHtml htitle) (shows_of_unwrappedHtml hbody)
        (shows_of_definitionsHtml hothers)

theorem shows_of_rowsHtml : ∀ {rows : List (List (List Node))} {html : List Html},
    rowsHtml rows = .ok html → Shows (.rows rows) html
  | [], _, h => by cases h; exact .noRows
  | cells :: rest, _, h => by
      obtain ⟨_, hchildren, h⟩ := bind_eq_ok.mp h
      obtain ⟨_, hothers, h⟩ := bind_eq_ok.mp h
      cases h
      exact .rows (shows_of_wrappedHtml hchildren) (shows_of_rowsHtml hothers)

end

end Node

theorem html_of_shows {content : Content} {html : List Html} (h : Shows content html) :
    content.html = .ok html := by
  induction h with
  | str _ | space | lineBreak | noInlines | noBlocks | noneWrapped _ | noneUnwrapped
  | noDefinitions | noRows | codeBlock _ _ | rawBlock _ _ | horizontalRule | null => rfl
  | code text => simp only [Content.html, Node.inlineHtml, if_true]
  | rawInline text => simp only [Content.html, Node.inlineHtml, if_true]
  | image url title halt =>
      simp only [Content.html, Node.inlineHtml, halt]
  | plain _ ih => exact ih
  | header htag _ ih =>
      simp only [Content.html, Node.blockHtml, htag]
      exact bind_eq_ok.mpr ⟨_, ih, rfl⟩
  | table _ _ _ _ _ ihcells ihbody ihtitle =>
      refine bind_eq_ok.mpr ⟨_, ihcells, bind_eq_ok.mpr ⟨_, ihbody, ?_⟩⟩
      exact bind_eq_ok.mpr ⟨_, ihtitle, rfl⟩
  | definitions _ _ _ ihtitle ihbody ihothers =>
      refine bind_eq_ok.mpr ⟨_, ihtitle, bind_eq_ok.mpr ⟨_, ihbody, ?_⟩⟩
      exact bind_eq_ok.mpr ⟨_, ihothers, rfl⟩
  | styled _ _ ih | quoted _ _ ih | cite _ _ ih | link _ _ _ ih | para _ ih | blockQuote _ ih
  | orderedList _ _ ih | bulletList _ ih | definitionList _ ih =>
      exact bind_eq_ok.mpr ⟨_, ih, rfl⟩
  | inlines _ _ ihfirst ihothers | blocks _ _ ihfirst ihothers | wrapped _ _ ihfirst ihothers
  | unwrapped _ _ ihfirst ihothers | rows _ _ ihfirst ihothers =>
      exact bind_eq_ok.mpr ⟨_, ihfirst, bind_eq_ok.mpr ⟨_, ihothers, rfl⟩⟩

/-- The relation is the success of rendering. -/
theorem shows_iff {content : Content} {html : List Html} :
    Shows content html ↔ content.html = .ok html := by
  refine ⟨html_of_shows, fun h => ?_⟩
  cases content with
  | inline node => exact Node.shows_of_inlineHtml h
  | inlines nodes => exact Node.shows_of_inlinesHtml h
  | block node => exact Node.shows_of_blockHtml h
  | blocks nodes => exact Node.shows_of_blocksHtml h
  | wrapped wrapper groups => exact Node.shows_of_wrappedHtml h
  | unwrapped groups => exact Node.shows_of_unwrappedHtml h
  | definitions items => exact Node.shows_of_definitionsHtml h
  | rows lines => exact Node.shows_of_rowsHtml h

end LiveDeck
