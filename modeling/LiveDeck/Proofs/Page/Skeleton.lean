import LiveDeck.Proofs.Document.Shape
import LiveDeck.Proofs.Page.Nesting

/-! # Text does not decide the markup

The skeleton of markup is what is left of it without text and without the values of attributes: its
tags in order, each with the names of its attributes in order.  `skeleton_page` says that documents
of one shape have pages of one skeleton, or no page for one reason, whatever their words, addresses
and descriptions are, and whatever the address of the stylesheet is.

The frames of a tree (`Html.allFrames`) are the skeleton that its markup is to have.  Each function
of `Page/Render` gives results of the same frames for a document and for its shape, so the theorem
about two documents compares each of them with the shape they share. -/

namespace LiveDeck

open Markup

/-! ### Skeletons -/

namespace Markup

/-- The content of a tag without what stands between double quotes; `inside` says whether the
beginning does. -/
def withoutValues (inside : Bool) : List Char → List Char
  | [] => []
  | c :: s =>
    if c = '"' then c :: withoutValues (!inside) s
    else if inside then withoutValues inside s
    else c :: withoutValues inside s

/-- What a piece of markup adds to the skeleton. -/
def Piece.frame? : Piece → Option (List Char)
  | .char _ => none
  | .reference _ => none
  | .tag content => some (withoutValues false content)
  | .unclosed content => some content

/-- The tags of markup, without the values of their attributes. -/
def skeleton (markup : String) : List (List Char) := (scan markup.toList).filterMap Piece.frame?

theorem withoutValues_outside {s : List Char} (h : '"' ∉ s) (rest : List Char) :
    withoutValues false (s ++ rest) = s ++ withoutValues false rest := by
  induction s with
  | nil => rfl
  | cons c s ih =>
      rw [List.mem_cons, not_or] at h
      rw [List.cons_append, withoutValues, if_neg (Ne.symm h.1), if_neg Bool.false_ne_true, ih h.2,
        List.cons_append]

theorem withoutValues_inside {s : List Char} (h : '"' ∉ s) (rest : List Char) :
    withoutValues true (s ++ '"' :: rest) = '"' :: withoutValues false rest := by
  induction s with
  | nil => rfl
  | cons c s ih =>
      rw [List.mem_cons, not_or] at h
      rw [List.cons_append, withoutValues, if_neg (Ne.symm h.1), if_pos rfl, ih h.2]

theorem withoutValues_printAttribute {name : String} (hname : isName name = true) (value : String)
    (rest : List Char) :
    withoutValues false ((Html.printAttribute (name, value)).toList ++ rest) =
      ' ' :: (name.toList ++ '=' :: '"' :: '"' :: withoutValues false rest) := by
  have hvalue : '"' ∉ (Text.escapeValue value).toList :=
    Text.not_mem_escapeValue (Or.inr (Or.inr rfl)) value
  have hbefore : '"' ∉ ' ' :: (name.toList ++ ['=']) := by
    have hquote : '"' ∉ name.toList := not_mem_of_isName hname (by decide)
    simp [hquote]
  have hprinted : (Html.printAttribute (name, value)).toList ++ rest =
      (' ' :: (name.toList ++ ['='])) ++
        '"' :: ((Text.escapeValue value).toList ++ '"' :: rest) := by
    rw [toList_printAttribute]
    simp
  rw [hprinted, withoutValues_outside hbefore, withoutValues, if_pos rfl]
  rw [Bool.not_false, withoutValues_inside hvalue]
  simp

theorem withoutValues_tagContent {tag : String} {names : List String}
    {attributes others : List (String × String)} (htag : isName tag = true)
    (hnames : names.all isName = true) (h : attributes.map Prod.fst = names)
    (hothers : others.map Prod.fst = names) :
    withoutValues false (tagContent tag attributes) =
      withoutValues false (tagContent tag others) := by
  have hquote : '"' ∉ tag.toList := not_mem_of_isName htag (by decide)
  rw [tagContent, tagContent, withoutValues_outside hquote, withoutValues_outside hquote]
  congr 1
  induction names generalizing attributes others with
  | nil => rw [List.map_eq_nil_iff.mp h, List.map_eq_nil_iff.mp hothers]
  | cons name names ih =>
      obtain ⟨⟨key, value⟩, attributes, rfl, rfl, htail⟩ := List.map_eq_cons_iff.mp h
      obtain ⟨⟨_, other⟩, others, rfl, hkey, hothersTail⟩ := List.map_eq_cons_iff.mp hothers
      cases hkey
      rw [List.all_cons, Bool.and_eq_true] at hnames
      rw [List.flatMap_cons, List.flatMap_cons, withoutValues_printAttribute hnames.1,
        withoutValues_printAttribute hnames.1, ih hnames.2 htail hothersTail]

end Markup

/-! ### Frames of trees -/

namespace Html

/-- The skeleton that the markup of trees is to have. -/
def allFrames (html : List Html) : List (List Char) := (allPieces html).filterMap Piece.frame?

theorem allFrames_append (html rest : List Html) :
    allFrames (html ++ rest) = allFrames html ++ allFrames rest := by
  rw [allFrames, allPieces_append, List.filterMap_append]
  rfl

theorem allFrames_append_congr {html other rest others : List Html}
    (h : allFrames html = allFrames other) (hrest : allFrames rest = allFrames others) :
    allFrames (html ++ rest) = allFrames (other ++ others) := by
  rw [allFrames_append, allFrames_append, h, hrest]

theorem allFrames_text (content : String) : allFrames [.text content] = [] := by
  rw [allFrames, allPieces, allPieces, List.append_nil, pieces, List.filterMap_map,
    List.filterMap_eq_nil_iff]
  intro c _
  rw [Function.comp_apply, Piece.ofChar]
  split <;> rfl

theorem allFrames_cons_text (content : String) (rest : List Html) :
    allFrames (.text content :: rest) = allFrames rest := by
  rw [← List.singleton_append, allFrames_append, allFrames_text, List.nil_append]

theorem allFrames_element (tag : String) (attributes : List (String × String))
    (children rest : List Html) :
    allFrames (.element tag attributes children :: rest) =
      withoutValues false (tagContent tag attributes) :: (allFrames children ++
        withoutValues false ('/' :: tag.toList) :: allFrames rest) := by
  simp only [allFrames, allPieces, pieces, List.cons_append, List.filterMap_cons, Piece.frame?,
    List.filterMap_append, List.append_assoc, List.nil_append]

theorem allFrames_void (tag : String) (attributes : List (String × String)) (rest : List Html) :
    allFrames (.void tag attributes :: rest) =
      withoutValues false (tagContent tag attributes) :: allFrames rest := by
  simp only [allFrames, allPieces, pieces, List.cons_append, List.filterMap_cons, Piece.frame?,
    List.nil_append]

theorem allFrames_element_congr {tag : String}
    {attributes otherAttributes : List (String × String)}
    {children others rest restOthers : List Html}
    (htag : withoutValues false (tagContent tag attributes) =
      withoutValues false (tagContent tag otherAttributes))
    (h : allFrames children = allFrames others) (hrest : allFrames rest = allFrames restOthers) :
    allFrames (.element tag attributes children :: rest) =
      allFrames (.element tag otherAttributes others :: restOthers) := by
  rw [allFrames_element, allFrames_element, htag, h, hrest]

theorem allFrames_void_congr {tag : String} {attributes otherAttributes : List (String × String)}
    {rest others : List Html}
    (htag : withoutValues false (tagContent tag attributes) =
      withoutValues false (tagContent tag otherAttributes))
    (hrest : allFrames rest = allFrames others) :
    allFrames (.void tag attributes :: rest) = allFrames (.void tag otherAttributes :: others) := by
  rw [allFrames_void, allFrames_void, htag, hrest]

theorem allFrames_imageHtml (url alt title otherUrl otherAlt otherTitle : String) :
    allFrames [imageHtml url alt title] = allFrames [imageHtml otherUrl otherAlt otherTitle] := by
  have hnames : ["src", "alt", "title", "class"].all isName = true := by decide
  exact allFrames_void_congr (withoutValues_tagContent (by decide) hnames rfl rfl) rfl

theorem allFrames_link {children others : List Html} (url title otherUrl otherTitle : String)
    (h : allFrames children = allFrames others) :
    allFrames [.element "a" [("href", url), ("title", title)] children] =
      allFrames [.element "a" [("href", otherUrl), ("title", otherTitle)] others] := by
  have hnames : ["href", "title"].all isName = true := by decide
  exact allFrames_element_congr (withoutValues_tagContent (by decide) hnames rfl rfl) h rfl

/-- Printed trees have their frames as skeleton. -/
theorem skeleton_printPage {root : Html} (h : root.Regular (fun _ => False)) :
    skeleton (printPage root) = documentType :: allFrames [root] := by
  have hdeclaration : (Piece.tag documentType).frame? = some documentType := by decide
  rw [skeleton, toList_printPage, scan_tag (by decide), scan_cons_of_ne (by decide) (by decide),
    scan_print_eq (fun _ h => h.elim) h, List.filterMap_cons_some hdeclaration, allFrames,
    allPieces, allPieces, List.append_nil]
  rfl

end Html

open Html (allFrames)

/-- Both cannot be rendered for the same reason, or both can and the frames are the same. -/
abbrev SameFrames (first second : Except RenderError (List Html)) : Prop :=
  AlikeUpTo allFrames first second

namespace SameFrames

variable {first second others rest : Except RenderError (List Html)}

theorem element (tag : String) (h : SameFrames first second) :
    SameFrames (do let children ← first; .ok [.element tag [] children])
      (do let children ← second; .ok [.element tag [] children]) :=
  h.map fun _ _ hframes => Html.allFrames_element_congr rfl hframes rfl

theorem link (url title otherUrl otherTitle : String) (h : SameFrames first second) :
    SameFrames
      (do let html ← first; .ok [.element "a" [("href", url), ("title", title)] html])
      (do let html ← second; .ok [.element "a" [("href", otherUrl), ("title", otherTitle)] html]) :=
  h.map fun _ _ hframes => Html.allFrames_link url title otherUrl otherTitle hframes

theorem quoted (mark : String) (h : SameFrames first second) :
    SameFrames (do let children ← first; .ok (.text mark :: children ++ [.text mark]))
      (do let children ← second; .ok (.text mark :: children ++ [.text mark])) :=
  h.map fun a b hframes => by
    rw [List.cons_append, List.cons_append, Html.allFrames_cons_text, Html.allFrames_cons_text]
    exact Html.allFrames_append_congr hframes rfl

theorem append (h : SameFrames first second) (hrest : SameFrames others rest) :
    SameFrames (do let html ← first; let more ← others; .ok (html ++ more))
      (do let html ← second; let more ← rest; .ok (html ++ more)) :=
  h.bind fun _ _ hframes => hrest.map fun _ _ hmore => Html.allFrames_append_congr hframes hmore

theorem cons (tag : String) (h : SameFrames first second) (hrest : SameFrames others rest) :
    SameFrames (do let html ← first; let more ← others; .ok (.element tag [] html :: more))
      (do let html ← second; let more ← rest; .ok (.element tag [] html :: more)) :=
  h.bind fun _ _ hframes => hrest.map fun _ _ hmore =>
    Html.allFrames_element_congr rfl hframes hmore

end SameFrames

namespace Node

/-! ### Inlines -/

theorem sameFrames_image {inlines others : List Node} (url title otherUrl otherTitle : String)
    (h : SameFault (plainTexts inlines) (plainTexts others)) :
    SameFrames (inlineHtml (.image inlines url title))
      (inlineHtml (.image others otherUrl otherTitle)) := by
  rw [inlineHtml, inlineHtml]
  rcases h.cases with ⟨cause, hfirst, hsecond⟩ | ⟨alt, otherAlt, hfirst, hsecond, _⟩
  · rw [hfirst, hsecond]
    rfl
  · rw [hfirst, hsecond]
    exact alikeUpTo_ok (Html.allFrames_imageHtml url alt title otherUrl otherAlt otherTitle)

mutual

theorem sameFrames_inlineHtml : ∀ node : Node,
    SameFrames (inlineHtml (shape false node)) (inlineHtml node)
  | .str text => alikeUpTo_ok ((Html.allFrames_text "").trans (Html.allFrames_text text).symm)
  | .styled style inlines => (sameFrames_inlinesHtml inlines).element style.tag
  | .quoted kind inlines => (sameFrames_inlinesHtml inlines).quoted kind.mark
  | .cite _ inlines => (sameFrames_inlinesHtml inlines).element "cite"
  | .link inlines url title => (sameFrames_inlinesHtml inlines).link "" "" url title
  | .image inlines url title =>
      sameFrames_image "" "" url title (alike_plainTexts_shapes true inlines)
  | .code _ _ => rfl
  | .space => rfl
  | .lineBreak => rfl
  | .math _ _ => rfl
  | .rawInline _ _ => rfl
  | .note _ => rfl
  | .plain _ => rfl
  | .para _ => rfl
  | .codeBlock _ _ => rfl
  | .rawBlock _ _ => rfl
  | .blockQuote _ => rfl
  | .orderedList _ _ => rfl
  | .bulletList _ => rfl
  | .definitionList _ => rfl
  | .header _ _ => rfl
  | .horizontalRule => rfl
  | .table _ _ _ _ _ => rfl
  | .null => rfl

theorem sameFrames_inlinesHtml : ∀ nodes : List Node,
    SameFrames (inlinesHtml (shapes false nodes)) (inlinesHtml nodes)
  | [] => rfl
  | node :: rest => (sameFrames_inlineHtml node).append (sameFrames_inlinesHtml rest)

end

mutual

theorem sameFrames_onOneLine : ∀ node : Node,
    SameFrames (inlineHtml (onOneLine (shape false node))) (inlineHtml (onOneLine node))
  | .str text => alikeUpTo_ok ((Html.allFrames_text _).trans (Html.allFrames_text _).symm)
  | .styled style inlines => (sameFrames_allOnOneLine inlines).element style.tag
  | .quoted kind inlines => (sameFrames_allOnOneLine inlines).quoted kind.mark
  | .cite _ inlines => (sameFrames_allOnOneLine inlines).element "cite"
  | .link inlines url title => (sameFrames_allOnOneLine inlines).link "" "" url title
  | .image inlines url title => by
      have hshapes := (alike_plainTexts_allOnOneLine (shapes true inlines)).trans
        (alike_plainTexts_shapes true inlines)
      exact sameFrames_image "" "" url title
        (hshapes.trans (alike_plainTexts_allOnOneLine inlines).symm)
  | .code _ _ => rfl
  | .space => rfl
  | .lineBreak => rfl
  | .math _ _ => rfl
  | .rawInline _ _ => rfl
  | .note _ => rfl
  | .plain _ => rfl
  | .para _ => rfl
  | .codeBlock _ _ => rfl
  | .rawBlock _ _ => rfl
  | .blockQuote _ => rfl
  | .orderedList _ _ => rfl
  | .bulletList _ => rfl
  | .definitionList _ => rfl
  | .header _ _ => rfl
  | .horizontalRule => rfl
  | .table _ _ _ _ _ => rfl
  | .null => rfl

theorem sameFrames_allOnOneLine : ∀ nodes : List Node,
    SameFrames (inlinesHtml (allOnOneLine (shapes false nodes))) (inlinesHtml (allOnOneLine nodes))
  | [] => rfl
  | node :: rest => (sameFrames_onOneLine node).append (sameFrames_allOnOneLine rest)

end

/-! ### Blocks -/

theorem allFrames_codeBlockHtml (attr : Attr) (text : String) :
    allFrames [codeBlockHtml attr (if false || !attr.namesLanguage then "" else text)] =
      allFrames [codeBlockHtml attr text] := by
  cases hlanguage : attr.namesLanguage with
  | true => rfl
  | false =>
      have hnone : ∀ name ∈ attr.classes, Code.lexer? name = none := by
        simpa [Attr.namesLanguage] using hlanguage
      rw [codeBlockHtml_eq _ hnone, codeBlockHtml_eq _ hnone]
      refine Html.allFrames_element_congr rfl ?_ rfl
      exact (Html.allFrames_text _).trans (Html.allFrames_text text).symm

mutual

theorem sameFrames_blockHtml : ∀ node : Node,
    SameFrames (blockHtml (shape false node)) (blockHtml node)
  | .plain inlines => sameFrames_inlinesHtml inlines
  | .para inlines => (sameFrames_inlinesHtml inlines).element "p"
  | .codeBlock attr text => alikeUpTo_ok (allFrames_codeBlockHtml attr text)
  | .rawBlock _ _ => rfl
  | .blockQuote blocks => (sameFrames_blocksHtml blocks).element "blockquote"
  | .orderedList items _ => (sameFrames_wrappedHtml "li" items).element "ol"
  | .bulletList items => (sameFrames_wrappedHtml "li" items).element "ul"
  | .definitionList items => (sameFrames_definitionsHtml items).element "dl"
  | .header level inlines => by
      rw [shape, blockHtml, blockHtml]
      cases headerTag? level with
      | none => rfl
      | some tag => exact (sameFrames_inlinesHtml inlines).element tag
  | .horizontalRule => rfl
  | .table caption alignments widths headings rows => by
      refine (sameFrames_wrappedHtml "td" headings).bind fun cells others hcells => ?_
      refine (sameFrames_rowsHtml rows).bind fun body otherBody hbody => ?_
      refine (sameFrames_inlinesHtml caption).map fun title otherTitle htitle => ?_
      have hhead : allFrames [.element "tr" [] cells] = allFrames [.element "tr" [] others] :=
        Html.allFrames_element_congr rfl hcells rfl
      refine Html.allFrames_element_congr rfl ?_ rfl
      refine Html.allFrames_element_congr rfl htitle ?_
      refine Html.allFrames_element_congr rfl hhead ?_
      exact Html.allFrames_element_congr rfl hbody rfl
  | .null => rfl
  | .str _ => rfl
  | .styled _ _ => rfl
  | .quoted _ _ => rfl
  | .cite _ _ => rfl
  | .code _ _ => rfl
  | .space => rfl
  | .lineBreak => rfl
  | .math _ _ => rfl
  | .rawInline _ _ => rfl
  | .link _ _ _ => rfl
  | .image _ _ _ => rfl
  | .note _ => rfl

theorem sameFrames_blocksHtml : ∀ nodes : List Node,
    SameFrames (blocksHtml (shapes false nodes)) (blocksHtml nodes)
  | [] => rfl
  | node :: rest => (sameFrames_blockHtml node).append (sameFrames_blocksHtml rest)

theorem sameFrames_wrappedHtml (tag : String) : ∀ groups : List (List Node),
    SameFrames (wrappedHtml tag (groupShapes false groups)) (wrappedHtml tag groups)
  | [] => rfl
  | nodes :: rest => (sameFrames_blocksHtml nodes).cons tag (sameFrames_wrappedHtml tag rest)

theorem sameFrames_unwrappedHtml : ∀ groups : List (List Node),
    SameFrames (unwrappedHtml (groupShapes false groups)) (unwrappedHtml groups)
  | [] => rfl
  | nodes :: rest => (sameFrames_blocksHtml nodes).append (sameFrames_unwrappedHtml rest)

theorem sameFrames_definitionsHtml : ∀ items : List (List Node × List (List Node)),
    SameFrames (definitionsHtml (definitionShapes false items)) (definitionsHtml items)
  | [] => rfl
  | (term, definitions) :: rest => by
      refine (sameFrames_inlinesHtml term).bind fun title otherTitle htitle => ?_
      refine (sameFrames_unwrappedHtml definitions).bind fun body otherBody hbody => ?_
      refine (sameFrames_definitionsHtml rest).map fun others otherRest hothers => ?_
      refine Html.allFrames_append_congr ?_ hothers
      exact Html.allFrames_element_congr rfl htitle hbody

theorem sameFrames_rowsHtml : ∀ rows : List (List (List Node)),
    SameFrames (rowsHtml (rowShapes false rows)) (rowsHtml rows)
  | [] => rfl
  | cells :: rest => (sameFrames_wrappedHtml "td" cells).cons "tr" (sameFrames_rowsHtml rest)

end

end Node

/-! ### Pages -/

theorem sameFrames_articlesHtml : ∀ groups : List (List Node),
    SameFrames (articlesHtml (groups.map (Node.shapes false))) (articlesHtml groups)
  | [] => rfl
  | group :: rest =>
      (Node.sameFrames_blocksHtml group).cons "article" (sameFrames_articlesHtml rest)

theorem allFrames_headHtml {title otherTitle rest others : List Html} (stylesheet other : String)
    (h : allFrames title = allFrames otherTitle) (hrest : allFrames rest = allFrames others) :
    allFrames (headHtml title stylesheet :: rest) =
      allFrames (headHtml otherTitle other :: others) := by
  have hnames : ["rel", "href"].all isName = true := by decide
  refine Html.allFrames_element_congr rfl (Html.allFrames_element_congr rfl h ?_) hrest
  refine Html.allFrames_void_congr rfl (Html.allFrames_element_congr rfl rfl ?_)
  exact Html.allFrames_void_congr (withoutValues_tagContent (by decide) hnames rfl rfl) rfl

theorem allFrames_titleSlideHtml {title authors date rest : List Html}
    {otherTitle otherAuthors otherDate others : List Html}
    (htitle : allFrames title = allFrames otherTitle)
    (hauthors : allFrames authors = allFrames otherAuthors)
    (hdate : allFrames date = allFrames otherDate) (hrest : allFrames rest = allFrames others) :
    allFrames (titleSlideHtml title authors date :: rest) =
      allFrames (titleSlideHtml otherTitle otherAuthors otherDate :: others) := by
  refine Html.allFrames_element_congr rfl (Html.allFrames_element_congr rfl htitle ?_) hrest
  refine Html.allFrames_element_congr rfl (Html.allFrames_append_congr hauthors ?_) rfl
  exact Html.allFrames_void_congr rfl hdate

namespace Document

/-- A document and its shape have markup of the same frames, or none for the same reason. -/
theorem alike_html_shape (doc : Document) (stylesheet other : String) :
    AlikeUpTo (fun root => allFrames [root]) (doc.shape.html stylesheet) (doc.html other) := by
  have hauthors : SameFrames (Node.inlinesHtml doc.shape.authors.flatten)
      (Node.inlinesHtml doc.authors.flatten) := by
    have hflatten : doc.shape.authors.flatten = Node.shapes false doc.authors.flatten := by
      rw [Node.shapes_eq_map, List.map_flatten]
      exact congrArg List.flatten (List.map_congr_left fun _ _ => Node.shapes_eq_map false _)
    rw [hflatten]
    exact Node.sameFrames_inlinesHtml doc.authors.flatten
  have hblocks : SameFrames (articlesHtml (slides doc.shape.blocks))
      (articlesHtml (slides doc.blocks)) := by
    rw [shape, slides_shapes]
    exact sameFrames_articlesHtml (slides doc.blocks)
  unfold Document.html
  refine (Node.sameFrames_allOnOneLine doc.title).bind fun headTitle _ hheadTitle => ?_
  refine hauthors.bind fun authors _ hauthors => ?_
  refine (Node.sameFrames_inlinesHtml doc.title).bind fun title _ htitle => ?_
  refine (Node.sameFrames_inlinesHtml doc.date).bind fun date _ hdate => ?_
  refine hblocks.map fun articles _ harticles => ?_
  refine Html.allFrames_element_congr rfl (allFrames_headHtml stylesheet other hheadTitle ?_) rfl
  refine Html.allFrames_element_congr rfl (Html.allFrames_element_congr rfl ?_ rfl) rfl
  exact allFrames_titleSlideHtml htitle hauthors hdate harticles

end Document

/-- Documents that differ only in words, addresses, descriptions and code that is not highlighted
either cannot be rendered for the same reason, or have pages of the same tags in the same order,
with the same attributes. -/
theorem skeleton_page {doc other : Document} (stylesheet otherStylesheet : String)
    (hshape : doc.shape = other.shape) (h : ∀ node ∈ doc.rendered, ¬ node.IsVerbatim)
    (hother : ∀ node ∈ other.rendered, ¬ node.IsVerbatim) :
    (∃ cause, doc.page stylesheet = .error cause ∧ other.page otherStylesheet = .error cause) ∨
      ∃ page otherPage, doc.page stylesheet = .ok page ∧
        other.page otherStylesheet = .ok otherPage ∧ skeleton page = skeleton otherPage := by
  have halike : AlikeUpTo (fun root => allFrames [root]) (doc.html stylesheet)
      (other.html otherStylesheet) := by
    have hfirst := (doc.alike_html_shape stylesheet stylesheet).symm
    rw [hshape] at hfirst
    exact hfirst.trans (other.alike_html_shape stylesheet otherStylesheet)
  unfold Document.page
  rcases halike.cases with
    ⟨cause, hhtml, hotherHtml⟩ | ⟨root, otherRoot, hhtml, hotherHtml, hframes⟩
  · rw [hhtml, hotherHtml]
    exact Or.inl ⟨cause, rfl, rfl⟩
  · have hregular := Document.regular_html hhtml fun node hnode =>
      Node.verbatim_of_not_isVerbatim (h node hnode)
    have hotherRegular := Document.regular_html hotherHtml fun node hnode =>
      Node.verbatim_of_not_isVerbatim (hother node hnode)
    rw [hhtml, hotherHtml]
    refine Or.inr ⟨printPage root, printPage otherRoot, rfl, rfl, ?_⟩
    rw [Html.skeleton_printPage hregular, Html.skeleton_printPage hotherRegular, hframes]

/-- Harmless text, and text that looks like markup in each place where there may be text. -/
theorem skeleton_page_of_markup_in_text :
    let doc : Document := ⟨[.str "a"], [[.image [.str "b"] "" ""]], [],
      [.header 1 [.link [.str "c"] "" ""], .codeBlock ⟨"", [], []⟩ "d"]⟩
    let other : Document := ⟨[.str "<br></title><p>"],
      [[.image [.str "\"><script>"] "\" onload=\"" "'>"]], [],
      [.header 1 [.link [.str "</h1>"] "\"><b " ">"], .codeBlock ⟨"", [], []⟩ "</article>"]⟩
    doc.shape = other.shape ∧ (∀ node ∈ doc.rendered, ¬ node.IsVerbatim) ∧
      (∀ node ∈ other.rendered, ¬ node.IsVerbatim) ∧
      ∃ page otherPage, doc.page "a.css" = .ok page ∧ other.page "\"><p>.css" = .ok otherPage ∧
        skeleton page = skeleton otherPage := by
  intro doc other
  have hshape : doc.shape = other.shape := by cbv
  have hplain : ∀ node ∈ doc.rendered, ¬ node.IsVerbatim := by
    simp [doc, Document.rendered, Node.allRendered, Node.rendered, Node.IsVerbatim]
  have hotherPlain : ∀ node ∈ other.rendered, ¬ node.IsVerbatim := by
    simp [other, Document.rendered, Node.allRendered, Node.rendered, Node.IsVerbatim]
  refine ⟨hshape, hplain, hotherPlain, ?_⟩
  rcases skeleton_page "a.css" "\"><p>.css" hshape hplain hotherPlain with ⟨_, hcause, _⟩ | hpages
  · cases hcause
  · exact hpages

end LiveDeck
