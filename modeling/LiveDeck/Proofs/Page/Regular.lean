import Mathlib
import LiveDeck.Proofs.Page.Printed
import LiveDeck.Proofs.Page.Shows

/-! # What is rendered is regular

Rendering uses names of letters and digits only, and keeps elements with content apart from those
without, so that its markup is regular as soon as the verbatim nodes at rendered positions are as
asked for (`allRegular_of_shows`); highlighted code is regular whatever it is.  For a page this
follows from the nodes of its document (`Document.regular_html`), since writing the title on one
line adds no verbatim node. -/

namespace LiveDeck

open Markup
open Html (Regular AllRegular)

namespace Node

/-- The verbatim text of a node, if it is one that is taken over as it stands, is as asked for. -/
def Verbatim (verbatimOk : String → Prop) : Node → Prop
  | .code attr text => attr = urlCode → verbatimOk text
  | .rawInline _ text => verbatimOk text
  | .rawBlock _ text => verbatimOk text
  | _ => True

/-- A node that is taken over as it stands: raw markup, or code in the line. -/
def IsVerbatim : Node → Prop
  | .code attr _ => attr = urlCode
  | .rawInline _ _ => True
  | .rawBlock _ _ => True
  | _ => False

theorem verbatim_of_not_isVerbatim {node : Node} (h : ¬ node.IsVerbatim) :
    node.Verbatim (fun _ => False) := by
  cases node with
  | code attr text => exact h
  | rawInline format text => exact h trivial
  | rawBlock format text => exact h trivial
  | _ => trivial

end Node

theorem highlight?_eq_none {classes : List String} (text : String)
    (h : ∀ name ∈ classes, Code.lexer? name = none) :
    Code.highlight? (classes ++ [noPrettyPrint]) text = none := by
  have hfind : (classes ++ [noPrettyPrint]).findSome? Code.lexer? = none := by
    rw [List.findSome?_eq_none_iff]
    intro name hname
    rcases List.mem_append.mp hname with hname | hname
    · exact h name hname
    · rw [List.mem_singleton.mp hname]
      cbv
  unfold Code.highlight? Code.highlightWith?
  rw [hfind]
  rfl

theorem codeBlockHtml_eq {attr : Attr} (text : String)
    (h : ∀ name ∈ attr.classes, Code.lexer? name = none) :
    codeBlockHtml attr text = .element "pre" [] [.text text] := by
  unfold codeBlockHtml
  rw [highlight?_eq_none text h]

/-- The elements of headers. -/
def headerTags : List String := ["h1", "h2", "h3", "h4", "h5", "h6"]

theorem mem_headerTags {level : Int} {tag : String} (h : headerTag? level = some tag) :
    tag ∈ headerTags := by
  unfold headerTag? at h
  split at h
  · rename_i hlevel
    have hcases : level = 1 ∨ level = 2 ∨ level = 3 ∨ level = 4 ∨ level = 5 ∨ level = 6 := by
      omega
    cases h
    rcases hcases with rfl | rfl | rfl | rfl | rfl | rfl <;> decide
  · cases h

theorem isName_of_headerTag? {level : Int} {tag : String} (h : headerTag? level = some tag) :
    isName tag = true ∧ tag ∉ voidTags := by
  have hall : ∀ tag ∈ headerTags, isName tag = true ∧ tag ∉ voidTags := by decide
  exact hall tag (mem_headerTags h)

theorem isName_tag (style : Style) : isName style.tag = true ∧ style.tag ∉ voidTags := by
  cases style <;> decide

theorem isName_wrapper (wrapper : Wrapper) :
    isName wrapper.tag = true ∧ wrapper.tag ∉ voidTags := by
  cases wrapper <;> decide

variable {verbatimOk : String → Prop}

theorem regular_element {tag : String} {children : List Html}
    (htag : isName tag = true ∧ tag ∉ voidTags) (h : AllRegular verbatimOk children) :
    Regular verbatimOk (.element tag [] children) := by
  refine ⟨htag.1, htag.2, ?_, h⟩
  intro pair hpair
  cases hpair

theorem isName_of_all {names : List String} (h : names.all isName = true)
    {attributes : List (String × String)} (hnames : attributes.map Prod.fst = names) :
    ∀ pair ∈ attributes, isName pair.1 = true := by
  intro pair hpair
  rw [← hnames, List.all_eq_true] at h
  exact h pair.1 (List.mem_map_of_mem hpair)

theorem isName_imageHtml (url alt title : String) :
    ∀ pair ∈ [("src", url), ("alt", alt), ("title", title), ("class", "centered")],
      isName pair.1 = true :=
  isName_of_all (show ["src", "alt", "title", "class"].all isName = true by decide) rfl

theorem regular_imageHtml (url alt title : String) : Regular verbatimOk (imageHtml url alt title) :=
  ⟨by decide, by decide, isName_imageHtml url alt title⟩

theorem regular_link {children : List Html} (url title : String)
    (h : AllRegular verbatimOk children) :
    Regular verbatimOk (.element "a" [("href", url), ("title", title)] children) :=
  ⟨by decide, by decide, isName_of_all (show ["href", "title"].all isName = true by decide) rfl, h⟩

theorem regular_pieceHtml (piece : Option String × List Char) :
    Regular verbatimOk (Code.pieceHtml piece) := by
  obtain ⟨look, text⟩ := piece
  cases look with
  | none => exact trivial
  | some cssClass =>
      exact ⟨by decide, by decide, isName_of_all (show ["class"].all isName = true by decide) rfl,
        trivial, trivial⟩

theorem mem_linesHtml : ∀ {lines : List (List (Option String × List Char))} {html : Html},
    html ∈ Code.linesHtml lines → (∃ piece, html = Code.pieceHtml piece) ∨ html = .text "\n"
  | [], _, h => by simp [Code.linesHtml] at h
  | [[]], _, h => by simp [Code.linesHtml] at h
  | [] :: second :: rest, html, h => by
      rcases List.mem_cons.mp h with h | h
      · exact Or.inr h
      · exact mem_linesHtml h
  | (piece :: pieces) :: rest, html, h => by
      rcases List.mem_append.mp h with h | h
      · obtain ⟨found, _, hfound⟩ := List.mem_map.mp h
        exact Or.inl ⟨found, hfound.symm⟩
      · rcases List.mem_cons.mp h with h | h
        · exact Or.inr h
        · exact mem_linesHtml h

theorem allRegular_of_forall_mem {html : List Html} (h : ∀ piece ∈ html, Regular verbatimOk piece) :
    AllRegular verbatimOk html := by
  induction html with
  | nil => trivial
  | cons piece html ih =>
      obtain ⟨hpiece, hrest⟩ := List.forall_mem_cons.mp h
      exact ⟨hpiece, ih hrest⟩

theorem allRegular_linesHtml (lines : List (List (Option String × List Char))) :
    AllRegular verbatimOk (Code.linesHtml lines) := by
  refine allRegular_of_forall_mem fun html hhtml => ?_
  rcases mem_linesHtml hhtml with ⟨piece, rfl⟩ | rfl
  · exact regular_pieceHtml piece
  · trivial

theorem regular_blockHtml (lexer : Code.Lexer) (classes : List String) (text : String) :
    Regular verbatimOk (Code.blockHtml lexer classes text) := by
  have hcode : Regular verbatimOk (.element "code" [] (Code.bodyHtml lexer text)) :=
    regular_element (by decide) (allRegular_linesHtml _)
  exact ⟨by decide, by decide, isName_of_all (show ["class"].all isName = true by decide) rfl,
    hcode, trivial⟩

theorem regular_codeBlockHtml (attr : Attr) (text : String) :
    Regular verbatimOk (codeBlockHtml attr text) := by
  unfold codeBlockHtml
  split
  · rename_i html hhighlight
    obtain ⟨lexer, _, rfl⟩ := Option.map_eq_some_iff.mp hhighlight
    exact regular_blockHtml lexer _ text
  · exact regular_element (by decide) ⟨trivial, trivial⟩

/-- The markup of content is regular if its verbatim nodes are. -/
theorem allRegular_of_shows {content : Content} {html : List Html} (h : Shows content html)
    (hok : ∀ node ∈ content.rendered, node.Verbatim verbatimOk) : AllRegular verbatimOk html := by
  induction h with
  | str _ | space => exact ⟨trivial, trivial⟩
  | noInlines | noBlocks | noneWrapped _ | noneUnwrapped | noDefinitions | noRows | null =>
      exact trivial
  | code text => exact ⟨hok _ (Node.mem_rendered_self _) rfl, trivial⟩
  | rawInline text => exact ⟨hok _ (Node.mem_rendered_self _), trivial⟩
  | rawBlock format text => exact ⟨hok _ (Node.mem_rendered_self _), trivial⟩
  | codeBlock attr text => exact ⟨regular_codeBlockHtml attr text, trivial⟩
  | lineBreak | horizontalRule => exact ⟨⟨by decide, by decide, by simp⟩, trivial⟩
  | image url title _ => exact ⟨regular_imageHtml url _ title, trivial⟩
  | plain _ ih => exact ih (List.forall_mem_cons.mp hok).2
  | quoted kind _ ih =>
      have hchildren := ih (List.forall_mem_cons.mp hok).2
      exact ⟨trivial, Html.allRegular_append.mpr ⟨hchildren, trivial, trivial⟩⟩
  | link url title _ ih =>
      have hchildren := ih (List.forall_mem_cons.mp hok).2
      exact ⟨regular_link url title hchildren, trivial⟩
  | styled style _ ih =>
      have hchildren := ih (List.forall_mem_cons.mp hok).2
      exact ⟨regular_element (isName_tag style) hchildren, trivial⟩
  | header htag _ ih =>
      have hchildren := ih (List.forall_mem_cons.mp hok).2
      exact ⟨regular_element (isName_of_headerTag? htag) hchildren, trivial⟩
  | cite _ _ ih | para _ ih | blockQuote _ ih | orderedList _ _ ih | bulletList _ ih
  | definitionList _ ih =>
      have hchildren := ih (List.forall_mem_cons.mp hok).2
      exact ⟨regular_element (by decide) hchildren, trivial⟩
  | table _ _ _ _ _ ihcells ihbody ihtitle =>
      simp only [Content.rendered, Node.rendered, List.forall_mem_cons, List.forall_mem_append]
        at hok
      obtain ⟨_, hcaption, hheadings, hrows⟩ := hok
      refine ⟨regular_element (by decide) ⟨?_, ?_, ?_, trivial⟩, trivial⟩
      · exact regular_element (by decide) (ihtitle hcaption)
      · exact regular_element (by decide) ⟨regular_element (by decide) (ihcells hheadings), trivial⟩
      · exact regular_element (by decide) (ihbody hrows)
  | inlines _ _ ihfirst ihothers | blocks _ _ ihfirst ihothers | unwrapped _ _ ihfirst ihothers =>
      obtain ⟨hfirst, hothers⟩ := List.forall_mem_append.mp hok
      exact Html.allRegular_append.mpr ⟨ihfirst hfirst, ihothers hothers⟩
  | @wrapped wrapper _ _ _ _ _ _ ihchildren ihothers =>
      obtain ⟨hchildren, hothers⟩ := List.forall_mem_append.mp hok
      exact ⟨regular_element (isName_wrapper wrapper) (ihchildren hchildren), ihothers hothers⟩
  | rows _ _ ihchildren ihothers =>
      obtain ⟨hchildren, hothers⟩ := List.forall_mem_append.mp hok
      exact ⟨regular_element (by decide) (ihchildren hchildren), ihothers hothers⟩
  | definitions _ _ _ ihtitle ihbody ihothers =>
      obtain ⟨htitle, hrest⟩ := List.forall_mem_append.mp hok
      obtain ⟨hbody, hothers⟩ := List.forall_mem_append.mp hrest
      have hfollowing := Html.allRegular_append.mpr ⟨ihbody hbody, ihothers hothers⟩
      exact ⟨regular_element (by decide) (ihtitle htitle), hfollowing⟩

/-! ### Pages -/

namespace Node

theorem forall_mem_allRendered_append {property : Node → Prop} {nodes rest : List Node} :
    (∀ node ∈ allRendered (nodes ++ rest), property node) ↔
      (∀ node ∈ allRendered nodes, property node) ∧ ∀ node ∈ allRendered rest, property node := by
  induction nodes with
  | nil => simp only [List.nil_append, allRendered, List.not_mem_nil, false_implies, implies_true,
      true_and]
  | cons first nodes ih =>
      simp only [List.cons_append, allRendered, List.forall_mem_append, ih, and_assoc]

mutual

theorem verbatim_onOneLine : ∀ {node : Node}, (∀ part ∈ node.rendered, part.Verbatim verbatimOk) →
    ∀ part ∈ node.onOneLine.rendered, part.Verbatim verbatimOk
  | .lineBreak, _ => by simp [onOneLine, rendered, Verbatim]
  | .rawInline format text, h => by
      rw [onOneLine]
      split
      · simp [rendered, Verbatim]
      · exact h
  | .str _, _ => by simp [onOneLine, rendered, Verbatim]
  | .styled style inlines, h => by
      obtain ⟨_, hinlines⟩ := List.forall_mem_cons.mp h
      exact List.forall_mem_cons.mpr ⟨trivial, verbatim_allOnOneLine hinlines⟩
  | .quoted kind inlines, h => by
      obtain ⟨_, hinlines⟩ := List.forall_mem_cons.mp h
      exact List.forall_mem_cons.mpr ⟨trivial, verbatim_allOnOneLine hinlines⟩
  | .cite citations inlines, h => by
      obtain ⟨_, hinlines⟩ := List.forall_mem_cons.mp h
      exact List.forall_mem_cons.mpr ⟨trivial, verbatim_allOnOneLine hinlines⟩
  | .link inlines url title, h => by
      obtain ⟨_, hinlines⟩ := List.forall_mem_cons.mp h
      exact List.forall_mem_cons.mpr ⟨trivial, verbatim_allOnOneLine hinlines⟩
  | .image _ _ _, _ => by simp [onOneLine, rendered, Verbatim]
  | .code _ _, h => h
  | .space, h => h
  | .math _ _, h => h
  | .note _, h => h
  | .plain _, h => h
  | .para _, h => h
  | .codeBlock _ _, h => h
  | .rawBlock _ _, h => h
  | .blockQuote _, h => h
  | .orderedList _ _, h => h
  | .bulletList _, h => h
  | .definitionList _, h => h
  | .header _ _, h => h
  | .horizontalRule, h => h
  | .table _ _ _ _ _, h => h
  | .null, h => h

theorem verbatim_allOnOneLine : ∀ {nodes : List Node},
    (∀ part ∈ allRendered nodes, part.Verbatim verbatimOk) →
      ∀ part ∈ allRendered (allOnOneLine nodes), part.Verbatim verbatimOk
  | [], h => h
  | first :: rest, h => by
      obtain ⟨hfirst, hrest⟩ := List.forall_mem_append.mp h
      rw [allOnOneLine, allRendered, List.forall_mem_append]
      exact ⟨verbatim_onOneLine hfirst, verbatim_allOnOneLine hrest⟩

end

end Node

theorem regular_headHtml {title : List Html} (stylesheet : String)
    (h : AllRegular verbatimOk title) : Regular verbatimOk (headHtml title stylesheet) := by
  have hscript : Regular verbatimOk (.element "script" [("src", slidesScript)] []) :=
    ⟨by decide, by decide, isName_of_all (show ["src"].all isName = true by decide) rfl, trivial⟩
  have hmeta : Regular verbatimOk (.void "meta" [("charset", "utf-8")]) :=
    ⟨by decide, by decide, isName_of_all (show ["charset"].all isName = true by decide) rfl⟩
  have hlink : ∀ url, Regular verbatimOk (.void "link" [("rel", "stylesheet"), ("href", url)]) := by
    intro url
    exact ⟨by decide, by decide, isName_of_all (show ["rel", "href"].all isName = true by decide) rfl⟩
  exact regular_element (by decide)
    ⟨regular_element (by decide) h, hmeta, hscript, hlink stylesheet, hlink _, trivial⟩

theorem regular_titleSlideHtml {title authors date : List Html}
    (htitle : AllRegular verbatimOk title) (hauthors : AllRegular verbatimOk authors)
    (hdate : AllRegular verbatimOk date) :
    Regular verbatimOk (titleSlideHtml title authors date) := by
  have hbreak : Regular verbatimOk (.void "br" []) := ⟨by decide, by decide, by simp⟩
  have hbelow : AllRegular verbatimOk (authors ++ .void "br" [] :: date) :=
    Html.allRegular_append.mpr ⟨hauthors, hbreak, hdate⟩
  exact regular_element (by decide)
    ⟨regular_element (by decide) htitle, regular_element (by decide) hbelow, trivial⟩

theorem allRegular_articlesHtml {groups : List (List Node)} {html : List Html}
    (h : articlesHtml groups = .ok html)
    (hok : ∀ node ∈ Node.allRendered groups.flatten, node.Verbatim verbatimOk) :
    AllRegular verbatimOk html := by
  induction groups generalizing html with
  | nil =>
      cases h
      trivial
  | cons group rest ih =>
      rw [List.flatten_cons, Node.forall_mem_allRendered_append] at hok
      obtain ⟨children, hchildren, h⟩ := bind_eq_ok.mp h
      obtain ⟨others, hothers, h⟩ := bind_eq_ok.mp h
      cases h
      have hshows : Shows (.blocks group) children := shows_iff.mpr hchildren
      exact ⟨regular_element (by decide) (allRegular_of_shows hshows hok.1), ih hothers hok.2⟩

namespace Document

/-- The nodes of a document that rendering visits. -/
def rendered (doc : Document) : List Node :=
  Node.allRendered (doc.title ++ doc.authors.flatten ++ doc.date ++ doc.blocks)

/-- The markup of a page is regular if the verbatim nodes of its document are. -/
theorem regular_html {doc : Document} {stylesheet : String} {root : Html}
    (h : doc.html stylesheet = .ok root)
    (hok : ∀ node ∈ doc.rendered, node.Verbatim verbatimOk) : Regular verbatimOk root := by
  simp only [rendered, Node.forall_mem_allRendered_append] at hok
  obtain ⟨⟨⟨htitle, hauthors⟩, hdate⟩, hblocks⟩ := hok
  have hregular : ∀ {nodes html}, Node.inlinesHtml nodes = .ok html →
      (∀ node ∈ Node.allRendered nodes, node.Verbatim verbatimOk) → AllRegular verbatimOk html := by
    intro nodes html h hok
    have hshows : Shows (.inlines nodes) html := shows_iff.mpr h
    exact allRegular_of_shows hshows hok
  unfold Document.html at h
  obtain ⟨headTitle, hheadTitle, h⟩ := bind_eq_ok.mp h
  obtain ⟨authors, hauthorsHtml, h⟩ := bind_eq_ok.mp h
  obtain ⟨title, htitleHtml, h⟩ := bind_eq_ok.mp h
  obtain ⟨date, hdateHtml, h⟩ := bind_eq_ok.mp h
  obtain ⟨articles, harticles, h⟩ := bind_eq_ok.mp h
  cases h
  have hhead : Regular verbatimOk (headHtml headTitle stylesheet) :=
    regular_headHtml stylesheet (hregular hheadTitle (Node.verbatim_allOnOneLine htitle))
  have hslide : Regular verbatimOk (titleSlideHtml title authors date) :=
    regular_titleSlideHtml (hregular htitleHtml htitle) (hregular hauthorsHtml hauthors)
      (hregular hdateHtml hdate)
  have hslides : AllRegular verbatimOk articles := by
    rw [← flatten_slides doc.blocks] at hblocks
    exact allRegular_articlesHtml harticles hblocks
  have hsection : Regular verbatimOk (.element "section" [("class", templateClass)]
      (titleSlideHtml title authors date :: articles)) :=
    ⟨by decide, by decide, isName_of_all (show ["class"].all isName = true by decide) rfl, hslide, hslides⟩
  have hbody : Regular verbatimOk (.element "body" [("style", "display: none")]
      [.element "section" [("class", templateClass)]
        (titleSlideHtml title authors date :: articles)]) :=
    ⟨by decide, by decide, isName_of_all (show ["style"].all isName = true by decide) rfl, hsection, trivial⟩
  exact regular_element (by decide) ⟨hhead, hbody, trivial⟩

end Document

end LiveDeck
