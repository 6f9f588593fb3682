import LiveDeck.Proofs.Page.Elements

/-! # The articles of a page

The slide script takes every article of a page for a slide.  `slideMarks` cuts markup at the
occurrences of `<article>` and `</article>`, wherever they are, and leaves every other character as
it is.  `slideMarks_page` says what this finds in a page: one article for the title and one for
every group of `slides`, with nothing between them.

Text passes (`Passes`) if cutting it, and whatever follows, finds no mark in it.  A tag other than
the two marks passes as a whole, so the seams between pieces of markup need no care.  Rendering
makes no articles (`ofContent_of_shows`), so whatever it makes of a node passes. -/

namespace LiveDeck

open Markup
open Html (tagNames allTagNames)

/-! ### Cutting at the marks of articles -/

namespace Markup

/-- A character of markup, or a mark of an article. -/
inductive SlideMark where
  | char (c : Char)
  | opening
  | closing
  deriving DecidableEq, Repr

/-- The mark at the beginning, and what comes after it. -/
def slideMark? (s : List Char) : Option (SlideMark × List Char) :=
  match Text.dropPrefix? "<article>".toList s with
  | some rest => some (.opening, rest)
  | none => (Text.dropPrefix? "</article>".toList s).map fun rest => (.closing, rest)

theorem slideMark?_eq_some {s rest : List Char} {mark : SlideMark}
    (h : slideMark? s = some (mark, rest)) :
    s = "<article>".toList ++ rest ∨ s = "</article>".toList ++ rest := by
  unfold slideMark? at h
  split at h
  · rename_i found hfound
    cases h
    exact Or.inl (Text.dropPrefix?_eq_some_iff.mp hfound)
  · obtain ⟨found, hfound, hpair⟩ := Option.map_eq_some_iff.mp h
    cases hpair
    exact Or.inr (Text.dropPrefix?_eq_some_iff.mp hfound)

theorem length_of_slideMark? {s rest : List Char} {mark : SlideMark}
    (h : slideMark? s = some (mark, rest)) : rest.length < s.length := by
  have hopening : "<article>".toList.length = 9 := by decide
  have hclosing : "</article>".toList.length = 10 := by decide
  rcases slideMark?_eq_some h with rfl | rfl <;> rw [List.length_append] <;> omega

/-- Markup cut at the marks of articles. -/
def slideMarks : List Char → List SlideMark
  | [] => []
  | c :: s =>
    match _h : slideMark? (c :: s) with
    | some (mark, rest) => mark :: slideMarks rest
    | none => .char c :: slideMarks s
termination_by s => s.length
decreasing_by
  · exact length_of_slideMark? _h
  · simp

theorem slideMarks_of_slideMark? {s rest : List Char} {mark : SlideMark}
    (h : slideMark? s = some (mark, rest)) : slideMarks s = mark :: slideMarks rest := by
  cases s with
  | nil => cases h
  | cons c s =>
      rw [slideMarks]
      split
      · rename_i mark' rest' h'
        cases h.symm.trans h'
        rfl
      · rename_i h'
        cases h.symm.trans h'

theorem slideMarks_cons {c : Char} {s : List Char} (h : slideMark? (c :: s) = none) :
    slideMarks (c :: s) = .char c :: slideMarks s := by
  rw [slideMarks]
  split
  · rename_i mark rest h'
    cases h.symm.trans h'
  · rfl

theorem slideMarks_opening (rest : List Char) :
    slideMarks ("<article>".toList ++ rest) = .opening :: slideMarks rest :=
  slideMarks_of_slideMark? rfl

theorem slideMarks_closing (rest : List Char) :
    slideMarks ("</article>".toList ++ rest) = .closing :: slideMarks rest :=
  slideMarks_of_slideMark? rfl

/-! ### Text without marks -/

/-- No mark is found in the text, whatever follows it. -/
def Passes (s : List Char) : Prop :=
  ∀ rest, slideMarks (s ++ rest) = s.map .char ++ slideMarks rest

theorem passes_nil : Passes [] := fun _ => rfl

theorem Passes.append {s t : List Char} (hs : Passes s) (ht : Passes t) : Passes (s ++ t) := by
  intro rest
  rw [List.append_assoc, hs, ht, List.map_append, List.append_assoc]

theorem Passes.slideMarks_eq {s : List Char} (h : Passes s) : slideMarks s = s.map .char := by
  have hmarks := h []
  rw [List.append_nil] at hmarks
  rw [hmarks, slideMarks, List.append_nil]

theorem slideMark?_cons_of_ne {c : Char} (h : c ≠ '<') (s : List Char) :
    slideMark? (c :: s) = none := by
  cases hmark : slideMark? (c :: s) with
  | none => rfl
  | some found =>
      obtain ⟨mark, rest⟩ := found
      rcases slideMark?_eq_some hmark with heq | heq
      · exact absurd (List.cons.inj heq).1 h
      · exact absurd (List.cons.inj heq).1 h

theorem passes_of_not_mem {s : List Char} (h : '<' ∉ s) : Passes s := by
  induction s with
  | nil => exact passes_nil
  | cons c s ih =>
      rw [List.mem_cons, not_or] at h
      intro rest
      rw [List.cons_append, slideMarks_cons (slideMark?_cons_of_ne (Ne.symm h.1) _), ih h.2]
      rfl

theorem slideMark?_tag {content : List Char} (hgt : '>' ∉ content)
    (hopening : content ≠ "article".toList) (hclosing : content ≠ "/article".toList)
    (rest : List Char) : slideMark? ('<' :: (content ++ '>' :: rest)) = none := by
  have hcontent : ∀ name after : List Char, '>' ∉ name →
      '<' :: (content ++ '>' :: rest) = '<' :: (name ++ '>' :: after) → content = name := by
    intro name after hname heq
    have hcut := upTo?_append hgt rest
    rw [(List.cons.inj heq).2, upTo?_append hname after] at hcut
    exact (Prod.mk.inj (Option.some.inj hcut)).1.symm
  cases hmark : slideMark? ('<' :: (content ++ '>' :: rest)) with
  | none => rfl
  | some found =>
      obtain ⟨mark, after⟩ := found
      rcases slideMark?_eq_some hmark with heq | heq
      · exact absurd (hcontent "article".toList after (by decide) heq) hopening
      · exact absurd (hcontent "/article".toList after (by decide) heq) hclosing

theorem passes_tag {content : List Char} (hlt : '<' ∉ content) (hgt : '>' ∉ content)
    (hopening : content ≠ "article".toList) (hclosing : content ≠ "/article".toList) :
    Passes ('<' :: (content ++ ['>'])) := by
  intro rest
  have hrest : Passes (content ++ ['>']) := by
    refine passes_of_not_mem ?_
    rw [List.mem_append, not_or]
    exact ⟨hlt, by decide⟩
  have hmark := slideMark?_tag hgt hopening hclosing rest
  have hsplit : content ++ '>' :: rest = content ++ ['>'] ++ rest := by simp
  rw [hsplit] at hmark
  rw [List.cons_append, slideMarks_cons hmark, hrest]
  rfl

theorem passes_printTag {tag : String} {attributes : List (String × String)}
    (htag : isName tag = true) (hne : tag ≠ "article")
    (hnames : ∀ pair ∈ attributes, isName pair.1 = true) :
    Passes (Html.printTag tag attributes).toList := by
  rw [toList_printTag]
  have hname := takeWhile_tagContent htag attributes
  refine passes_tag (not_mem_tagContent (Or.inl rfl) htag hnames)
    (not_mem_tagContent (Or.inr rfl) htag hnames) ?_ ?_
  · intro hcontent
    rw [hcontent] at hname
    exact hne (String.toList_inj.mp hname.symm)
  · intro hcontent
    rw [hcontent] at hname
    have hslash : '/' ∈ tag.toList := by
      rw [← hname]
      decide
    exact not_mem_of_isName htag (by decide) hslash

theorem passes_endTag {tag : String} (htag : isName tag = true) (hne : tag ≠ "article") :
    Passes ("</" ++ tag ++ ">").toList := by
  have hprinted : ("</" ++ tag ++ ">").toList = '<' :: ('/' :: tag.toList ++ ['>']) := by simp
  have hbracket : ∀ bracket, bracket ≠ '/' → bracket.isAlphanum = false →
      bracket ∉ '/' :: tag.toList := by
    intro bracket hslash hname
    rw [List.mem_cons, not_or]
    exact ⟨hslash, not_mem_of_isName htag hname⟩
  rw [hprinted]
  refine passes_tag (hbracket '<' (by decide) (by decide)) (hbracket '>' (by decide) (by decide))
    ?_ ?_
  · simp
  · intro hcontent
    exact hne (String.toList_inj.mp (List.cons.inj hcontent).2)

end Markup

namespace Html

theorem closedUnderPrinting_passes :
    ClosedUnderPrinting (fun _ => False) (fun tag => tag ≠ "article") Passes where
  append := fun _ _ hs ht => hs.append ht
  plain := fun _ h => passes_of_not_mem h
  verbatim := fun _ h => h.elim
  startTag := fun _ _ htag hne hnames => passes_printTag htag hne hnames
  endTag := fun _ htag hne => passes_endTag htag hne

/-- No mark is found in markup without articles. -/
theorem passes_print {html : Html} (h : html.Regular (fun _ => False))
    (hnot : "article" ∉ html.tagNames) : Passes html.print.toList :=
  closedUnderPrinting_passes.print h fun _ htag heq => hnot (heq ▸ htag)

theorem passes_printAll {html : List Html} (h : AllRegular (fun _ => False) html)
    (hnot : "article" ∉ allTagNames html) : Passes (printAll html).toList :=
  closedUnderPrinting_passes.printAll h fun _ htag heq => hnot (heq ▸ htag)

end Html

/-! ### The articles of a document -/

/-- The markup of blocks as text. -/
def Node.printedBlocks (nodes : List Node) : Except RenderError String := do
  let html ← blocksHtml nodes
  .ok (Html.printAll html)

theorem Node.printedBlocks_append {nodes rest : List Node} {first others : String}
    (hfirst : printedBlocks nodes = .ok first) (hothers : printedBlocks rest = .ok others) :
    printedBlocks (nodes ++ rest) = .ok (first ++ others) := by
  obtain ⟨before, hbefore, h⟩ := bind_eq_ok.mp hfirst
  cases h
  obtain ⟨after, hafter, h⟩ := bind_eq_ok.mp hothers
  cases h
  have hboth : blocksHtml (nodes ++ rest) = .ok (before ++ after) := by
    clear hfirst
    induction nodes generalizing before with
    | nil =>
        cases hbefore
        exact hafter
    | cons node nodes ih =>
        obtain ⟨html, hhtml, h⟩ := bind_eq_ok.mp hbefore
        obtain ⟨between, hbetween, h⟩ := bind_eq_ok.mp h
        cases h
        rw [List.append_assoc]
        exact bind_eq_ok.mpr ⟨html, hhtml, bind_eq_ok.mpr ⟨_, ih between hbetween, rfl⟩⟩
  rw [← Html.printAll_append]
  exact bind_eq_ok.mpr ⟨_, hboth, rfl⟩

theorem articlesHtml_eq_ok {groups : List (List Node)} {html : List Html}
    (h : articlesHtml groups = .ok html) :
    ∃ contents : List (List Html), html = contents.map (.element "article" []) ∧
      contents.length = groups.length ∧
      groups.mapM Node.printedBlocks = .ok (contents.map Html.printAll) ∧
      Node.printedBlocks groups.flatten = .ok (String.join (contents.map Html.printAll)) ∧
      ∀ content ∈ contents, OfContent content := by
  induction groups generalizing html with
  | nil =>
      cases h
      exact ⟨[], rfl, rfl, rfl, rfl, by simp⟩
  | cons group groups ih =>
      obtain ⟨content, hcontent, h⟩ := bind_eq_ok.mp h
      obtain ⟨others, hothers, h⟩ := bind_eq_ok.mp h
      cases h
      obtain ⟨contents, hhtml, hlength, htexts, hblocks, helements⟩ := ih hothers
      have hshows : Shows (.blocks group) content := shows_iff.mpr hcontent
      have hgroup : Node.printedBlocks group = .ok (Html.printAll content) :=
        bind_eq_ok.mpr ⟨content, hcontent, rfl⟩
      refine ⟨content :: contents, ?_, ?_, ?_, ?_, ?_⟩
      · rw [hhtml, List.map_cons]
      · rw [List.length_cons, List.length_cons, hlength]
      · rw [List.mapM_cons]
        exact bind_eq_ok.mpr ⟨_, hgroup, bind_eq_ok.mpr ⟨_, htexts, rfl⟩⟩
      · rw [List.flatten_cons, List.map_cons, String.join_cons]
        exact Node.printedBlocks_append hgroup hblocks
      · exact List.forall_mem_cons.mpr ⟨ofContent_of_shows hshows, helements⟩

/-- What stands before the first article of a page. -/
def pageStart (title : List Html) (stylesheet : String) : String :=
  "<!DOCTYPE html>\n" ++ Html.printTag "html" [] ++ (headHtml title stylesheet).print ++
    Html.printTag "body" [("style", "display: none")] ++
    Html.printTag "section" [("class", templateClass)]

/-- What stands after the last article of a page. -/
def pageEnd : String := "</section></body></html>"

/-- The content of the title slide. -/
def titleSlideText (title authors date : List Html) : String :=
  Html.printAll
    [.element "h1" [] title, .element "p" [] (authors ++ .void "br" [] :: date)]

/-- An article as it is cut. -/
def articleMarks (content : String) : List SlideMark :=
  .opening :: (content.toList.map .char ++ [.closing])

theorem OfContent.not_mem {html : List Html} (h : OfContent html) :
    "article" ∉ allTagNames html := by
  have hnot : "article" ∉ contentTags := by decide
  exact fun hmem => hnot (h _ hmem)

/-- Articles are cut at their own marks and nowhere else. -/
theorem slideMarks_articles : ∀ {contents : List (List Html)},
    Html.AllRegular (fun _ => False) (contents.map (.element "article" [])) →
    (∀ content ∈ contents, OfContent content) → ∀ rest : List Char,
      slideMarks ((Html.printAll (contents.map (.element "article" []))).toList ++ rest) =
        (contents.map Html.printAll).flatMap articleMarks ++ slideMarks rest
  | [], _, _, _ => rfl
  | content :: contents, hregular, helements, rest => by
      obtain ⟨⟨_, _, _, hcontent⟩, hcontents⟩ := hregular
      obtain ⟨helement, helements⟩ := List.forall_mem_cons.mp helements
      have hpasses := Html.passes_printAll hcontent helement.not_mem
      have hprinted : (Html.printAll ((content :: contents).map (.element "article" []))).toList ++
            rest = "<article>".toList ++ ((Html.printAll content).toList ++ ("</article>".toList ++
          ((Html.printAll (contents.map (.element "article" []))).toList ++ rest))) := by
        simp [Html.printAll, Html.print, Html.printTag]
      rw [hprinted, slideMarks_opening, hpasses, slideMarks_closing,
        slideMarks_articles hcontents helements, List.map_cons, List.flatMap_cons, articleMarks]
      simp

theorem passes_pageStart {title : List Html} {stylesheet : String}
    (hregular : (headHtml title stylesheet).Regular (fun _ => False)) (helements : OfContent title) :
    Passes (pageStart title stylesheet).toList := by
  have htype : Passes "<!DOCTYPE html>\n".toList := by
    have hsplit : "<!DOCTYPE html>\n".toList = '<' :: ("!DOCTYPE html".toList ++ ['>']) ++ ['\n'] := by
      decide
    rw [hsplit]
    have htag : Passes ('<' :: ("!DOCTYPE html".toList ++ ['>'])) :=
      passes_tag (by decide) (by decide) (by decide) (by decide)
    exact htag.append (passes_of_not_mem (by decide))
  have hhead : Passes (headHtml title stylesheet).print.toList := by
    refine Html.passes_print hregular ?_
    simpa [headHtml, tagNames, allTagNames] using helements.not_mem
  have hhtml : Passes (Html.printTag "html" []).toList :=
    passes_printTag (by decide) (by decide) (by simp)
  have hbody : Passes (Html.printTag "body" [("style", "display: none")]).toList :=
    passes_printTag (by decide) (by decide)
      (isName_of_all (show ["style"].all isName = true by decide) rfl)
  have hsection : Passes (Html.printTag "section" [("class", templateClass)]).toList :=
    passes_printTag (by decide) (by decide)
      (isName_of_all (show ["class"].all isName = true by decide) rfl)
  unfold pageStart
  rw [String.toList_append, String.toList_append, String.toList_append, String.toList_append]
  exact (((htype.append hhtml).append hhead).append hbody).append hsection

theorem slideMarks_pageEnd : slideMarks pageEnd.toList = pageEnd.toList.map .char := by
  have hpasses : Passes pageEnd.toList := by
    have hsplit : pageEnd.toList = ("</" ++ "section" ++ ">").toList ++
        ("</" ++ "body" ++ ">").toList ++ ("</" ++ "html" ++ ">").toList := by simp [pageEnd]
    rw [hsplit]
    exact ((passes_endTag (by decide) (by decide)).append
      (passes_endTag (by decide) (by decide))).append (passes_endTag (by decide) (by decide))
  exact hpasses.slideMarks_eq

theorem printPage_eq (headTitle title authors date : List Html) (stylesheet : String)
    (contents : List (List Html)) :
    printPage (.element "html" []
      [headHtml headTitle stylesheet,
        .element "body" [("style", "display: none")]
          [.element "section" [("class", templateClass)]
            (titleSlideHtml title authors date :: contents.map (.element "article" []))]]) =
      pageStart headTitle stylesheet ++
        (Html.printAll (([.element "h1" [] title,
          .element "p" [] (authors ++ .void "br" [] :: date)] :: contents).map
            (.element "article" [])) ++ pageEnd) := by
  have hend : pageEnd = "</" ++ ("section" ++ (">" ++ ("</" ++ ("body" ++ (">" ++ ("</" ++
      ("html" ++ ">"))))))) := by rfl
  unfold printPage pageStart
  simp only [Html.print, Html.printAll, titleSlideHtml, List.map_cons, hend,
    String.append_assoc, String.append_empty]

/-- Cutting the page of a document at `<article>` and `</article>` finds one article for the title
and one for each group of its slides: none if there are no blocks, and otherwise one and another
for every header after the first block.  Each holds the markup of its group, and together they hold
that of all blocks, so that no text and no header inside another block adds or ends a slide.
Outside of the articles stand the head and the start and the end of the body. -/
theorem slideMarks_page {doc : Document} {stylesheet page : String}
    (h : doc.page stylesheet = .ok page) (hplain : ∀ node ∈ doc.rendered, ¬ node.IsVerbatim) :
    ∃ headTitle title authors date contents,
      Node.inlinesHtml (Node.allOnOneLine doc.title) = .ok headTitle ∧
      Node.inlinesHtml doc.title = .ok title ∧
      Node.inlinesHtml doc.authors.flatten = .ok authors ∧
      Node.inlinesHtml doc.date = .ok date ∧
      (slides doc.blocks).mapM Node.printedBlocks = .ok contents ∧
      Node.printedBlocks doc.blocks = .ok (String.join contents) ∧
      contents.length = (if doc.blocks = [] then 0 else 1 + doc.blocks.tail.countP Node.isHeader) ∧
      slideMarks page.toList = (pageStart headTitle stylesheet).toList.map .char ++
        (titleSlideText title authors date :: contents).flatMap articleMarks ++
          pageEnd.toList.map .char := by
  obtain ⟨root, hroot, h⟩ := bind_eq_ok.mp h
  cases h
  have hregular := doc.regular_html hroot fun node hnode =>
    Node.verbatim_of_not_isVerbatim (hplain node hnode)
  unfold Document.html at hroot
  obtain ⟨headTitle, hheadTitle, hroot⟩ := bind_eq_ok.mp hroot
  obtain ⟨authors, hauthors, hroot⟩ := bind_eq_ok.mp hroot
  obtain ⟨title, htitle, hroot⟩ := bind_eq_ok.mp hroot
  obtain ⟨date, hdate, hroot⟩ := bind_eq_ok.mp hroot
  obtain ⟨articles, harticles, hroot⟩ := bind_eq_ok.mp hroot
  cases hroot
  obtain ⟨contents, rfl, hlength, htexts, hblocks, helements⟩ := articlesHtml_eq_ok harticles
  rw [flatten_slides] at hblocks
  refine ⟨headTitle, title, authors, date, contents.map Html.printAll, hheadTitle, htitle, hauthors,
    hdate, htexts, hblocks, ?_, ?_⟩
  · rw [List.length_map, hlength, length_slides]
  · have hinlines : ∀ {nodes html}, Node.inlinesHtml nodes = .ok html → OfContent html := by
      intro nodes html h
      have hshows : Shows (.inlines nodes) html := shows_iff.mpr h
      exact ofContent_of_shows hshows
    have hbreak : OfContent [.void "br" []] := ofContent_void [] (by decide)
    have hbelow : OfContent (authors ++ ([.void "br" []] ++ date)) :=
      ofContent_append (hinlines hauthors) (ofContent_append hbreak (hinlines hdate))
    have htitleSlide : OfContent ([.element "h1" [] title] ++
        [.element "p" [] (authors ++ ([.void "br" []] ++ date))]) :=
      ofContent_append (ofContent_element [] (by decide) (hinlines htitle))
        (ofContent_element [] (by decide) hbelow)
    obtain ⟨_, _, _, hhead, ⟨_, _, _, ⟨_, _, _, hslides⟩, _⟩, _⟩ := hregular
    have hmarks := slideMarks_articles (show Html.AllRegular (fun _ => False)
      ((_ :: contents).map (.element "article" [])) from hslides)
      (List.forall_mem_cons.mpr ⟨htitleSlide, helements⟩) pageEnd.toList
    rw [printPage_eq, String.toList_append, passes_pageStart hhead (hinlines hheadTitle),
      String.toList_append, hmarks, slideMarks_pageEnd, List.append_assoc]
    rfl

/-- Marks in text and in an address, and a header in a quote: still two groups. -/
theorem slideMarks_page_of_marks_in_text :
    let doc : Document := ⟨[.str "<article>"], [], [],
      [.header 1 [.str "</article>"], .blockQuote [.header 2 [.space]],
        .header 1 [.link [] "<article>" ""]]⟩
    (∀ node ∈ doc.rendered, ¬ node.IsVerbatim) ∧
      ∃ page start, doc.page "a.css" = .ok page ∧
        slideMarks page.toList = start ++
          ["<h1>&lt;article&gt;</h1><p><br></p>",
            "<h1>&lt;/article&gt;</h1><blockquote><h2>&nbsp;</h2></blockquote>",
            "<h1><a href=\"&lt;article&gt;\" title=\"\"></a></h1>"].flatMap articleMarks ++
          pageEnd.toList.map .char := by
  intro doc
  have hplain : ∀ node ∈ doc.rendered, ¬ node.IsVerbatim := by
    simp [doc, Document.rendered, Node.allRendered, Node.rendered, Node.IsVerbatim]
  obtain ⟨page, hpage⟩ : ∃ page, doc.page "a.css" = .ok page := ⟨_, rfl⟩
  obtain ⟨_, title, authors, date, contents, _, htitle, hauthors, hdate, htexts, _, _, hmarks⟩ :=
    slideMarks_page hpage hplain
  have hcontents : contents = ["<h1>&lt;/article&gt;</h1><blockquote><h2>&nbsp;</h2></blockquote>",
      "<h1><a href=\"&lt;article&gt;\" title=\"\"></a></h1>"] := by
    exact Except.ok.inj (htexts.symm.trans rfl)
  have hslide : titleSlideText title authors date = "<h1>&lt;article&gt;</h1><p><br></p>" := by
    cases htitle
    cases hauthors
    cases hdate
    rfl
  rw [hcontents, hslide] at hmarks
  exact ⟨hplain, page, _, hpage, hmarks⟩

end LiveDeck
