import LiveDeck.Proofs.Page.Regular

/-! # The elements of rendered markup

`Html.tagNames` lists the names of the elements in a tree.  What holds of their tags and of all text
without tags holds of the whole markup (`Html.ClosedUnderPrinting`).  Rendering the nodes of a
document makes the elements of `contentTags` and no others (`ofContent_of_shows`): what makes up a
page around its slides is not among them. -/

namespace LiveDeck

open Markup

namespace Html

mutual

/-- The names of all elements in a tree. -/
def tagNames : Html → List String
  | .element tag _ children => tag :: allTagNames children
  | .void tag _ => [tag]
  | _ => []

/-- The names of all elements in trees. -/
def allTagNames : List Html → List String
  | [] => []
  | piece :: rest => tagNames piece ++ allTagNames rest

end

theorem mem_allTagNames {html : List Html} {tag : String} :
    tag ∈ allTagNames html ↔ ∃ piece ∈ html, tag ∈ tagNames piece := by
  induction html with
  | nil => simp [allTagNames]
  | cons piece html ih => simp [allTagNames, ih]

theorem forall_mem_allTagNames_append {p : String → Prop} {html rest : List Html} :
    (∀ tag ∈ allTagNames (html ++ rest), p tag) ↔
      (∀ tag ∈ allTagNames html, p tag) ∧ ∀ tag ∈ allTagNames rest, p tag := by
  induction html with
  | nil => simp [allTagNames]
  | cons piece html ih => simp only [List.cons_append, allTagNames, List.forall_mem_append, ih,
      and_assoc]

theorem forall_mem_tagNames_element {p : String → Prop} {tag : String}
    (attributes : List (String × String)) {children : List Html} (htag : p tag)
    (h : ∀ name ∈ allTagNames children, p name) :
    ∀ name ∈ allTagNames [.element tag attributes children], p name := by
  simpa [allTagNames, tagNames] using ⟨htag, h⟩

/-! ### Properties of printed markup -/

/-- A property that printed markup has as soon as its parts have it: text without tags, verbatim
parts, and the tags of elements with certain names. -/
structure ClosedUnderPrinting (verbatimOk tagOk : String → Prop) (property : List Char → Prop) :
    Prop where
  append : ∀ s t, property s → property t → property (s ++ t)
  plain : ∀ s, '<' ∉ s → property s
  verbatim : ∀ markup, verbatimOk markup → property markup.toList
  startTag : ∀ tag attributes, isName tag = true → tagOk tag →
    (∀ pair ∈ attributes, isName pair.1 = true) → property (printTag tag attributes).toList
  endTag : ∀ tag, isName tag = true → tagOk tag → property ("</" ++ tag ++ ">").toList

variable {verbatimOk tagOk : String → Prop} {property : List Char → Prop}

mutual

theorem ClosedUnderPrinting.print (hclosed : ClosedUnderPrinting verbatimOk tagOk property) :
    ∀ {html : Html}, html.Regular verbatimOk → (∀ tag ∈ html.tagNames, tagOk tag) →
      property html.print.toList
  | .text content, _, _ => by
      rw [Html.print]
      exact hclosed.plain _ (Text.not_mem_escapeContent content)
  | .hardSpace, _, _ => by
      rw [Html.print]
      exact hclosed.plain _ (by decide)
  | .verbatim markup, h, _ => hclosed.verbatim markup h
  | .element tag attributes children, h, htags => by
      obtain ⟨htag, _, hnames, hchildren⟩ := h
      obtain ⟨hok, htags⟩ := List.forall_mem_cons.mp htags
      have hprinted : (Html.element tag attributes children).print =
          printTag tag attributes ++ Html.printAll children ++ ("</" ++ tag ++ ">") := by
        simp only [Html.print, String.append_assoc]
      rw [hprinted, String.toList_append, String.toList_append]
      have hstart := hclosed.startTag tag attributes htag hok hnames
      have hcontent := hclosed.append _ _ hstart (hclosed.printAll hchildren htags)
      exact hclosed.append _ _ hcontent (hclosed.endTag tag htag hok)
  | .void tag attributes, h, htags => by
      obtain ⟨htag, _, hnames⟩ := h
      rw [Html.print]
      exact hclosed.startTag tag attributes htag (htags tag List.mem_cons_self) hnames

theorem ClosedUnderPrinting.printAll (hclosed : ClosedUnderPrinting verbatimOk tagOk property) :
    ∀ {html : List Html}, AllRegular verbatimOk html → (∀ tag ∈ allTagNames html, tagOk tag) →
      property (Html.printAll html).toList
  | [], _, _ => hclosed.plain _ List.not_mem_nil
  | piece :: html, h, htags => by
      rw [allTagNames, List.forall_mem_append] at htags
      rw [Html.printAll, String.toList_append]
      exact hclosed.append _ _ (hclosed.print h.1 htags.1) (hclosed.printAll h.2 htags.2)

end

end Html

open Html (tagNames allTagNames)

/-- The elements that rendering makes of the nodes of a document. -/
def contentTags : List String :=
  headerTags ++ ["em", "strong", "del", "sup", "sub", "small", "cite", "br", "a", "img", "p",
    "pre", "code", "span", "blockquote", "ol", "ul", "li", "dl", "dd", "hr", "table", "caption",
    "thead", "tbody", "tr", "td"]

/-- All elements are among those that rendering makes. -/
def OfContent (html : List Html) : Prop := ∀ tag ∈ allTagNames html, tag ∈ contentTags

theorem ofContent_nil : OfContent [] := by
  intro tag htag
  cases htag

theorem ofContent_append {html rest : List Html} (h : OfContent html) (hrest : OfContent rest) :
    OfContent (html ++ rest) :=
  Html.forall_mem_allTagNames_append.mpr ⟨h, hrest⟩

theorem ofContent_element {tag : String} (attributes : List (String × String))
    {children : List Html} (htag : tag ∈ contentTags) (h : OfContent children) :
    OfContent [.element tag attributes children] :=
  Html.forall_mem_tagNames_element attributes htag h

theorem ofContent_void {tag : String} (attributes : List (String × String))
    (htag : tag ∈ contentTags) : OfContent [.void tag attributes] := by
  intro name hname
  rw [List.mem_singleton.mp hname]
  exact htag

theorem ofContent_linesHtml (lines : List (List (Option String × List Char))) :
    OfContent (Code.linesHtml lines) := by
  intro tag htag
  obtain ⟨html, hhtml, htag⟩ := Html.mem_allTagNames.mp htag
  rcases mem_linesHtml hhtml with ⟨⟨look, text⟩, rfl⟩ | rfl
  · cases look with
    | none => cases htag
    | some cssClass =>
        rw [List.mem_singleton.mp htag]
        decide
  · cases htag

theorem ofContent_codeBlockHtml (attr : Attr) (text : String) :
    OfContent [codeBlockHtml attr text] := by
  unfold codeBlockHtml
  split
  · rename_i html hhighlight
    obtain ⟨lexer, _, rfl⟩ := Option.map_eq_some_iff.mp hhighlight
    have hcode : OfContent [.element "code" [] (Code.bodyHtml lexer text)] :=
      ofContent_element [] (by decide) (ofContent_linesHtml _)
    exact ofContent_element _ (by decide) hcode
  · exact ofContent_element [] (by decide) ofContent_nil

/-- Rendering makes no elements but those of `contentTags`. -/
theorem ofContent_of_shows {content : Content} {html : List Html} (h : Shows content html) :
    OfContent html := by
  induction h with
  | str _ | space | code _ | rawInline _ | rawBlock _ _ => exact ofContent_nil
  | noInlines | noBlocks | noneWrapped _ | noneUnwrapped | noDefinitions | noRows | null =>
      exact ofContent_nil
  | codeBlock attr text => exact ofContent_codeBlockHtml attr text
  | lineBreak | horizontalRule | image _ _ _ => exact ofContent_void _ (by decide)
  | plain _ ih => exact ih
  | quoted kind _ ih => exact ofContent_append ih ofContent_nil
  | @styled _ _ style _ ih =>
      have htag : style.tag ∈ contentTags := by cases style <;> decide
      exact ofContent_element [] htag ih
  | header htag _ ih =>
      exact ofContent_element [] (List.mem_append_left _ (mem_headerTags htag)) ih
  | cite _ _ ih | para _ ih | blockQuote _ ih | orderedList _ _ ih | bulletList _ ih
  | definitionList _ ih | link _ _ _ ih => exact ofContent_element _ (by decide) ih
  | table _ _ _ _ _ ihcells ihbody ihtitle =>
      refine ofContent_element [] (by decide) ?_
      show OfContent ([_] ++ ([_] ++ [_]))
      refine ofContent_append ?_ (ofContent_append ?_ ?_)
      · exact ofContent_element [] (by decide) ihtitle
      · exact ofContent_element [] (by decide) (ofContent_element [] (by decide) ihcells)
      · exact ofContent_element [] (by decide) ihbody
  | inlines _ _ ihfirst ihothers | blocks _ _ ihfirst ihothers | unwrapped _ _ ihfirst ihothers =>
      exact ofContent_append ihfirst ihothers
  | @wrapped wrapper _ _ _ _ _ _ ihchildren ihothers =>
      have htag : wrapper.tag ∈ contentTags := by cases wrapper <;> decide
      exact ofContent_append (ofContent_element [] htag ihchildren) ihothers
  | rows _ _ ihchildren ihothers =>
      exact ofContent_append (ofContent_element [] (by decide) ihchildren) ihothers
  | definitions _ _ _ ihtitle ihbody ihothers =>
      have hterm : OfContent [.element "dd" [] _] := ofContent_element [] (by decide) ihtitle
      exact ofContent_append (ofContent_append hterm ihbody) ihothers

end LiveDeck
