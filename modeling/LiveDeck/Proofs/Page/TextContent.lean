import LiveDeck.Proofs.Page.Regular

/-! # The text of a page is the text of its document

`textContent` reads text out of markup: tags are dropped, except that a line break is a space and an
image is its description, and references are replaced.  `Node.plainTexts` and `Node.blockText` read
text out of a document without rendering it.  `textContent_print` says that both give the same text
wherever rendering succeeds, so rendering loses no text, adds none, and keeps its order.

Verbatim parts are read as markup, so the nodes have to be legible (`Node.IsLegible`): no raw
markup, nothing that could be read as a tag or a reference in code, no highlighted code, and
quotation marks of the two usual kinds. -/

namespace LiveDeck

namespace Markup

/-- What a tag says: a line break is a space, and an image is its description. -/
def tagText (content : List Char) : List Char :=
  let name := content.takeWhile (· != ' ')
  if name = "br".toList then [' ']
  else if name = "img".toList then
    ((readAttributes (content.drop name.length)).lookup "alt".toList).getD []
  else []

/-- What a piece says. -/
def Piece.text : Piece → List Char
  | .char c => [c]
  | .reference meaning => [meaning]
  | .tag content => tagText content
  | .unclosed _ => []

/-- The text of markup. -/
def textContent (markup : String) : String :=
  String.ofList ((scan markup.toList).flatMap Piece.text)

/-! ### Tags -/

theorem tagText_of_element {tag : String} (htag : isName tag = true) (hvoid : tag ∉ voidTags)
    (attributes : List (String × String)) : tagText (tagContent tag attributes) = [] := by
  have hbr : tag.toList ≠ "br".toList := by
    intro h
    rw [String.toList_inj.mp h] at hvoid
    exact hvoid (by decide)
  have himg : tag.toList ≠ "img".toList := by
    intro h
    rw [String.toList_inj.mp h] at hvoid
    exact hvoid (by decide)
  simp only [tagText, takeWhile_tagContent htag, if_neg hbr, if_neg himg]

theorem tagText_endTag (tag : String) : tagText ('/' :: tag.toList) = [] := by
  have hname : ('/' :: tag.toList).takeWhile (· != ' ') =
      '/' :: tag.toList.takeWhile (· != ' ') := List.takeWhile_cons_of_pos (by decide)
  have hbr : '/' :: tag.toList.takeWhile (· != ' ') ≠ "br".toList := by simp
  have himg : '/' :: tag.toList.takeWhile (· != ' ') ≠ "img".toList := by simp
  simp only [tagText, hname, if_neg hbr, if_neg himg]

theorem tagText_img {attributes : List (String × String)}
    (hnames : ∀ pair ∈ attributes, isName pair.1 = true) :
    tagText (tagContent "img" attributes) =
      ((attributes.map fun pair => (pair.1.toList, pair.2.toList)).lookup "alt".toList).getD [] := by
  have hdrop : (tagContent "img" attributes).drop "img".toList.length =
      attributes.flatMap fun pair => (Html.printAttribute pair).toList := List.drop_left
  have hbr : "img".toList ≠ "br".toList := by decide
  simp only [tagText, takeWhile_tagContent (show isName "img" = true by decide), if_neg hbr,
    if_true, hdrop, readAttributes_printed hnames]

end Markup

open Markup

/-! ### Trees of markup -/

namespace Html

/-- What trees say. -/
def allText (html : List Html) : List Char := (allPieces html).flatMap Piece.text

theorem allText_append (html rest : List Html) :
    allText (html ++ rest) = allText html ++ allText rest := by
  unfold allText
  rw [allPieces_append, List.flatMap_append]

theorem allText_cons (piece : Html) (rest : List Html) :
    allText (piece :: rest) = allText [piece] ++ allText rest :=
  allText_append [piece] rest

theorem allText_text (content : String) : allText [.text content] = content.toList := by
  simp only [allText, allPieces, pieces, List.append_nil]
  induction content.toList with
  | nil => rfl
  | cons c s ih =>
      have hc : (Piece.ofChar c).text = [c] := by
        unfold Piece.ofChar
        split <;> rfl
      rw [List.map_cons, List.flatMap_cons, ih, hc, List.singleton_append]

theorem allText_verbatim (markup : String) : allText [.verbatim markup] = markup.toList := by
  simp only [allText, allPieces, pieces, List.append_nil]
  induction markup.toList with
  | nil => rfl
  | cons c s ih => rw [List.map_cons, List.flatMap_cons, ih, Piece.text, List.singleton_append]

theorem allText_element {tag : String} (htag : isName tag = true ∧ tag ∉ voidTags)
    (attributes : List (String × String)) (children : List Html) :
    allText [.element tag attributes children] = allText children := by
  simp only [allText, allPieces, pieces, List.append_nil, List.flatMap_cons, List.flatMap_append,
    Piece.text, tagText_of_element htag.1 htag.2, tagText_endTag, List.nil_append, List.flatMap_nil]

theorem allText_imageHtml (url alt title : String) :
    allText [imageHtml url alt title] = alt.toList := by
  have hsrc : ("alt".toList == "src".toList) = false := by decide
  simp only [allText, allPieces, imageHtml, pieces, List.append_nil, List.flatMap_cons, Piece.text,
    tagText_img (isName_imageHtml url alt title), List.flatMap_nil, List.map_cons, List.lookup_cons, hsrc, beq_self_eq_true,
    Option.getD_some]

end Html

/-! ### Documents -/

namespace Node

mutual

/-- The text of a block: all its inline content and its code, in document order. -/
def blockText : Node → Except NoInlines String
  | .plain inlines => plainTexts inlines
  | .para inlines => plainTexts inlines
  | .codeBlock _ text => .ok text
  | .blockQuote blocks => blocksText blocks
  | .orderedList items _ => groupsText items
  | .bulletList items => groupsText items
  | .definitionList items => definitionsText items
  | .header _ inlines => plainTexts inlines
  | .table caption _ _ headings rows => do
    let title ← plainTexts caption
    let cells ← groupsText headings
    let body ← rowsText rows
    .ok (title ++ (cells ++ body))
  | _ => .ok ""

/-- The text of blocks in sequence. -/
def blocksText : List Node → Except NoInlines String
  | [] => .ok ""
  | node :: rest => do
    let text ← blockText node
    let texts ← blocksText rest
    .ok (text ++ texts)

/-- The text of list items, of definitions, or of cells. -/
def groupsText : List (List Node) → Except NoInlines String
  | [] => .ok ""
  | blocks :: rest => do
    let text ← blocksText blocks
    let texts ← groupsText rest
    .ok (text ++ texts)

/-- The text of terms, each followed by its definitions. -/
def definitionsText : List (List Node × List (List Node)) → Except NoInlines String
  | [] => .ok ""
  | (term, definitions) :: rest => do
    let title ← plainTexts term
    let body ← groupsText definitions
    let texts ← definitionsText rest
    .ok (title ++ (body ++ texts))

/-- The text of the rows of a table. -/
def rowsText : List (List (List Node)) → Except NoInlines String
  | [] => .ok ""
  | cells :: rest => do
    let text ← groupsText cells
    let texts ← rowsText rest
    .ok (text ++ texts)

end

/-- A node whose markup says what the node says: no raw markup, no code that could be read as
markup, no highlighted code, and quotation marks of the two usual kinds. -/
def IsLegible : Node → Prop
  | .code attr text => attr = urlCode → Html.IsPlain text
  | .rawInline _ _ => False
  | .rawBlock _ _ => False
  | .codeBlock attr _ => ∀ name ∈ attr.classes, Code.lexer? name = none
  | .quoted kind _ => kind = .single ∨ kind = .double
  | _ => True

theorem IsLegible.verbatim {node : Node} (h : node.IsLegible) : node.Verbatim Html.IsPlain := by
  cases node with
  | code attr text => exact h
  | rawInline format text => exact h.elim
  | rawBlock format text => exact h.elim
  | _ => trivial

end Node

/-- The text of a part of a document, read without rendering it. -/
def Content.text : Content → Except NoInlines String
  | .inline node => node.plainText
  | .inlines nodes => Node.plainTexts nodes
  | .block node => node.blockText
  | .blocks nodes => Node.blocksText nodes
  | .wrapped _ groups => Node.groupsText groups
  | .unwrapped groups => Node.groupsText groups
  | .definitions items => Node.definitionsText items
  | .rows lines => Node.rowsText lines

theorem plainMark_eq_mark {kind : QuoteKind} (h : kind = .single ∨ kind = .double) :
    kind.plainMark = kind.mark := by
  rcases h with rfl | rfl <;> rfl

open Html (allText)

/-- The text is there, and it is what the trees say. -/
def Says (text? : Except NoInlines String) (html : List Html) : Prop :=
  text? = .ok (String.ofList (allText html))

section

variable {text? first second third : Except NoInlines String} {html html₁ html₂ html₃ : List Html}

theorem says_ok {text : String} (h : allText html = text.toList) : Says (.ok text) html := by
  unfold Says
  rw [h, String.ofList_toList]

theorem Says.element {tag : String} (htag : isName tag = true ∧ tag ∉ voidTags)
    (attributes : List (String × String)) (h : Says text? html) :
    Says text? [.element tag attributes html] := by
  unfold Says
  rw [Html.allText_element htag]
  exact h

theorem Says.append (h₁ : Says first html₁) (h₂ : Says second html₂) :
    Says (do let a ← first; let b ← second; .ok (a ++ b)) (html₁ ++ html₂) := by
  unfold Says at *
  rw [h₁, h₂, Html.allText_append, String.ofList_append]
  rfl

theorem Says.append₃ (h₁ : Says first html₁) (h₂ : Says second html₂) (h₃ : Says third html₃) :
    Says (do let a ← first; let b ← second; let c ← third; .ok (a ++ (b ++ c)))
      (html₁ ++ (html₂ ++ html₃)) := by
  unfold Says at *
  rw [h₁, h₂, h₃, Html.allText_append, Html.allText_append, String.ofList_append,
    String.ofList_append]
  rfl

theorem Says.quoted {kind : QuoteKind} (hkind : kind = .single ∨ kind = .double)
    (h : Says text? html) :
    Says (do let text ← text?; .ok (kind.plainMark ++ text ++ kind.plainMark))
      (.text kind.mark :: html ++ [.text kind.mark]) := by
  unfold Says at *
  rw [h, plainMark_eq_mark hkind, Html.allText_append, Html.allText_cons, Html.allText_text, String.ofList_append,
    String.ofList_append, String.ofList_toList]
  rfl

end

/-- The markup of content says what the content says. -/
theorem says_of_shows {content : Content} {html : List Html} (h : Shows content html)
    (hlegible : ∀ node ∈ content.rendered, node.IsLegible) : Says content.text html := by
  induction h with
  | str text => exact says_ok (Html.allText_text text)
  | noInlines | noBlocks | noneWrapped _ | noneUnwrapped | noDefinitions | noRows | null =>
      exact says_ok rfl
  | space => exact says_ok rfl
  | lineBreak => exact says_ok (by decide)
  | horizontalRule => exact says_ok (by decide)
  | code text => exact says_ok (Html.allText_verbatim text)
  | rawInline text => exact (hlegible _ (Node.mem_rendered_self _)).elim
  | rawBlock format text => exact (hlegible _ (Node.mem_rendered_self _)).elim
  | codeBlock attr text =>
      rw [codeBlockHtml_eq text (hlegible _ (Node.mem_rendered_self _))]
      exact Says.element (by decide) [] (says_ok (Html.allText_text text))
  | @image inlines alt url title halt =>
      have himage : Says (.ok alt) [imageHtml url alt title] :=
        says_ok (Html.allText_imageHtml url alt title)
      rw [← halt] at himage
      exact himage
  | plain _ ih => exact ih (List.forall_mem_cons.mp hlegible).2
  | quoted kind _ ih =>
      have hchildren := ih (List.forall_mem_cons.mp hlegible).2
      exact hchildren.quoted (hlegible _ (Node.mem_rendered_self _))
  | styled style _ ih =>
      have hchildren := ih (List.forall_mem_cons.mp hlegible).2
      exact hchildren.element (isName_tag style) []
  | header htag _ ih =>
      have hchildren := ih (List.forall_mem_cons.mp hlegible).2
      exact hchildren.element (isName_of_headerTag? htag) []
  | cite _ _ ih | para _ ih | blockQuote _ ih | orderedList _ _ ih | bulletList _ ih
  | definitionList _ ih | link _ _ _ ih =>
      have hchildren := ih (List.forall_mem_cons.mp hlegible).2
      exact hchildren.element (by decide) _
  | table _ _ _ _ _ ihcells ihbody ihtitle =>
      simp only [Content.rendered, Node.rendered, List.forall_mem_cons, List.forall_mem_append]
        at hlegible
      obtain ⟨_, hcaption, hheadings, hrows⟩ := hlegible
      refine Says.element (by decide) [] ?_
      show Says _ ([_] ++ ([_] ++ [_]))
      refine Says.append₃ ?_ ?_ ?_
      · exact (ihtitle hcaption).element (by decide) []
      · exact ((ihcells hheadings).element (by decide) []).element (by decide) []
      · exact (ihbody hrows).element (by decide) []
  | inlines _ _ ihfirst ihothers | blocks _ _ ihfirst ihothers | unwrapped _ _ ihfirst ihothers =>
      obtain ⟨hfirst, hothers⟩ := List.forall_mem_append.mp hlegible
      exact (ihfirst hfirst).append (ihothers hothers)
  | @wrapped wrapper _ _ _ _ _ _ ihchildren ihothers =>
      obtain ⟨hchildren, hothers⟩ := List.forall_mem_append.mp hlegible
      exact ((ihchildren hchildren).element (isName_wrapper wrapper) []).append (ihothers hothers)
  | rows _ _ ihchildren ihothers =>
      obtain ⟨hchildren, hothers⟩ := List.forall_mem_append.mp hlegible
      exact ((ihchildren hchildren).element (by decide) []).append (ihothers hothers)
  | definitions _ _ _ ihtitle ihbody ihothers =>
      obtain ⟨htitle, hrest⟩ := List.forall_mem_append.mp hlegible
      obtain ⟨hbody, hothers⟩ := List.forall_mem_append.mp hrest
      exact Says.append₃ ((ihtitle htitle).element (by decide) []) (ihbody hbody)
        (ihothers hothers)

/-- Wherever rendering succeeds on legible nodes, its markup has the text of the nodes: as inline
content, and as a block. -/
theorem textContent_print :
    (∀ nodes html, Node.inlinesHtml nodes = .ok html →
      (∀ node ∈ Node.allRendered nodes, node.IsLegible) →
      Node.plainTexts nodes = .ok (textContent (Html.printAll html))) ∧
    (∀ block html, Node.blockHtml block = .ok html →
      (∀ node ∈ block.rendered, node.IsLegible) →
      block.blockText = .ok (textContent (Html.printAll html))) := by
  have hcontent : ∀ (content : Content) (html : List Html), content.html = .ok html →
      (∀ node ∈ content.rendered, node.IsLegible) →
      content.text = .ok (textContent (Html.printAll html)) := by
    intro content html h hlegible
    have hshows := shows_iff.mpr h
    have hregular := allRegular_of_shows hshows fun node hnode => (hlegible node hnode).verbatim
    rw [textContent, Html.scan_printAll_eq (fun _ h => h) hregular]
    exact says_of_shows hshows hlegible
  exact ⟨fun nodes => hcontent (.inlines nodes), fun block => hcontent (.block block)⟩

/-- Text that looks like tags and references is kept: as content, in the description of an image,
and in code. -/
theorem textContent_print_of_markup_in_text :
    ∃ inlines items,
      Node.inlinesHtml [.quoted .double [.styled .emph [.str "a<b>&amp;"]], .lineBreak, .space,
        .code urlCode "x>y", .image [.str "<br>\""] "u\"" "t>"] = .ok inlines ∧
      textContent (Html.printAll inlines) = "\"a<b>&amp;\"  x>y<br>\"" ∧
      Node.blockHtml (.definitionList
        [([.str "&lt;"], [[.codeBlock ⟨"", [], []⟩ "</pre>"], [.horizontalRule]])]) = .ok items ∧
      textContent (Html.printAll items) = "&lt;</pre>" := by
  have hinlines := textContent_print.1 [.quoted .double [.styled .emph [.str "a<b>&amp;"]],
    .lineBreak, .space, .code urlCode "x>y", .image [.str "<br>\""] "u\"" "t>"] _ rfl
    (by simp [Node.allRendered, Node.rendered, Node.IsLegible, Html.IsPlain])
  have hitems := textContent_print.2 (.definitionList
    [([.str "&lt;"], [[.codeBlock ⟨"", [], []⟩ "</pre>"], [.horizontalRule]])]) _ rfl
    (by simp [Node.allRendered, Node.rendered, Node.definitionsRendered, Node.groupsRendered,
      Node.IsLegible])
  exact ⟨_, _, rfl, (Except.ok.inj hinlines).symm, rfl, (Except.ok.inj hitems).symm⟩

end LiveDeck
