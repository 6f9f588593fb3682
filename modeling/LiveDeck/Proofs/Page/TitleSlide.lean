import LiveDeck.Proofs.Document.OneLine
import LiveDeck.Proofs.Page.Regular

/-! # The title in the head and on the title slide

A page shows the title of its document twice: in its head on one line, and on the title slide with
its line breaks.  `Html.unbroken` takes the line breaks out of markup.  Rendering a title on one line
gives the markup of the title without its breaks, and fails where rendering the title fails
(`Node.inlinesHtml_allOnOneLine`).  In printed markup, taking the breaks out is to replace every
`<br>` by `&nbsp;` (`Html.replace_printAll`): no text, no attribute and no other tag has a `<br>` in
it, nor do two pieces of markup where they meet.

Both need a title whose breaks are all line break nodes (`Node.HasPlainBreaks`): raw markup and code
are taken over as they stand, and a tag written out in text is escaped on the title slide but is a
space in the head. -/

namespace LiveDeck

open Markup

/-! ### Replacing piece by piece -/

namespace Text

variable {pattern new s t s' t' : List Char}

/-- Replacing turns `s` into `t`, whatever follows. -/
def TurnsInto (pattern new s t : List Char) : Prop :=
  ∀ rest, replace pattern new (s ++ rest) = t ++ replace pattern new rest

theorem turnsInto_nil : TurnsInto pattern new [] [] := fun _ => rfl

theorem TurnsInto.append (h : TurnsInto pattern new s t) (h' : TurnsInto pattern new s' t') :
    TurnsInto pattern new (s ++ s') (t ++ t') := by
  intro rest
  rw [List.append_assoc, h, h', List.append_assoc]

theorem TurnsInto.replace_eq (h : TurnsInto pattern new s t) : replace pattern new s = t := by
  have hall := h []
  rwa [List.append_nil, show replace pattern new [] = [] from rfl, List.append_nil] at hall

theorem replace_cons_of_not_prefix {c : Char} (h : ¬ pattern <+: c :: s) :
    replace pattern new (c :: s) = c :: replace pattern new s := by
  have hnone : ¬ (dropPrefix? pattern (c :: s)).isSome := by
    rw [Option.isSome_iff_exists]
    rintro ⟨rest, hrest⟩
    exact h ⟨rest, (dropPrefix?_eq_some_iff.mp hrest).symm⟩
  rw [replace, replaceFrom, if_neg hnone]
  rfl

theorem replaceFrom_eq_replace_drop (count : Nat) (s : List Char) :
    replaceFrom pattern new count s = replace pattern new (s.drop count) := by
  induction count generalizing s with
  | zero => rfl
  | succ count ih =>
      cases s with
      | nil => rfl
      | cons c s => exact ih s

theorem turnsInto_pattern (hpattern : pattern ≠ []) : TurnsInto pattern new pattern new := by
  intro rest
  obtain ⟨p, others, rfl⟩ := List.exists_cons_of_ne_nil hpattern
  have hfound : (dropPrefix? (p :: others) (p :: (others ++ rest))).isSome := by
    rw [Option.isSome_iff_exists]
    exact ⟨rest, dropPrefix?_eq_some_iff.mpr rfl⟩
  have hrest : (others ++ rest).drop ((p :: others).length - 1) = rest := List.drop_left
  rw [List.cons_append, replace, replaceFrom, if_pos hfound, replaceFrom_eq_replace_drop, hrest]

theorem turnsInto_of_not_mem {p : Char} {others : List Char} (h : p ∉ s) :
    TurnsInto (p :: others) new s s := by
  intro rest
  induction s with
  | nil => rfl
  | cons c s ih =>
      rw [List.mem_cons, not_or] at h
      have hnot : ¬ p :: others <+: c :: (s ++ rest) := by
        intro hprefix
        exact h.1 (List.cons_prefix_cons.mp hprefix).1
      rw [List.cons_append, replace_cons_of_not_prefix hnot, ih h.2]
      rfl

end Text

open Text (TurnsInto)

/-! ### Markup without line breaks -/

/-- The hard space that stands for a line break. -/
def hardSpaceReference : List Char := "&nbsp;".toList

theorem lineBreakTag_eq : lineBreakTag = ['<', 'b', 'r', '>'] := by decide

theorem turnsInto_tag {content : List Char} (hlt : '<' ∉ content)
    (hother : ∀ rest, ¬ ['b', 'r', '>'] <+: content ++ rest) :
    TurnsInto lineBreakTag hardSpaceReference ('<' :: content) ('<' :: content) := by
  rw [lineBreakTag_eq]
  intro rest
  have hnot : ¬ ['<', 'b', 'r', '>'] <+: '<' :: (content ++ rest) := by
    intro hprefix
    exact hother rest (List.cons_prefix_cons.mp hprefix).2
  have hinside : TurnsInto ['<', 'b', 'r', '>'] hardSpaceReference content content :=
    Text.turnsInto_of_not_mem hlt
  rw [List.cons_append, Text.replace_cons_of_not_prefix hnot, hinside, List.cons_append]

theorem turnsInto_printTag {tag : String} {attributes : List (String × String)}
    (htag : isName tag = true) (hnames : ∀ pair ∈ attributes, isName pair.1 = true)
    (hbreak : ¬ (tag = "br" ∧ attributes = [])) :
    TurnsInto lineBreakTag hardSpaceReference (Html.printTag tag attributes).toList
      (Html.printTag tag attributes).toList := by
  have hlt : '<' ∉ tagContent tag attributes := not_mem_tagContent (Or.inl rfl) htag hnames
  have halnum : ∀ c ∈ tag.toList, c.isAlphanum = true := by
    simp only [isName, Bool.and_eq_true, List.all_eq_true] at htag
    exact htag.2
  rw [toList_printTag]
  apply turnsInto_tag
  · simpa using hlt
  · rintro rest ⟨after, hafter⟩
    apply hbreak
    cases attributes with
    | nil =>
        have hname := congrArg (List.takeWhile Char.isAlphanum) hafter
        simp only [tagContent, List.flatMap_nil, List.append_nil, List.append_assoc,
          List.takeWhile_append_of_pos halnum] at hname
        have hbr : tag.toList = "br".toList := by simpa using hname.symm
        exact ⟨String.toList_inj.mp hbr, rfl⟩
    | cons pair attributes =>
        have hmore := congrArg (List.dropWhile Char.isAlphanum) hafter
        simp only [tagContent, List.flatMap_cons, toList_printAttribute, List.cons_append,
          List.append_assoc, List.dropWhile_append_of_pos halnum] at hmore
        have hhead := congrArg List.head? hmore
        simp at hhead

theorem turnsInto_endTag {tag : String} (htag : isName tag = true) :
    TurnsInto lineBreakTag hardSpaceReference ("</" ++ tag ++ ">").toList
      ("</" ++ tag ++ ">").toList := by
  have hprinted : ("</" ++ tag ++ ">").toList = '<' :: '/' :: (tag.toList ++ ['>']) := by simp
  have hname : '<' ∉ tag.toList := not_mem_of_isName htag (by decide)
  rw [hprinted]
  apply turnsInto_tag
  · simp [hname]
  · intro rest hprefix
    exact absurd (List.cons_prefix_cons.mp hprefix).1 (by decide)

namespace Html

mutual

/-- Markup with a hard space for every line break. -/
def unbroken : Html → Html
  | .void tag attributes =>
    if tag = "br" ∧ attributes = [] then .hardSpace else .void tag attributes
  | .element tag attributes children => .element tag attributes (allUnbroken children)
  | piece => piece

/-- Markup in sequence with a hard space for every line break. -/
def allUnbroken : List Html → List Html
  | [] => []
  | piece :: rest => unbroken piece :: allUnbroken rest

end

theorem allUnbroken_append (html rest : List Html) :
    allUnbroken (html ++ rest) = allUnbroken html ++ allUnbroken rest := by
  induction html with
  | nil => rfl
  | cons piece html ih => rw [List.cons_append, allUnbroken, allUnbroken, ih, List.cons_append]

mutual

theorem turnsInto_print : ∀ {html : Html}, html.Regular (fun _ => False) →
    TurnsInto lineBreakTag hardSpaceReference html.print.toList html.unbroken.print.toList
  | .text content, _ => by
      have hsame : (Html.text content).unbroken = .text content := rfl
      rw [hsame, print]
      exact Text.turnsInto_of_not_mem (Text.not_mem_escapeContent content)
  | .hardSpace, _ => Text.turnsInto_of_not_mem (by decide)
  | .verbatim _, h => h.elim
  | .element tag attributes children, h => by
      obtain ⟨htag, hvoid, hnames, hchildren⟩ := h
      have hbreak : ¬ (tag = "br" ∧ attributes = []) := by
        rintro ⟨rfl, _⟩
        exact hvoid (by decide)
      have hprinted : ∀ inside, (Html.element tag attributes inside).print.toList =
          (printTag tag attributes).toList ++
            ((printAll inside).toList ++ ("</" ++ tag ++ ">").toList) := by
        intro inside
        simp [print]
      rw [unbroken, hprinted, hprinted]
      have hstart := turnsInto_printTag htag hnames hbreak
      exact hstart.append ((turnsInto_printAll hchildren).append (turnsInto_endTag htag))
  | .void tag attributes, h => by
      obtain ⟨htag, _, hnames⟩ := h
      rw [unbroken]
      split
      · rename_i hbreak
        obtain ⟨rfl, rfl⟩ := hbreak
        exact Text.turnsInto_pattern (by decide)
      · rename_i hbreak
        rw [print]
        exact turnsInto_printTag htag hnames hbreak

theorem turnsInto_printAll : ∀ {html : List Html}, AllRegular (fun _ => False) html →
    TurnsInto lineBreakTag hardSpaceReference (printAll html).toList
      (printAll (allUnbroken html)).toList
  | [], _ => Text.turnsInto_nil
  | piece :: html, h => by
      rw [allUnbroken, printAll, printAll, String.toList_append, String.toList_append]
      exact (turnsInto_print h.1).append (turnsInto_printAll h.2)

end

/-- In printed markup, taking out the line breaks is replacing their tags. -/
theorem replace_printAll {html : List Html} (h : AllRegular (fun _ => False) html) :
    Text.replace lineBreakTag hardSpaceReference (printAll html).toList =
      (printAll (allUnbroken html)).toList :=
  (turnsInto_printAll h).replace_eq

end Html

/-! ### Titles whose breaks are nodes -/

namespace Node

/-- A node in which nothing but a line break node can be a line break: no raw markup, no code, and
no text with the tag written out. -/
def HasPlainBreaks : Node → Prop
  | .rawInline _ _ => False
  | .code _ _ => False
  | .str text => ¬ lineBreakTag <:+: text.toList
  | _ => True

mutual

/-- A description whose breaks are nodes has one text with its breaks and without them. -/
theorem plainText_onOneLine : ∀ {node : Node}, (∀ part ∈ inlineParts node, part.HasPlainBreaks) →
    plainText (onOneLine node) = plainText node
  | .str text, h => by
      have htag : ¬ lineBreakTag <:+: text.toList := h _ List.mem_cons_self
      rw [onOneLine, Text.replace_of_avoids htag, String.ofList_toList]
  | .rawInline _ _, h => (h _ List.mem_cons_self).elim
  | .styled _ inlines, h => plainTexts_allOnOneLine (List.forall_mem_cons.mp h).2
  | .cite _ inlines, h => plainTexts_allOnOneLine (List.forall_mem_cons.mp h).2
  | .link inlines _ _, h => plainTexts_allOnOneLine (List.forall_mem_cons.mp h).2
  | .image inlines _ _, h => plainTexts_allOnOneLine (List.forall_mem_cons.mp h).2
  | .quoted kind inlines, h => by
      rw [onOneLine, plainText, plainText, plainTexts_allOnOneLine (List.forall_mem_cons.mp h).2]
  | .lineBreak, _ => rfl
  | .code _ _, _ => rfl
  | .space, _ => rfl
  | .math _ _, _ => rfl
  | .note _, _ => rfl
  | .plain _, _ => rfl
  | .para _, _ => rfl
  | .codeBlock _ _, _ => rfl
  | .rawBlock _ _, _ => rfl
  | .blockQuote _, _ => rfl
  | .orderedList _ _, _ => rfl
  | .bulletList _, _ => rfl
  | .definitionList _, _ => rfl
  | .header _ _, _ => rfl
  | .horizontalRule, _ => rfl
  | .table _ _ _ _ _, _ => rfl
  | .null, _ => rfl

theorem plainTexts_allOnOneLine : ∀ {nodes : List Node},
    (∀ part ∈ allInlineParts nodes, part.HasPlainBreaks) →
      plainTexts (allOnOneLine nodes) = plainTexts nodes
  | [], _ => rfl
  | node :: rest, h => by
      obtain ⟨hnode, hrest⟩ := List.forall_mem_append.mp h
      rw [allOnOneLine, plainTexts, plainTexts, plainText_onOneLine hnode,
        plainTexts_allOnOneLine hrest]

end

theorem map_bind_ok {ε α β : Type} {f : α → α} {g h : α → β} {view : β → β}
    (hview : ∀ a, g (f a) = view (h a)) (result : Except ε α) :
    (result.map f >>= fun a => .ok (g a)) = (result >>= fun a => .ok (h a)).map view := by
  cases result with
  | error cause => rfl
  | ok a => exact congrArg Except.ok (hview a)

mutual

/-- Rendering a node on one line gives its markup without line breaks, or fails as its rendering
does. -/
theorem inlineHtml_onOneLine : ∀ {node : Node},
    (∀ part ∈ inlineParts node, part.HasPlainBreaks) →
      inlineHtml (onOneLine node) = (inlineHtml node).map Html.allUnbroken
  | .str text, h => by
      have htag : ¬ lineBreakTag <:+: text.toList := h _ List.mem_cons_self
      rw [onOneLine, Text.replace_of_avoids htag, String.ofList_toList]
      rfl
  | .rawInline _ _, h => (h _ List.mem_cons_self).elim
  | .code _ _, h => (h _ List.mem_cons_self).elim
  | .styled style inlines, h => by
      rw [onOneLine, inlineHtml, inlineHtml, inlinesHtml_allOnOneLine (List.forall_mem_cons.mp h).2]
      apply map_bind_ok
      intro children
      rfl
  | .cite citations inlines, h => by
      rw [onOneLine, inlineHtml, inlineHtml, inlinesHtml_allOnOneLine (List.forall_mem_cons.mp h).2]
      apply map_bind_ok
      intro children
      rfl
  | .link inlines url title, h => by
      rw [onOneLine, inlineHtml, inlineHtml, inlinesHtml_allOnOneLine (List.forall_mem_cons.mp h).2]
      apply map_bind_ok
      intro children
      rfl
  | .quoted kind inlines, h => by
      rw [onOneLine, inlineHtml, inlineHtml, inlinesHtml_allOnOneLine (List.forall_mem_cons.mp h).2]
      apply map_bind_ok
      intro children
      rw [Html.allUnbroken_append]
      rfl
  | .image inlines url title, h => by
      rw [onOneLine, inlineHtml, inlineHtml, plainTexts_allOnOneLine (List.forall_mem_cons.mp h).2]
      cases plainTexts inlines with
      | error cause => rfl
      | ok alt => rfl
  | .lineBreak, _ => rfl
  | .space, _ => rfl
  | .math _ _, _ => rfl
  | .note _, _ => rfl
  | .plain _, _ => rfl
  | .para _, _ => rfl
  | .codeBlock _ _, _ => rfl
  | .rawBlock _ _, _ => rfl
  | .blockQuote _, _ => rfl
  | .orderedList _ _, _ => rfl
  | .bulletList _, _ => rfl
  | .definitionList _, _ => rfl
  | .header _ _, _ => rfl
  | .horizontalRule, _ => rfl
  | .table _ _ _ _ _, _ => rfl
  | .null, _ => rfl

theorem inlinesHtml_allOnOneLine : ∀ {nodes : List Node},
    (∀ part ∈ allInlineParts nodes, part.HasPlainBreaks) →
      inlinesHtml (allOnOneLine nodes) = (inlinesHtml nodes).map Html.allUnbroken
  | [], _ => rfl
  | node :: rest, h => by
      obtain ⟨hnode, hrest⟩ := List.forall_mem_append.mp h
      rw [allOnOneLine, inlinesHtml, inlinesHtml, inlineHtml_onOneLine hnode,
        inlinesHtml_allOnOneLine hrest]
      cases inlineHtml node with
      | error cause => rfl
      | ok first =>
          apply map_bind_ok
          intro others
          exact (Html.allUnbroken_append first others).symm

end

theorem verbatim_of_shows {content : Content} {html : List Html} (h : Shows content html) :
    (∀ node, content = .inline node → (∀ part ∈ inlineParts node, part.HasPlainBreaks) →
      ∀ part ∈ node.rendered, part.Verbatim fun _ => False) ∧
    (∀ nodes, content = .inlines nodes → (∀ part ∈ allInlineParts nodes, part.HasPlainBreaks) →
      ∀ part ∈ allRendered nodes, part.Verbatim fun _ => False) := by
  induction h with
  | str _ | space | lineBreak | image _ _ _ =>
      refine ⟨?_, by simp⟩
      rintro node ⟨⟩ _
      exact List.forall_mem_cons.mpr ⟨trivial, List.forall_mem_nil _⟩
  | code _ | rawInline _ =>
      refine ⟨?_, by simp⟩
      rintro node ⟨⟩ hplain
      exact (hplain _ List.mem_cons_self).elim
  | styled _ _ ih | quoted _ _ ih | cite _ _ ih | link _ _ _ ih =>
      refine ⟨?_, by simp⟩
      rintro node ⟨⟩ hplain
      have hinlines := ih.2 _ rfl (List.forall_mem_cons.mp hplain).2
      exact List.forall_mem_cons.mpr ⟨trivial, hinlines⟩
  | noInlines =>
      refine ⟨by simp, ?_⟩
      rintro nodes ⟨⟩ _
      exact List.forall_mem_nil _
  | inlines _ _ ihfirst ihothers =>
      refine ⟨by simp, ?_⟩
      rintro nodes ⟨⟩ hplain
      obtain ⟨hfirst, hothers⟩ := List.forall_mem_append.mp hplain
      exact List.forall_mem_append.mpr ⟨ihfirst.1 _ rfl hfirst, ihothers.2 _ rfl hothers⟩
  | _ => exact ⟨by simp, by simp⟩

end Node

/-! ### The two titles of a page -/

namespace Document

/-- What a page is made of: its title on one line in the head, its title on the title slide. -/
theorem exists_html_eq {doc : Document} {stylesheet : String} {root : Html} {head heading : List Html}
    (hhead : Node.inlinesHtml (Node.allOnOneLine doc.title) = .ok head)
    (hheading : Node.inlinesHtml doc.title = .ok heading)
    (h : doc.html stylesheet = .ok root) :
    ∃ authors date articles, root = .element "html" []
      [headHtml head stylesheet,
        .element "body" [("style", "display: none")]
          [.element "section" [("class", templateClass)]
            (titleSlideHtml heading authors date :: articles)]] := by
  unfold Document.html at h
  obtain ⟨head', hhead', h⟩ := bind_eq_ok.mp h
  obtain ⟨authors, _, h⟩ := bind_eq_ok.mp h
  obtain ⟨heading', hheading', h⟩ := bind_eq_ok.mp h
  obtain ⟨date, _, h⟩ := bind_eq_ok.mp h
  obtain ⟨articles, _, h⟩ := bind_eq_ok.mp h
  cases hhead.symm.trans hhead'
  cases hheading.symm.trans hheading'
  cases h
  exact ⟨authors, date, articles, rfl⟩

/-- A title whose breaks are line break nodes is rendered on one line and with its breaks, or neither
way for one and the same reason.  The markup on one line is the other with every `<br>` replaced by
`&nbsp;`.  The first stands in the head of the page, the second on its title slide. -/
theorem replace_title {doc : Document}
    (h : ∀ part ∈ Node.allInlineParts doc.title, part.HasPlainBreaks) :
    (∃ cause, Node.inlinesHtml (Node.allOnOneLine doc.title) = .error cause ∧
      Node.inlinesHtml doc.title = .error cause) ∨
    ∃ head heading, Node.inlinesHtml (Node.allOnOneLine doc.title) = .ok head ∧
      Node.inlinesHtml doc.title = .ok heading ∧
      (Html.printAll head).toList =
        Text.replace "<br>".toList "&nbsp;".toList (Html.printAll heading).toList ∧
      ∀ stylesheet root, doc.html stylesheet = .ok root →
        ∃ authors date articles, root = .element "html" []
          [headHtml head stylesheet,
            .element "body" [("style", "display: none")]
              [.element "section" [("class", templateClass)]
                (titleSlideHtml heading authors date :: articles)]] := by
  have honeLine := Node.inlinesHtml_allOnOneLine h
  cases hheading : Node.inlinesHtml doc.title with
  | error cause =>
      rw [hheading] at honeLine
      exact .inl ⟨cause, honeLine, rfl⟩
  | ok heading =>
      rw [hheading] at honeLine
      have hhead : Node.inlinesHtml (Node.allOnOneLine doc.title) =
          .ok (Html.allUnbroken heading) := honeLine
      have hshows : Shows (.inlines doc.title) heading := shows_iff.mpr hheading
      have hverbatim := (Node.verbatim_of_shows hshows).2 doc.title rfl h
      have hregular := allRegular_of_shows hshows hverbatim
      refine .inr ⟨Html.allUnbroken heading, heading, hhead, rfl, ?_, ?_⟩
      · exact (Html.replace_printAll hregular).symm
      · intro stylesheet root hroot
        exact exists_html_eq hhead hheading hroot

/-- Breaks in a link and in a description, and text, addresses and descriptions that look like breaks
next to each other. -/
theorem replace_title_of_breaks_everywhere :
    let doc : Document := ⟨[.str "<b", .str "r>", .lineBreak,
      .link [.styled .strong [.lineBreak], .space] "<br>" "<br>",
      .image [.math .inline "<br>", .lineBreak] "a" "", .quoted .double [.lineBreak]], [], [], []⟩
    (∀ part ∈ Node.allInlineParts doc.title, part.HasPlainBreaks) ∧
      ∃ head heading, Node.inlinesHtml (Node.allOnOneLine doc.title) = .ok head ∧
        Node.inlinesHtml doc.title = .ok heading ∧
        Html.printAll heading = "&lt;br&gt;<br>" ++
          "<a href=\"&lt;br&gt;\" title=\"&lt;br&gt;\"><strong><br></strong>&nbsp;</a>" ++
          "<img src=\"a\" alt=\"&lt;br&gt; \" title=\"\" class=\"centered\">\"<br>\"" ∧
        (Html.printAll head).toList =
          Text.replace "<br>".toList "&nbsp;".toList (Html.printAll heading).toList := by
  intro doc
  have hplain : ∀ part ∈ Node.allInlineParts doc.title, part.HasPlainBreaks := by
    have hparts : Node.allInlineParts doc.title = [.str "<b", .str "r>", .lineBreak,
        .link [.styled .strong [.lineBreak], .space] "<br>" "<br>",
        .styled .strong [.lineBreak], .lineBreak, .space,
        .image [.math .inline "<br>", .lineBreak] "a" "", .math .inline "<br>", .lineBreak,
        .quoted .double [.lineBreak], .lineBreak] := rfl
    have hhalves : ¬ lineBreakTag <:+: ['<', 'b'] ∧ ¬ lineBreakTag <:+: ['r', '>'] := by decide
    rw [hparts]
    simpa [Node.HasPlainBreaks] using hhalves
  refine ⟨hplain, ?_⟩
  rcases replace_title hplain with ⟨cause, _, hcause⟩ | ⟨head, heading, hhead, hheading, hreplace, _⟩
  · cases hcause
  · refine ⟨head, heading, hhead, hheading, ?_, hreplace⟩
    cases hheading
    rfl

end Document

end LiveDeck
