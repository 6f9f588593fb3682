import LiveDeck.Proofs.Page.Elements
import LiveDeck.Proofs.Text.Trim

/-! # Line breaks in the title of a page

The title in the head of a page is the title of the document on one line.  `HasBreak` looks for a
line break tag in any spelling: `<`, `br` in any letter case, blanks, perhaps a slash, `>`.

Writing a title on one line leaves no node that is seen as a line break, and its markup makes the
elements of `titleTags` and no others (`onOneLine_allOnOneLine`).  All text is escaped, so that a
line break tag can only begin in what is taken over as it stands: code of an address, and raw markup
that is not seen as a line break.  A line break tag in raw markup is seen unless there is another
blank in it than the space (`isLineBreakMarkup_iff`).  `hasBreak_headTitle` puts this together: no
line break tag if none begins in these texts, and one if one of these texts has one. -/

namespace LiveDeck

open Markup
open Html (tagNames allTagNames Regular AllRegular)

/-! ### Line break tags -/

namespace Markup

/-- A line break tag: the name in any letter case, blanks after it, perhaps a slash at its end. -/
def IsBreakTag (tag : List Char) : Prop :=
  ∃ b r blanks slash, tag = '<' :: b :: r :: (blanks ++ (slash ++ ['>'])) ∧
    (b = 'b' ∨ b = 'B') ∧ (r = 'r' ∨ r = 'R') ∧ (∀ c ∈ blanks, Text.isBlank c = true) ∧
    (slash = [] ∨ slash = ['/'])

/-- There is a line break tag in the text. -/
def HasBreak (s : List Char) : Prop := ∃ tag, IsBreakTag tag ∧ tag <:+: s

/-- No line break tag begins in the text, whatever follows it. -/
def OpensNoBreak (s : List Char) : Prop := ∀ rest, HasBreak (s ++ rest) → HasBreak rest

theorem HasBreak.of_infix {s t : List Char} (h : HasBreak s) (hst : s <:+: t) : HasBreak t := by
  obtain ⟨tag, htag, hinfix⟩ := h
  exact ⟨tag, htag, hinfix.trans hst⟩

theorem not_hasBreak_nil : ¬ HasBreak [] := by
  rintro ⟨tag, ⟨b, r, blanks, slash, rfl, _⟩, hinfix⟩
  cases List.infix_nil.mp hinfix

theorem OpensNoBreak.not_hasBreak {s : List Char} (h : OpensNoBreak s) : ¬ HasBreak s := by
  intro hbreak
  rw [← List.append_nil s] at hbreak
  exact not_hasBreak_nil (h [] hbreak)

theorem OpensNoBreak.append {s t : List Char} (hs : OpensNoBreak s) (ht : OpensNoBreak t) :
    OpensNoBreak (s ++ t) := by
  intro rest h
  rw [List.append_assoc] at h
  exact ht rest (hs _ h)

theorem hasBreak_of_cons {c : Char} {s : List Char}
    (h : c = '<' → s.head? ≠ some 'b' ∧ s.head? ≠ some 'B') (hbreak : HasBreak (c :: s)) :
    HasBreak s := by
  obtain ⟨tag, htag, hinfix⟩ := hbreak
  rcases List.infix_cons_iff.mp hinfix with hprefix | hinfix
  · obtain ⟨b, r, blanks, slash, rfl, hb, _⟩ := htag
    obtain ⟨rfl, after, rfl⟩ := List.cons_prefix_cons.mp hprefix
    obtain ⟨hsmall, hcapital⟩ := h rfl
    rcases hb with rfl | rfl
    · exact absurd rfl hsmall
    · exact absurd rfl hcapital
  · exact ⟨tag, htag, hinfix⟩

theorem opensNoBreak_of_not_mem {s : List Char} (h : '<' ∉ s) : OpensNoBreak s := by
  induction s with
  | nil => exact fun rest hbreak => hbreak
  | cons c s ih =>
      rw [List.mem_cons, not_or] at h
      intro rest hbreak
      exact ih h.2 rest (hasBreak_of_cons (fun hc => absurd hc.symm h.1) hbreak)

theorem opensNoBreak_tag {c : Char} {content : List Char} (hb : c ≠ 'b') (hB : c ≠ 'B')
    (h : '<' ∉ c :: content) : OpensNoBreak ('<' :: c :: content) := by
  intro rest hbreak
  refine opensNoBreak_of_not_mem h rest (hasBreak_of_cons (fun _ => ⟨?_, ?_⟩) hbreak)
  · exact fun hc => hb (Option.some.inj hc)
  · exact fun hc => hB (Option.some.inj hc)

end Markup

/-! ### Markup that is seen as a line break -/

namespace Text

theorem strip_of_ends {first last : Char} (s : List Char) (hfirst : isBlank first = false)
    (hlast : isBlank last = false) : strip (first :: (s ++ [last])) = first :: (s ++ [last]) := by
  have hend : (first :: (s ++ [last])).getLast? = some last := by
    rw [← List.cons_append, List.getLast?_concat]
  refine trimBy_eq_self hfirst ?_
  rw [hend]
  exact hlast

theorem toLower_of_isBlank {c : Char} (h : isBlank c = true) : c.toLower = c := by
  have hrange : ¬ (65 ≤ c.toNat ∧ c.toNat ≤ 90) := by
    simp only [isBlank, Bool.or_eq_true, Bool.and_eq_true, decide_eq_true_eq, beq_iff_eq] at h
    omega
  exact dif_neg hrange

end Text

/-- What is compared with the two spellings: the tag in small letters, without its spaces. -/
theorem compact_of_isBreakTag {b r : Char} {blanks slash : List Char} (hb : b = 'b' ∨ b = 'B')
    (hr : r = 'r' ∨ r = 'R') (hblanks : ∀ c ∈ blanks, Text.isBlank c = true)
    (hslash : slash = [] ∨ slash = ['/']) :
    (('<' :: b :: r :: (blanks ++ (slash ++ ['>']))).map Char.toLower).filter (· != ' ') =
      '<' :: 'b' :: 'r' :: (blanks.filter (· != ' ') ++ (slash ++ ['>'])) := by
  have hmap : blanks.map Char.toLower = blanks :=
    (List.map_congr_left fun c hc => Text.toLower_of_isBlank (hblanks c hc)).trans (List.map_id _)
  have hname : ['<', b, r].map Char.toLower = ['<', 'b', 'r'] := by
    rcases hb with rfl | rfl <;> rcases hr with rfl | rfl <;> decide
  have hend : ((slash ++ ['>']).map Char.toLower).filter (· != ' ') = slash ++ ['>'] := by
    rcases hslash with rfl | rfl <;> decide
  rw [show '<' :: b :: r :: (blanks ++ (slash ++ ['>'])) =
      ['<', b, r] ++ (blanks ++ (slash ++ ['>'])) from rfl, List.map_append, List.map_append, hname,
    hmap, List.filter_append, List.filter_append, hend]
  rfl

/-- A line break tag in raw markup is seen if there are no blanks in it but spaces. -/
theorem isLineBreakMarkup_iff {text : String} (h : IsBreakTag text.toList) :
    isLineBreakMarkup text = true ↔ ∀ c ∈ text.toList, Text.isBlank c = true → c = ' ' := by
  obtain ⟨b, r, blanks, slash, htext, hb, hr, hblanks, hslash⟩ := h
  have hstrip : Text.strip text.toList = text.toList := by
    rw [htext, ← List.append_assoc, ← List.cons_append, ← List.cons_append]
    exact Text.strip_of_ends _ (by decide) (by decide)
  have hspaces : blanks.filter (· != ' ') = [] ↔
      ∀ c ∈ text.toList, Text.isBlank c = true → c = ' ' := by
    have hother : (['<', b, r] ++ (slash ++ ['>'])).all (fun c => !Text.isBlank c) = true := by
      rcases hb with rfl | rfl <;> rcases hr with rfl | rfl <;> rcases hslash with rfl | rfl <;>
        decide
    rw [List.filter_eq_nil_iff, htext]
    constructor
    · intro h c hc hblank
      by_cases hmem : c ∈ blanks
      · simpa using h c hmem
      · have hfalse := List.all_eq_true.mp hother c (by simp_all)
        rw [hblank] at hfalse
        cases hfalse
    · intro h c hc
      simp [h c (by simp [hc]) (hblanks c hc)]
  rw [isLineBreakMarkup, hstrip, htext, compact_of_isBreakTag hb hr hblanks hslash, ← htext,
    ← hspaces]
  have hblank : ∀ c ∈ blanks.filter (· != ' '), Text.isBlank c = true := fun c hc =>
    hblanks c (List.mem_filter.mp hc).1
  generalize blanks.filter (· != ' ') = left at hblank
  cases left with
  | nil => rcases hslash with rfl | rfl <;> decide
  | cons c left =>
      have hc := hblank c List.mem_cons_self
      have hne : c ≠ '/' ∧ c ≠ '>' := by
        constructor <;> rintro rfl <;> revert hc <;> decide
      simp [lineBreakTag, hne.1, hne.2]

/-! ### The elements of a title on one line -/

/-- The elements that rendering makes of inline content without line breaks. -/
def titleTags : List String := ["em", "strong", "del", "sup", "sub", "small", "cite", "a", "img"]

/-- None of them is like a line break tag. -/
theorem exists_cons_of_mem_titleTags {tag : String} (h : tag ∈ titleTags) :
    ∃ c rest, tag.toList = c :: rest ∧ c ≠ 'b' ∧ c ≠ 'B' := by
  have hall : ∀ tag ∈ titleTags,
      (tag.toList.head?.any fun c => c != 'b' && c != 'B') = true := by decide
  have hhead := hall tag h
  cases htag : tag.toList with
  | nil =>
      rw [htag] at hhead
      cases hhead
  | cons c rest =>
      rw [htag] at hhead
      simp only [List.head?_cons, Option.any_some, Bool.and_eq_true, bne_iff_ne] at hhead
      exact ⟨c, rest, rfl, hhead.1, hhead.2⟩

/-- A node that is seen as a line break. -/
def Node.IsLineBreak : Node → Prop
  | .lineBreak => True
  | .rawInline _ text => isLineBreakMarkup text = true
  | _ => False

/-- Nodes without line breaks, and markup with no elements but those of a title. -/
structure OnOneLine (nodes : List Node) (html : List Html) : Prop where
  nodes : ∀ node ∈ nodes, ¬ node.IsLineBreak
  tags : ∀ tag ∈ allTagNames html, tag ∈ titleTags

theorem onOneLine_nil : OnOneLine [] [] := ⟨List.forall_mem_nil _, List.forall_mem_nil _⟩

variable {node : Node} {nodes others : List Node} {html rest : List Html}

theorem OnOneLine.append (h : OnOneLine nodes html) (hothers : OnOneLine others rest) :
    OnOneLine (nodes ++ others) (html ++ rest) where
  nodes := List.forall_mem_append.mpr ⟨h.nodes, hothers.nodes⟩
  tags := Html.forall_mem_allTagNames_append.mpr ⟨h.tags, hothers.tags⟩

theorem OnOneLine.cons (h : OnOneLine nodes html) (hnode : ¬ node.IsLineBreak) :
    OnOneLine (node :: nodes) html :=
  ⟨List.forall_mem_cons.mpr ⟨hnode, h.nodes⟩, h.tags⟩

theorem OnOneLine.element (h : OnOneLine nodes html) {tag : String} (htag : tag ∈ titleTags)
    (attributes : List (String × String)) :
    OnOneLine nodes [.element tag attributes html] :=
  ⟨h.nodes, Html.forall_mem_tagNames_element attributes htag h.tags⟩

theorem onOneLine_singleton {piece : Html} (hnode : ¬ node.IsLineBreak)
    (hpiece : ∀ tag ∈ piece.tagNames, tag ∈ titleTags) : OnOneLine [node] [piece] where
  nodes := List.forall_mem_singleton.mpr hnode
  tags := by
    rw [allTagNames, List.forall_mem_append]
    exact ⟨hpiece, List.forall_mem_nil _⟩

namespace Node

mutual

/-- A node written on one line has no line breaks, and its markup no elements but those of a
title. -/
theorem onOneLine_onOneLine : ∀ {node : Node} {html : List Html},
    inlineHtml (onOneLine node) = .ok html → OnOneLine (onOneLine node).rendered html
  | .str text, _, h => by
      cases h
      exact onOneLine_singleton id (List.forall_mem_nil _)
  | .styled style inlines, _, h => by
      obtain ⟨_, hchildren, h⟩ := bind_eq_ok.mp h
      cases h
      have htag : style.tag ∈ titleTags := by cases style <;> decide
      exact ((onOneLine_allOnOneLine hchildren).element htag []).cons id
  | .quoted kind inlines, _, h => by
      obtain ⟨_, hchildren, h⟩ := bind_eq_ok.mp h
      cases h
      have hmark : OnOneLine [] [.text kind.mark] := ⟨List.forall_mem_nil _, List.forall_mem_nil _⟩
      have hquoted := (hmark.append (onOneLine_allOnOneLine hchildren)).append hmark
      rw [List.append_nil] at hquoted
      exact hquoted.cons id
  | .cite citations inlines, _, h => by
      obtain ⟨_, hchildren, h⟩ := bind_eq_ok.mp h
      cases h
      exact ((onOneLine_allOnOneLine hchildren).element (by decide) []).cons id
  | .code attr text, _, h => by
      simp only [onOneLine, inlineHtml] at h
      split at h
      · cases h
        exact onOneLine_singleton id (List.forall_mem_nil _)
      · cases h
  | .space, _, h => by
      cases h
      exact onOneLine_singleton id (List.forall_mem_nil _)
  | .lineBreak, _, h => by
      cases h
      exact onOneLine_singleton id (List.forall_mem_nil _)
  | .math _ _, _, h => by cases h
  | .rawInline format text, _, h => by
      rw [onOneLine] at h ⊢
      split at h
      · rename_i hbreak
        rw [if_pos hbreak]
        cases h
        exact onOneLine_singleton id (List.forall_mem_nil _)
      · rename_i hbreak
        rw [if_neg hbreak]
        simp only [inlineHtml] at h
        split at h
        · cases h
          exact onOneLine_singleton hbreak (List.forall_mem_nil _)
        · cases h
  | .link inlines url title, _, h => by
      obtain ⟨_, hchildren, h⟩ := bind_eq_ok.mp h
      cases h
      exact ((onOneLine_allOnOneLine hchildren).element (by decide) _).cons id
  | .image inlines url title, _, h => by
      simp only [onOneLine, inlineHtml] at h
      split at h
      · cases h
        exact onOneLine_singleton id (List.forall_mem_singleton.mpr (by decide))
      · cases h
  | .note _, _, h => by cases h
  | .plain _, _, h => by cases h
  | .para _, _, h => by cases h
  | .codeBlock _ _, _, h => by cases h
  | .rawBlock _ _, _, h => by cases h
  | .blockQuote _, _, h => by cases h
  | .orderedList _ _, _, h => by cases h
  | .bulletList _, _, h => by cases h
  | .definitionList _, _, h => by cases h
  | .header _ _, _, h => by cases h
  | .horizontalRule, _, h => by cases h
  | .table _ _ _ _ _, _, h => by cases h
  | .null, _, h => by cases h

theorem onOneLine_allOnOneLine : ∀ {nodes : List Node} {html : List Html},
    inlinesHtml (allOnOneLine nodes) = .ok html → OnOneLine (allRendered (allOnOneLine nodes)) html
  | [], _, h => by
      cases h
      exact onOneLine_nil
  | node :: rest, _, h => by
      obtain ⟨first, hfirst, h⟩ := bind_eq_ok.mp h
      obtain ⟨others, hothers, h⟩ := bind_eq_ok.mp h
      cases h
      exact (onOneLine_onOneLine hfirst).append (onOneLine_allOnOneLine hothers)

end

end Node

/-! ### Texts taken over as they stand -/

/-- The text stands in the markup. -/
def StandsIn (html : List Html) (text : String) : Prop :=
  text.toList <:+: (Html.printAll html).toList

theorem StandsIn.append_left {html : List Html} {text : String} (h : StandsIn html text)
    (rest : List Html) : StandsIn (html ++ rest) text := by
  rw [StandsIn, Html.printAll_append, String.toList_append]
  exact h.trans (List.prefix_append _ _).isInfix

theorem StandsIn.append_right {html : List Html} {text : String} (h : StandsIn html text)
    (before : List Html) : StandsIn (before ++ html) text := by
  rw [StandsIn, Html.printAll_append, String.toList_append]
  exact h.trans (List.suffix_append _ _).isInfix

theorem StandsIn.head {piece : Html} {text : String} (h : StandsIn [piece] text)
    (rest : List Html) : StandsIn (piece :: rest) text := h.append_left rest

theorem StandsIn.tail {html : List Html} {text : String} (h : StandsIn html text)
    (piece : Html) : StandsIn (piece :: html) text := h.append_right [piece]

theorem StandsIn.element {children : List Html} {text : String} (h : StandsIn children text)
    (tag : String) (attributes : List (String × String)) :
    StandsIn [.element tag attributes children] text := by
  have hprinted : (Html.printAll [.element tag attributes children]).toList =
      (Html.printTag tag attributes).toList ++ ((Html.printAll children).toList ++
        ("</" ++ tag ++ ">").toList) := by
    simp [Html.printAll, Html.print]
  rw [StandsIn, hprinted]
  exact (h.trans (List.prefix_append _ _).isInfix).trans (List.suffix_append _ _).isInfix

theorem standsIn_verbatim (text : String) : StandsIn [.verbatim text] text := by
  simp [StandsIn, Html.printAll, Html.print]

theorem Node.Verbatim.mono {p q : String → Prop} (hpq : ∀ text, p text → q text) {node : Node}
    (h : node.Verbatim p) : node.Verbatim q := by
  cases node with
  | code attr text => exact fun hattr => hpq text (h hattr)
  | rawInline format text => exact hpq text h
  | rawBlock format text => exact hpq text h
  | _ => trivial

/-- Whatever is taken over of the nodes that are shown stands in their markup. -/
theorem standsIn_of_shows {content : Content} {html : List Html} (h : Shows content html) :
    ∀ node ∈ content.rendered, node.Verbatim (StandsIn html) := by
  induction h with
  | str _ | space | lineBreak | image _ _ _ | codeBlock _ _ | horizontalRule | null =>
      exact List.forall_mem_cons.mpr ⟨trivial, List.forall_mem_nil _⟩
  | noInlines | noBlocks | noneWrapped _ | noneUnwrapped | noDefinitions | noRows =>
      exact List.forall_mem_nil _
  | code text =>
      exact List.forall_mem_cons.mpr ⟨fun _ => standsIn_verbatim text, List.forall_mem_nil _⟩
  | rawInline text =>
      exact List.forall_mem_cons.mpr ⟨standsIn_verbatim text, List.forall_mem_nil _⟩
  | rawBlock format text =>
      exact List.forall_mem_cons.mpr ⟨standsIn_verbatim text, List.forall_mem_nil _⟩
  | plain _ ih => exact List.forall_mem_cons.mpr ⟨trivial, ih⟩
  | styled _ _ ih | cite _ _ ih | link _ _ _ ih | para _ ih | blockQuote _ ih | orderedList _ _ ih
  | bulletList _ ih | definitionList _ ih | header _ _ ih =>
      exact List.forall_mem_cons.mpr
        ⟨trivial, fun node hnode => (ih node hnode).mono fun _ h => h.element _ _⟩
  | quoted kind _ ih =>
      refine List.forall_mem_cons.mpr ⟨trivial, fun node hnode => (ih node hnode).mono ?_⟩
      exact fun _ h => (h.append_right [.text kind.mark]).append_left [.text kind.mark]
  | inlines _ _ ihfirst ihothers | blocks _ _ ihfirst ihothers | unwrapped _ _ ihfirst ihothers =>
      refine List.forall_mem_append.mpr ⟨fun node hnode => ?_, fun node hnode => ?_⟩
      · exact (ihfirst node hnode).mono fun _ h => h.append_left _
      · exact (ihothers node hnode).mono fun _ h => h.append_right _
  | wrapped _ _ ihchildren ihothers | rows _ _ ihchildren ihothers =>
      refine List.forall_mem_append.mpr ⟨fun node hnode => ?_, fun node hnode => ?_⟩
      · exact (ihchildren node hnode).mono fun _ h => (h.element _ _).head _
      · exact (ihothers node hnode).mono fun _ h => h.tail _
  | definitions _ _ _ ihtitle ihbody ihothers =>
      refine List.forall_mem_append.mpr ⟨fun node hnode => ?_,
        List.forall_mem_append.mpr ⟨fun node hnode => ?_, fun node hnode => ?_⟩⟩
      · exact (ihtitle node hnode).mono fun _ h => ((h.element _ _).head _).append_left _
      · exact (ihbody node hnode).mono fun _ h => (h.tail _).append_left _
      · exact (ihothers node hnode).mono fun _ h => h.append_right _
  | table _ _ _ _ _ ihcells ihbody ihtitle =>
      refine List.forall_mem_cons.mpr ⟨trivial, ?_⟩
      refine List.forall_mem_append.mpr ⟨fun node hnode => ?_,
        List.forall_mem_append.mpr ⟨fun node hnode => ?_, fun node hnode => ?_⟩⟩
      · exact (ihtitle node hnode).mono fun _ h => ((h.element _ _).head _).element _ _
      · exact (ihcells node hnode).mono fun _ h =>
          ((((h.element _ _).element _ _).head _).tail _).element _ _
      · exact (ihbody node hnode).mono fun _ h => (((h.element _ _).tail _).tail _).element _ _

/-! ### The title of a page -/

theorem closedUnderPrinting_opensNoBreak :
    Html.ClosedUnderPrinting (fun text => OpensNoBreak text.toList) (· ∈ titleTags)
      OpensNoBreak where
  append := fun _ _ hs ht => hs.append ht
  plain := fun _ h => opensNoBreak_of_not_mem h
  verbatim := fun _ h => h
  startTag := by
    intro tag attributes htag hok hnames
    have hcontent : '<' ∉ tagContent tag attributes := not_mem_tagContent (Or.inl rfl) htag hnames
    obtain ⟨c, rest, hname, hb, hB⟩ := exists_cons_of_mem_titleTags hok
    rw [tagContent, hname, List.cons_append] at hcontent
    rw [toList_printTag, tagContent, hname, List.cons_append, List.cons_append]
    refine opensNoBreak_tag hb hB ?_
    rw [← List.cons_append, List.mem_append, not_or]
    exact ⟨hcontent, by decide⟩
  endTag := by
    intro tag htag _
    have hprinted : ("</" ++ tag ++ ">").toList = '<' :: '/' :: (tag.toList ++ ['>']) := by simp
    have hname : '<' ∉ tag.toList := not_mem_of_isName htag (by decide)
    rw [hprinted]
    exact opensNoBreak_tag (by decide) (by decide) (by simp [hname])

theorem exists_printPage_eq (title : List Html) (stylesheet : String) (body : List Html) :
    ∃ rest, printPage (.element "html" [] (headHtml title stylesheet :: body)) =
      "<!DOCTYPE html>\n<html><head><title>" ++ Html.printAll title ++ "</title>" ++ rest := by
  have hstart : "<!DOCTYPE html>\n<html><head><title>" = "<!DOCTYPE html>\n" ++
      (Html.printTag "html" [] ++ (Html.printTag "head" [] ++ Html.printTag "title" [])) := by rfl
  have hend : "</title>" = "</" ++ ("title" ++ ">") := by rfl
  have hpage : ∀ root, printPage root = "<!DOCTYPE html>\n" ++ root.print := fun _ => rfl
  simp only [hpage, headHtml, Html.print, Html.printAll, hstart, hend, String.append_assoc]
  exact ⟨_, rfl⟩

namespace Document

/-- What stands between `<title>` and `</title>` in the head of the page. -/
def headTitle (doc : Document) : Except RenderError String := do
  let html ← Node.inlinesHtml (Node.allOnOneLine doc.title)
  .ok (Html.printAll html)

/-- The title of a page is that of the document on one line, and the page starts with it.  It has
no line break tag if none begins in a text that is taken over as it stands, and it has one if one of
these texts has one.  Raw markup that is taken over and is itself a line break tag has a blank other
than the space. -/
theorem hasBreak_headTitle {doc : Document} {stylesheet page : String}
    (h : doc.page stylesheet = .ok page) :
    ∃ title rest, doc.headTitle = .ok title ∧
      page = "<!DOCTYPE html>\n<html><head><title>" ++ title ++ "</title>" ++ rest ∧
      ((∀ node ∈ Node.allRendered (Node.allOnOneLine doc.title),
        node.Verbatim fun text => OpensNoBreak text.toList) → ¬ HasBreak title.toList) ∧
      (∀ node ∈ Node.allRendered (Node.allOnOneLine doc.title),
        node.Verbatim fun text => HasBreak text.toList → HasBreak title.toList) ∧
      ∀ format text, .rawInline format text ∈ Node.allRendered (Node.allOnOneLine doc.title) →
        IsBreakTag text.toList → ∃ c ∈ text.toList, Text.isBlank c = true ∧ c ≠ ' ' := by
  obtain ⟨root, hroot, h⟩ := bind_eq_ok.mp h
  cases h
  unfold Document.html at hroot
  obtain ⟨html, htitle, hroot⟩ := bind_eq_ok.mp hroot
  obtain ⟨authors, _, hroot⟩ := bind_eq_ok.mp hroot
  obtain ⟨title, _, hroot⟩ := bind_eq_ok.mp hroot
  obtain ⟨date, _, hroot⟩ := bind_eq_ok.mp hroot
  obtain ⟨articles, _, hroot⟩ := bind_eq_ok.mp hroot
  cases hroot
  have hshows : Shows (.inlines (Node.allOnOneLine doc.title)) html := shows_iff.mpr htitle
  have honeLine := Node.onOneLine_allOnOneLine htitle
  obtain ⟨rest, hpage⟩ := exists_printPage_eq html stylesheet [_]
  refine ⟨Html.printAll html, rest, bind_eq_ok.mpr ⟨html, htitle, rfl⟩, hpage, ?_, ?_, ?_⟩
  · intro hverbatim
    have hregular := allRegular_of_shows hshows hverbatim
    exact (closedUnderPrinting_opensNoBreak.printAll hregular honeLine.tags).not_hasBreak
  · intro node hnode
    exact (standsIn_of_shows hshows node hnode).mono fun _ hstands hbreak => hbreak.of_infix hstands
  · intro format text hmem hbreak
    have hseen : ¬ isLineBreakMarkup text = true := honeLine.nodes _ hmem
    rw [isLineBreakMarkup_iff hbreak] at hseen
    simpa only [Classical.not_forall, exists_prop] using hseen

/-- Line breaks as a node, in text, in raw markup, in a link and in an address: none in the title,
which keeps other markup. -/
theorem not_hasBreak_headTitle_of_many_breaks :
    let doc : Document := ⟨[.str "<br>", .lineBreak, .rawInline "html" "<BR / >",
      .rawInline "html" "<i>", .link [.lineBreak] "<br>" ""], [], [], []⟩
    ∃ page rest, doc.page "a.css" = .ok page ∧
      page = "<!DOCTYPE html>\n<html><head><title>" ++
        " &nbsp;&nbsp;<i><a href=\"&lt;br&gt;\" title=\"\">&nbsp;</a>" ++ "</title>" ++ rest ∧
      ¬ HasBreak " &nbsp;&nbsp;<i><a href=\"&lt;br&gt;\" title=\"\">&nbsp;</a>".toList := by
  intro doc
  obtain ⟨page, hpage⟩ : ∃ page, doc.page "a.css" = .ok page := ⟨_, rfl⟩
  obtain ⟨title, rest, htitle, hstart, hnone, _⟩ := hasBreak_headTitle hpage
  have hprinted : doc.headTitle =
      .ok " &nbsp;&nbsp;<i><a href=\"&lt;br&gt;\" title=\"\">&nbsp;</a>" := by rfl
  obtain rfl := Except.ok.inj (hprinted.symm.trans htitle)
  refine ⟨page, rest, hpage, hstart, hnone ?_⟩
  have hmarkup : OpensNoBreak "<i>".toList :=
    opensNoBreak_tag (by decide) (by decide) (by decide)
  have hnodes : Node.allRendered (Node.allOnOneLine doc.title) =
      [.str " ", .space, .space, .rawInline "html" "<i>", .link [.space] "<br>" "", .space] := by
    rfl
  rw [hnodes]
  simpa [Node.Verbatim] using hmarkup

/-- Raw markup with a tab in the line break tag stays in the title. -/
theorem hasBreak_headTitle_of_tab :
    let doc : Document := ⟨[.str "a", .rawInline "html" "<br\t>", .str "b"], [], [], []⟩
    ∃ page rest title, doc.page "a.css" = .ok page ∧ doc.headTitle = .ok title ∧
      page = "<!DOCTYPE html>\n<html><head><title>" ++ title ++ "</title>" ++ rest ∧
      HasBreak title.toList := by
  intro doc
  obtain ⟨rest, hstart⟩ :=
    exists_printPage_eq [.text "a", .verbatim "<br\t>", .text "b"] "a.css" [_]
  refine ⟨_, rest, "a<br\t>b", rfl, rfl, hstart, ?_⟩
  exact ⟨"<br\t>".toList, ⟨'b', 'r', ['\t'], [], rfl, .inl rfl, .inl rfl,
    List.forall_mem_singleton.mpr rfl, .inl rfl⟩, ['a'], ['b'], rfl⟩

end Document

end LiveDeck
