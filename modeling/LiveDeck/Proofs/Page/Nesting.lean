import LiveDeck.Proofs.Page.Regular

/-! # Pages are well formed

`isNested` follows the tags of markup with the names of the open elements, innermost first: a start
tag opens an element unless it is one of `voidTags`, an end tag has to name the innermost open
element, and in the end none is open.  Angle brackets have to be those of tags.  A page is such
markup after its document type declaration (`IsPage`).

`isNested_print` says that rendering gives nothing else: pages, and the markup of single blocks and
inlines, as long as no node is taken over verbatim and no code is highlighted (`Node.IsTame`).
The one step is `isNested_pieces`: the pieces of a tree leave the open elements as they were,
whatever they are. -/

namespace LiveDeck

namespace Markup

/-- What a tag does to the open elements. -/
inductive TagKind where
  | opening (name : String)
  | closing (name : String)
  | void
  deriving DecidableEq, Repr

/-- The kind of a tag, from what is between its angle brackets. -/
def tagKind : List Char → TagKind
  | '/' :: name => .closing (String.ofList name)
  | content =>
    let name := String.ofList (content.takeWhile (· != ' '))
    if name ∈ voidTags then .void else .opening name

/-- Whether every angle bracket is that of a tag, and every tag closes the innermost open element
or opens one that is closed later, with the given elements open at the beginning. -/
def isNested (elements : List String) : List Piece → Bool
  | [] => elements.isEmpty
  | .char c :: rest => c != '>' && isNested elements rest
  | .reference _ :: rest => isNested elements rest
  | .unclosed _ :: _ => false
  | .tag content :: rest =>
    !content.contains '<' &&
      match tagKind content with
      | .opening name => isNested (name :: elements) rest
      | .closing name => elements.head? == some name && isNested elements.tail rest
      | .void => isNested elements rest

/-- Markup that leaves no element open and closes none that it did not open. -/
def IsWellFormed (markup : String) : Prop := isNested [] (scan markup.toList) = true

/-- The declaration at the beginning of a page. -/
def documentType : List Char := "!DOCTYPE html".toList

/-- A document type declaration, and well-formed markup after it. -/
def IsPage (markup : String) : Prop :=
  ∃ rest, scan markup.toList = .tag documentType :: rest ∧ isNested [] rest = true

/-! ### Tags -/

theorem tagKind_endTag (tag : String) : tagKind ('/' :: tag.toList) = .closing tag := by
  rw [tagKind, String.ofList_toList]

theorem tagKind_tagContent {tag : String} (htag : isName tag = true)
    (attributes : List (String × String)) :
    tagKind (tagContent tag attributes) = if tag ∈ voidTags then .void else .opening tag := by
  have hslash : ∀ name, tagContent tag attributes ≠ '/' :: name := by
    intro name hcontent
    have hname := takeWhile_tagContent htag attributes
    rw [hcontent, List.takeWhile_cons_of_pos (by decide)] at hname
    have hmem : '/' ∈ tag.toList := by
      rw [← hname]
      exact List.mem_cons_self
    exact not_mem_of_isName htag (by decide) hmem
  unfold tagKind
  split
  · rename_i name hcontent
    exact (hslash name hcontent).elim
  · rw [takeWhile_tagContent htag, String.ofList_toList]

variable {elements : List String} {rest : List Piece}

theorem isNested_startTag {tag : String} {attributes : List (String × String)}
    (htag : isName tag = true) (hnames : ∀ pair ∈ attributes, isName pair.1 = true) :
    isNested elements (.tag (tagContent tag attributes) :: rest) =
      if tag ∈ voidTags then isNested elements rest else isNested (tag :: elements) rest := by
  have hbracket : (tagContent tag attributes).contains '<' = false := by
    rw [List.contains_eq_mem, decide_eq_false_iff_not]
    exact not_mem_tagContent (Or.inl rfl) htag hnames
  rw [isNested, hbracket, tagKind_tagContent htag]
  by_cases hvoid : tag ∈ voidTags
  · simp only [if_pos hvoid, Bool.not_false, Bool.true_and]
  · simp only [if_neg hvoid, Bool.not_false, Bool.true_and]

theorem isNested_endTag {tag : String} (htag : isName tag = true) :
    isNested (tag :: elements) (.tag ('/' :: tag.toList) :: rest) = isNested elements rest := by
  have hbracket : ('/' :: tag.toList).contains '<' = false := by
    rw [List.contains_eq_mem, decide_eq_false_iff_not, List.mem_cons, not_or]
    exact ⟨by decide, not_mem_of_isName htag (by decide)⟩
  rw [isNested, hbracket, tagKind_endTag]
  simp only [Bool.not_false, Bool.true_and, List.head?_cons, beq_self_eq_true, List.tail_cons]

theorem isNested_ofChar (content : List Char) :
    isNested elements (content.map Piece.ofChar ++ rest) = isNested elements rest := by
  induction content with
  | nil => rfl
  | cons c content ih =>
      rw [List.map_cons, List.cons_append, Piece.ofChar]
      split
      · rw [isNested, ih]
      · rename_i hc
        have hgt : (c != '>') = true := by
          rw [bne_iff_ne]
          exact fun h => hc (Or.inr (Or.inr h))
        rw [isNested, hgt, ih, Bool.true_and]

end Markup

open Markup

namespace Html

mutual

/-- The pieces of a tree leave the open elements as they were. -/
theorem isNested_pieces : ∀ {html : Html}, html.Regular (fun _ => False) →
    ∀ (elements : List String) (rest : List Piece),
      isNested elements (html.pieces ++ rest) = isNested elements rest
  | .text content, _, elements, rest => by
      rw [pieces]
      exact isNested_ofChar content.toList
  | .hardSpace, _, elements, rest => by
      rw [pieces, List.singleton_append, isNested]
  | .verbatim _, h, _, _ => h.elim
  | .element tag attributes children, h, elements, rest => by
      obtain ⟨htag, hvoid, hnames, hchildren⟩ := h
      rw [pieces, List.cons_append, List.append_assoc, isNested_startTag htag hnames, if_neg hvoid,
        isNested_allPieces hchildren, List.singleton_append, isNested_endTag htag]
  | .void tag attributes, h, elements, rest => by
      obtain ⟨htag, hvoid, hnames⟩ := h
      rw [pieces, List.singleton_append, isNested_startTag htag hnames, if_pos hvoid]

theorem isNested_allPieces : ∀ {html : List Html}, AllRegular (fun _ => False) html →
    ∀ (elements : List String) (rest : List Piece),
      isNested elements (allPieces html ++ rest) = isNested elements rest
  | [], _, elements, rest => by rw [allPieces, List.nil_append]
  | piece :: html, h, elements, rest => by
      rw [allPieces, List.append_assoc, isNested_pieces h.1, isNested_allPieces h.2]

end

theorem isWellFormed_printAll {html : List Html} (h : AllRegular (fun _ => False) html) :
    IsWellFormed (printAll html) := by
  have hpieces := isNested_allPieces h [] []
  rw [List.append_nil] at hpieces
  rw [IsWellFormed, scan_printAll_eq (fun _ h => h.elim) h, hpieces, isNested, List.isEmpty_nil]

theorem toList_printPage (root : Html) :
    (printPage root).toList = '<' :: (documentType ++ '>' :: '\n' :: root.print.toList) := by
  have hdeclaration : "<!DOCTYPE html>\n".toList = '<' :: (documentType ++ ['>', '\n']) := by decide
  show ("<!DOCTYPE html>\n" ++ root.print).toList = _
  rw [String.toList_append, hdeclaration, List.cons_append, List.append_assoc]
  rfl

theorem isPage_printPage {root : Html} (h : root.Regular (fun _ => False)) :
    IsPage (printPage root) := by
  have hpieces := isNested_pieces h [] []
  rw [List.append_nil] at hpieces
  refine ⟨.char '\n' :: root.pieces, ?_, ?_⟩
  · rw [toList_printPage, scan_tag (by decide), scan_cons_of_ne (by decide) (by decide),
      scan_print_eq (fun _ h => h.elim) h]
  · rw [isNested, hpieces, isNested]
    decide

end Html

/-! ### Documents -/

namespace Node

/-- A node that is not taken over as it stands: no raw markup, no code in the line, no highlighted
code. -/
def IsTame : Node → Prop
  | .code attr _ => attr ≠ urlCode
  | .rawInline _ _ => False
  | .rawBlock _ _ => False
  | .codeBlock attr _ => ∀ name ∈ attr.classes, Code.lexer? name = none
  | _ => True

theorem IsTame.verbatim {node : Node} (h : node.IsTame) : node.Verbatim (fun _ => False) := by
  cases node with
  | code attr text => exact h
  | rawInline format text => exact h.elim
  | rawBlock format text => exact h.elim
  | _ => trivial

end Node

/-- What rendering makes of tame nodes is well formed: every page, every block, every inline. -/
theorem isNested_print :
    (∀ doc stylesheet page, Document.page doc stylesheet = .ok page →
      (∀ node ∈ doc.rendered, node.IsTame) → IsPage page) ∧
    (∀ block html, Node.blockHtml block = .ok html →
      (∀ node ∈ block.rendered, node.IsTame) → IsWellFormed (Html.printAll html)) ∧
    (∀ inline html, Node.inlineHtml inline = .ok html →
      (∀ node ∈ inline.rendered, node.IsTame) → IsWellFormed (Html.printAll html)) := by
  have hcontent : ∀ (content : Content) (html : List Html), content.html = .ok html →
      (∀ node ∈ content.rendered, node.IsTame) → IsWellFormed (Html.printAll html) := by
    intro content html h htame
    have hregular := allRegular_of_shows (shows_iff.mpr h) fun node hnode => (htame node hnode).verbatim
    exact Html.isWellFormed_printAll hregular
  refine ⟨?_, fun block => hcontent (.block block), fun inline => hcontent (.inline inline)⟩
  intro doc stylesheet page h htame
  obtain ⟨root, hroot, h⟩ := bind_eq_ok.mp h
  cases h
  have hregular := doc.regular_html hroot fun node hnode => (htame node hnode).verbatim
  exact Html.isPage_printPage hregular

/-- Text that looks like tags, in the title, in a table, in attribute values and in code. -/
theorem isNested_print_of_markup_in_text :
    ∃ page items inlines,
      Document.page ⟨[.str "<br></title>", .lineBreak], [[.str "A & <b>"]], [],
        [.header 1 [.str "</article>"], .horizontalRule,
          .table [.space] [] [] [[.plain [.str ">"]]] [[[.codeBlock ⟨"", [], []⟩ "</pre>"]]]]⟩
        "\"><p>.css" = .ok page ∧
      Node.blockHtml (.bulletList [[.para [.str "<li>"]], []]) = .ok items ∧
      Node.inlineHtml (.link [.image [.str "\">"] "<" "'"] "</a>" "&") = .ok inlines ∧
      IsPage page ∧ IsWellFormed (Html.printAll items) ∧ IsWellFormed (Html.printAll inlines) := by
  have hpage := isNested_print.1 ⟨[.str "<br></title>", .lineBreak], [[.str "A & <b>"]], [],
    [.header 1 [.str "</article>"], .horizontalRule,
      .table [.space] [] [] [[.plain [.str ">"]]] [[[.codeBlock ⟨"", [], []⟩ "</pre>"]]]]⟩
    "\"><p>.css" _ rfl
    (by simp [Document.rendered, Node.allRendered, Node.rendered, Node.groupsRendered,
      Node.rowsRendered, Node.IsTame])
  have hitems := isNested_print.2.1 (.bulletList [[.para [.str "<li>"]], []]) _ rfl
    (by simp [Node.allRendered, Node.rendered, Node.groupsRendered, Node.IsTame])
  have hinlines := isNested_print.2.2 (.link [.image [.str "\">"] "<" "'"] "</a>" "&") _ rfl
    (by simp [Node.allRendered, Node.rendered, Node.IsTame])
  exact ⟨_, _, _, rfl, rfl, rfl, hpage, hitems, hinlines⟩

end LiveDeck
