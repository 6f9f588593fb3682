import LiveDeck.Proofs.Page.Pieces

/-! # Printed markup is read back

`Html.pieces` are the pieces that a tree of markup should be read as.  A tree is regular
(`Html.Regular`) if its names are made of letters and digits, the elements without content are
those of `voidTags` and no others, and its verbatim parts are as asked for.  For regular trees
whose verbatim parts have neither `<` nor `&`, `scan_print` says that they are read as their pieces,
before whatever follows: no text and no attribute value, whatever its characters, starts, ends or
hides a piece.  `readAttributes_printed` says that attributes are read back with their values. -/

namespace LiveDeck

open Markup

/-! ### Escaped text -/

namespace Text

theorem contentReference_of_ne {c : Char} (hamp : c ≠ '&') (hlt : c ≠ '<') (hgt : c ≠ '>') :
    contentReference c = [c] := by
  unfold contentReference
  split <;> simp_all

theorem valueReference_of_ne {c : Char} (hdouble : c ≠ '"') (hsingle : c ≠ '\'') :
    valueReference c = contentReference c := by
  unfold valueReference
  split <;> simp_all

theorem toList_escapeContent (s : String) :
    (escapeContent s).toList = s.toList.flatMap contentReference := String.toList_ofList

theorem toList_escapeValue (s : String) :
    (escapeValue s).toList = s.toList.flatMap valueReference := String.toList_ofList

theorem not_mem_valueReference {stop : Char} (hstop : stop = '<' ∨ stop = '>' ∨ stop = '"')
    (c : Char) : stop ∉ valueReference c := by
  by_cases hdouble : c = '"'
  · subst hdouble
    rcases hstop with rfl | rfl | rfl <;> decide
  by_cases hsingle : c = '\''
  · subst hsingle
    rcases hstop with rfl | rfl | rfl <;> decide
  by_cases hamp : c = '&'
  · subst hamp
    rcases hstop with rfl | rfl | rfl <;> decide
  by_cases hlt : c = '<'
  · subst hlt
    rcases hstop with rfl | rfl | rfl <;> decide
  by_cases hgt : c = '>'
  · subst hgt
    rcases hstop with rfl | rfl | rfl <;> decide
  rw [valueReference_of_ne hdouble hsingle, contentReference_of_ne hamp hlt hgt, List.mem_singleton]
  rintro rfl
  rcases hstop with h | h | h
  · exact hlt h
  · exact hgt h
  · exact hdouble h

theorem not_mem_escapeValue {stop : Char} (hstop : stop = '<' ∨ stop = '>' ∨ stop = '"')
    (s : String) : stop ∉ (escapeValue s).toList := by
  rw [toList_escapeValue, List.mem_flatMap]
  rintro ⟨c, _, hc⟩
  exact not_mem_valueReference hstop c hc

theorem not_mem_escapeContent (s : String) : '<' ∉ (escapeContent s).toList := by
  rw [toList_escapeContent, List.mem_flatMap]
  rintro ⟨c, _, hc⟩
  unfold contentReference at hc
  split at hc
  · revert hc
    decide
  · revert hc
    decide
  · revert hc
    decide
  · rename_i hlt _
    exact hlt (List.mem_singleton.mp hc).symm

end Text

namespace Markup

/-- The piece that a character of text is read as. -/
def Piece.ofChar (c : Char) : Piece :=
  if c = '&' ∨ c = '<' ∨ c = '>' then .reference c else .char c

theorem scan_contentReference (c : Char) (rest : List Char) :
    scan (Text.contentReference c ++ rest) = Piece.ofChar c :: scan rest := by
  by_cases hamp : c = '&'
  · subst hamp
    exact scan_of_reference? (by decide) rfl
  by_cases hlt : c = '<'
  · subst hlt
    exact scan_of_reference? (by decide) rfl
  by_cases hgt : c = '>'
  · subst hgt
    exact scan_of_reference? (by decide) rfl
  rw [Text.contentReference_of_ne hamp hlt hgt, List.singleton_append, scan_cons_of_ne hlt hamp]
  simp only [Piece.ofChar, hamp, hlt, hgt, or_self, if_false]

theorem scan_flatMap_contentReference (s rest : List Char) :
    scan (s.flatMap Text.contentReference ++ rest) = s.map Piece.ofChar ++ scan rest := by
  induction s with
  | nil => rfl
  | cons c s ih =>
      rw [List.flatMap_cons, List.append_assoc, scan_contentReference, ih, List.map_cons,
        List.cons_append]

theorem scan_of_not_mem {s : List Char} (hlt : '<' ∉ s) (hamp : '&' ∉ s) (rest : List Char) :
    scan (s ++ rest) = s.map Piece.char ++ scan rest := by
  induction s with
  | nil => rfl
  | cons c s ih =>
      rw [List.mem_cons, not_or] at hlt hamp
      rw [List.cons_append, scan_cons_of_ne (Ne.symm hlt.1) (Ne.symm hamp.1), ih hlt.2 hamp.2,
        List.map_cons, List.cons_append]

theorem unescape_valueReference (c : Char) (rest : List Char) :
    unescape (Text.valueReference c ++ rest) = c :: unescape rest := by
  by_cases hdouble : c = '"'
  · subst hdouble
    exact unescape_of_reference? rfl
  by_cases hsingle : c = '\''
  · subst hsingle
    exact unescape_of_reference? rfl
  rw [Text.valueReference_of_ne hdouble hsingle]
  by_cases hamp : c = '&'
  · subst hamp
    exact unescape_of_reference? rfl
  by_cases hlt : c = '<'
  · subst hlt
    exact unescape_of_reference? rfl
  by_cases hgt : c = '>'
  · subst hgt
    exact unescape_of_reference? rfl
  rw [Text.contentReference_of_ne hamp hlt hgt, List.singleton_append, unescape_cons_of_ne hamp]

/-- Replacing the references of an escaped value gives the value. -/
theorem unescape_escapeValue (s : String) : unescape (Text.escapeValue s).toList = s.toList := by
  rw [Text.toList_escapeValue]
  induction s.toList with
  | nil => rw [List.flatMap_nil, unescape]
  | cons c s ih => rw [List.flatMap_cons, unescape_valueReference, ih]

/-! ### Names and attributes -/

/-- Letters and digits, at least one. -/
def isName (name : String) : Bool := !name.toList.isEmpty && name.toList.all Char.isAlphanum

theorem not_mem_of_isName {name : String} (h : isName name = true) {c : Char}
    (hc : c.isAlphanum = false) : c ∉ name.toList := by
  simp only [isName, Bool.and_eq_true, List.all_eq_true] at h
  intro hmem
  have := h.2 c hmem
  rw [hc] at this
  cases this

/-- What is printed between the angle brackets of a start tag. -/
def tagContent (tag : String) (attributes : List (String × String)) : List Char :=
  tag.toList ++ attributes.flatMap fun pair => (Html.printAttribute pair).toList

theorem toList_printAttribute (pair : String × String) :
    (Html.printAttribute pair).toList =
      ' ' :: (pair.1.toList ++ '=' :: '"' :: ((Text.escapeValue pair.2).toList ++ ['"'])) := by
  simp [Html.printAttribute]

theorem toList_printTag (tag : String) (attributes : List (String × String)) :
    (Html.printTag tag attributes).toList = '<' :: (tagContent tag attributes ++ ['>']) := by
  simp [Html.printTag, tagContent, String.toList_join, List.flatMap_map]

theorem takeWhile_tagContent {tag : String} (htag : isName tag = true)
    (attributes : List (String × String)) :
    (tagContent tag attributes).takeWhile (· != ' ') = tag.toList := by
  have hspace : ∀ c ∈ tag.toList, (c != ' ') = true := by
    intro c hc
    rw [bne_iff_ne]
    rintro rfl
    exact not_mem_of_isName htag (by decide) hc
  rw [tagContent, List.takeWhile_append_of_pos hspace]
  cases attributes with
  | nil => rw [List.flatMap_nil, List.takeWhile_nil, List.append_nil]
  | cons pair attributes =>
      rw [List.flatMap_cons, toList_printAttribute, List.cons_append,
        List.takeWhile_cons_of_neg (by simp), List.append_nil]

theorem not_mem_printAttribute {bracket : Char} (hbracket : bracket = '<' ∨ bracket = '>')
    {pair : String × String} (hname : isName pair.1 = true) :
    bracket ∉ (Html.printAttribute pair).toList := by
  have hkey : bracket ∉ pair.1.toList := by
    rcases hbracket with rfl | rfl <;> exact not_mem_of_isName hname (by decide)
  have hvalue : bracket ∉ (Text.escapeValue pair.2).toList :=
    Text.not_mem_escapeValue (hbracket.imp_right Or.inl) pair.2
  have hmarks : bracket ≠ ' ' ∧ bracket ≠ '=' ∧ bracket ≠ '"' := by
    rcases hbracket with rfl | rfl <;> decide
  simp only [toList_printAttribute, List.mem_cons, List.mem_append, hkey, hvalue, hmarks,
    List.not_mem_nil, or_self, not_false_eq_true]

theorem not_mem_tagContent {bracket : Char} (hbracket : bracket = '<' ∨ bracket = '>')
    {tag : String} {attributes : List (String × String)} (htag : isName tag = true)
    (hnames : ∀ pair ∈ attributes, isName pair.1 = true) :
    bracket ∉ tagContent tag attributes := by
  rw [tagContent, List.mem_append, List.mem_flatMap]
  rintro (h | ⟨pair, hpair, h⟩)
  · rcases hbracket with rfl | rfl <;> exact not_mem_of_isName htag (by decide) h
  · exact not_mem_printAttribute hbracket (hnames pair hpair) h

theorem readAttribute?_printed {pair : String × String} (hname : isName pair.1 = true)
    (rest : List Char) :
    readAttribute? ((Html.printAttribute pair).toList ++ rest) =
      some ((pair.1.toList, pair.2.toList), rest) := by
  have hequals : '=' ∉ pair.1.toList := not_mem_of_isName hname (by decide)
  have hquote : '"' ∉ (Text.escapeValue pair.2).toList :=
    Text.not_mem_escapeValue (Or.inr (Or.inr rfl)) pair.2
  have hprinted : (Html.printAttribute pair).toList ++ rest =
      ' ' :: (pair.1.toList ++ '=' :: '"' :: ((Text.escapeValue pair.2).toList ++ '"' :: rest)) := by
    rw [toList_printAttribute]
    simp
  rw [hprinted, readAttribute?, upTo?_append hequals]
  simp only [upTo?_append hquote, Option.map_some, unescape_escapeValue]

/-- Printed attributes are read back: as many, in the same order, each with its value. -/
theorem readAttributes_printed {attributes : List (String × String)}
    (hnames : ∀ pair ∈ attributes, isName pair.1 = true) :
    readAttributes (attributes.flatMap fun pair => (Html.printAttribute pair).toList) =
      attributes.map fun pair => (pair.1.toList, pair.2.toList) := by
  induction attributes with
  | nil => rw [readAttributes]; rfl
  | cons pair attributes ih =>
      have hread := readAttribute?_printed (hnames pair List.mem_cons_self)
        (attributes.flatMap fun pair => (Html.printAttribute pair).toList)
      rw [List.flatMap_cons, List.map_cons, readAttributes]
      split
      · rename_i pair' rest' h'
        cases hread.symm.trans h'
        rw [ih fun pair h => hnames pair (List.mem_cons_of_mem _ h)]
      · rename_i h'
        cases hread.symm.trans h'

/-- The elements without content, which have no end tag. -/
def voidTags : List String := ["meta", "link", "br", "hr", "img"]

end Markup

/-! ### Trees -/

namespace Html

mutual

/-- Names are names, the elements without content are the void ones, and verbatim parts are as
asked for. -/
def Regular (verbatimOk : String → Prop) : Html → Prop
  | .text _ => True
  | .hardSpace => True
  | .verbatim markup => verbatimOk markup
  | .element tag attributes children =>
    isName tag = true ∧ tag ∉ voidTags ∧ (∀ pair ∈ attributes, isName pair.1 = true) ∧
      AllRegular verbatimOk children
  | .void tag attributes =>
    isName tag = true ∧ tag ∈ voidTags ∧ ∀ pair ∈ attributes, isName pair.1 = true

/-- All trees of a sequence are regular. -/
def AllRegular (verbatimOk : String → Prop) : List Html → Prop
  | [] => True
  | piece :: rest => Regular verbatimOk piece ∧ AllRegular verbatimOk rest

end

mutual

/-- The pieces that a tree is to be read as. -/
def pieces : Html → List Piece
  | .text content => content.toList.map Piece.ofChar
  | .hardSpace => [.reference ' ']
  | .verbatim markup => markup.toList.map Piece.char
  | .element tag attributes children =>
    .tag (tagContent tag attributes) :: (allPieces children ++ [.tag ('/' :: tag.toList)])
  | .void tag attributes => [.tag (tagContent tag attributes)]

/-- The pieces of trees in sequence. -/
def allPieces : List Html → List Piece
  | [] => []
  | piece :: rest => pieces piece ++ allPieces rest

end

theorem allPieces_append (html rest : List Html) :
    allPieces (html ++ rest) = allPieces html ++ allPieces rest := by
  induction html with
  | nil => rfl
  | cons piece html ih => simp only [List.cons_append, allPieces, ih, List.append_assoc]

theorem allRegular_append {verbatimOk : String → Prop} {html rest : List Html} :
    AllRegular verbatimOk (html ++ rest) ↔
      AllRegular verbatimOk html ∧ AllRegular verbatimOk rest := by
  induction html with
  | nil => simp only [List.nil_append, AllRegular, true_and]
  | cons piece html ih => simp only [List.cons_append, AllRegular, ih, and_assoc]

/-- Verbatim text in which nothing is to be read. -/
def IsPlain (markup : String) : Prop := '<' ∉ markup.toList ∧ '&' ∉ markup.toList

variable {verbatimOk : String → Prop}

mutual

theorem scan_print (hplain : ∀ markup, verbatimOk markup → IsPlain markup) :
    ∀ {html : Html}, html.Regular verbatimOk → ∀ rest : List Char,
      scan (html.print.toList ++ rest) = html.pieces ++ scan rest
  | .text content, _, rest => by
      rw [print, pieces, Text.toList_escapeContent]
      exact scan_flatMap_contentReference content.toList rest
  | .hardSpace, _, rest => by
      rw [print, pieces]
      exact scan_of_reference? (by decide) rfl
  | .verbatim markup, h, rest => by
      rw [print, pieces]
      exact scan_of_not_mem (hplain markup h).1 (hplain markup h).2 rest
  | .element tag attributes children, h, rest => by
      obtain ⟨htag, _, hnames, hchildren⟩ := h
      have hend : '>' ∉ '/' :: tag.toList := by
        rw [List.mem_cons, not_or]
        exact ⟨by decide, not_mem_of_isName htag (by decide)⟩
      have hprinted : (Html.element tag attributes children).print.toList ++ rest =
          '<' :: (tagContent tag attributes ++ '>' ::
            ((printAll children).toList ++ '<' :: ('/' :: tag.toList ++ '>' :: rest))) := by
        rw [print]
        simp [toList_printTag]
      rw [hprinted, scan_tag (not_mem_tagContent (Or.inr rfl) htag hnames),
        scan_printAll hplain hchildren, scan_tag hend, pieces]
      simp
  | .void tag attributes, h, rest => by
      obtain ⟨htag, _, hnames⟩ := h
      have hprinted : (Html.void tag attributes).print.toList ++ rest =
          '<' :: (tagContent tag attributes ++ '>' :: rest) := by
        rw [print, toList_printTag]
        simp
      rw [hprinted, scan_tag (not_mem_tagContent (Or.inr rfl) htag hnames), pieces]
      rfl

theorem scan_printAll (hplain : ∀ markup, verbatimOk markup → IsPlain markup) :
    ∀ {html : List Html}, AllRegular verbatimOk html → ∀ rest : List Char,
      scan ((printAll html).toList ++ rest) = allPieces html ++ scan rest
  | [], _, rest => by
      rw [printAll, allPieces]
      rfl
  | piece :: html, h, rest => by
      rw [printAll, String.toList_append, List.append_assoc, scan_print hplain h.1,
        scan_printAll hplain h.2, allPieces, List.append_assoc]

end

theorem scan_print_eq (hplain : ∀ markup, verbatimOk markup → IsPlain markup)
    {html : Html} (h : html.Regular verbatimOk) : scan html.print.toList = html.pieces := by
  have := scan_print hplain h []
  rw [List.append_nil] at this
  rw [this, scan, List.append_nil]

theorem scan_printAll_eq (hplain : ∀ markup, verbatimOk markup → IsPlain markup)
    {html : List Html} (h : AllRegular verbatimOk html) :
    scan (printAll html).toList = allPieces html := by
  have := scan_printAll hplain h []
  rw [List.append_nil] at this
  rw [this, scan, List.append_nil]

end Html

end LiveDeck
