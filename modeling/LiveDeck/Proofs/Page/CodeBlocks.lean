import LiveDeck.Proofs.Page.AttributeValues
import LiveDeck.Proofs.Text.Words

/-! # Code blocks

`codeBlockHtmlWith find` renders a code block where `find` knows the languages.  A block is
highlighted in the language of the first of its classes that names one (`FirstKnown`), and is its
escaped text in one element if none does.  Whatever the class names are, those of a highlighted
block are read back from its start tag in their order, between the class of all highlighted blocks
and the one that keeps the slide script away (`words_classValue`). -/

namespace LiveDeck

open Markup

/-! ### Which language -/

/-- A code block where `find` knows the languages. -/
def codeBlockHtmlWith (find : String → Option Code.Lexer) (attr : Attr) (text : String) : Html :=
  match Code.highlightWith? find (attr.classes ++ [noPrettyPrint]) text with
  | some html => html
  | none => .element "pre" [] [.text text]

theorem blockHtml_codeBlock (attr : Attr) (text : String) :
    Node.blockHtml (.codeBlock attr text) = .ok [codeBlockHtmlWith Code.lexer? attr text] := by
  rw [Node.blockHtml]
  rfl

/-- The first of the names that is known is the one of this language. -/
def FirstKnown (find : String → Option Code.Lexer) (names : List String) (lexer : Code.Lexer) :
    Prop :=
  ∃ before name after, names = before ++ name :: after ∧
    (∀ other ∈ before, find other = none) ∧ find name = some lexer

section

variable {find : String → Option Code.Lexer} {names : List String} {lexer : Code.Lexer}

theorem findSome?_eq_some_iff_firstKnown :
    names.findSome? find = some lexer ↔ FirstKnown find names lexer := by
  rw [List.findSome?_eq_some_iff]
  constructor
  · rintro ⟨before, name, after, hnames, hname, hbefore⟩
    exact ⟨before, name, after, hnames, hbefore, hname⟩
  · rintro ⟨before, name, after, hnames, hbefore, hname⟩
    exact ⟨before, name, after, hnames, hname, hbefore⟩

theorem exists_firstKnown (h : ∃ name ∈ names, find name ≠ none) :
    ∃ lexer, FirstKnown find names lexer := by
  cases hfind : names.findSome? find with
  | some lexer => exact ⟨lexer, findSome?_eq_some_iff_firstKnown.mp hfind⟩
  | none =>
      obtain ⟨name, hname, hknown⟩ := h
      exact absurd (List.findSome?_eq_none_iff.mp hfind name hname) hknown

theorem FirstKnown.append {last : String} (h : FirstKnown find names lexer) :
    FirstKnown find (names ++ [last]) lexer := by
  obtain ⟨before, name, after, rfl, hbefore, hname⟩ := h
  refine ⟨before, name, after ++ [last], ?_, hbefore, hname⟩
  rw [List.append_assoc, List.cons_append]

variable {attr : Attr}

/-- A block with a class that names a language is highlighted in the first such language. -/
theorem codeBlockHtmlWith_of_firstKnown
    (h : FirstKnown find (attr.classes ++ [noPrettyPrint]) lexer) (text : String) :
    codeBlockHtmlWith find attr text =
      Code.blockHtml lexer (attr.classes ++ [noPrettyPrint]) text := by
  unfold codeBlockHtmlWith Code.highlightWith?
  rw [findSome?_eq_some_iff_firstKnown.mpr h, Option.map_some]

/-- A block without such a class is its text. -/
theorem codeBlockHtmlWith_of_unknown
    (h : ∀ name ∈ attr.classes ++ [noPrettyPrint], find name = none) (text : String) :
    codeBlockHtmlWith find attr text = .element "pre" [] [.text text] := by
  unfold codeBlockHtmlWith Code.highlightWith?
  rw [List.findSome?_eq_none_iff.mpr h, Option.map_none]

end

/-! ### What is printed -/

theorem print_blockHtml (lexer : Code.Lexer) (classes : List String) (text : String) :
    (Code.blockHtml lexer classes text).print =
      "<pre class=\"" ++ Text.escapeValue (" ".intercalate (Code.scope :: classes)) ++
        "\"><code>" ++ Html.printAll (Code.bodyHtml lexer text) ++ "</code></pre>" := by
  have hpre : ∀ value, Html.printTag "pre" [("class", value)] =
      "<pre class=\"" ++ Text.escapeValue value ++ "\">" := by
    intro value
    rw [← String.toList_inj]
    simp [Html.printTag, Html.printAttribute]
  have hcode : Html.printTag "code" [] = "<code>" := by rfl
  rw [Code.blockHtml]
  simp only [Html.print, Html.printAll, hpre, hcode]
  rw [← String.toList_inj]
  simp

theorem print_plainBlock (text : String) :
    (Html.element "pre" [] [.text text]).print =
      "<pre>" ++ Text.escapeContent text ++ "</pre>" := by
  have hpre : Html.printTag "pre" [] = "<pre>" := by rfl
  simp only [Html.print, Html.printAll, hpre]
  rw [← String.toList_inj]
  simp

theorem unescape_contentReference (c : Char) (rest : List Char) :
    unescape (Text.contentReference c ++ rest) = c :: unescape rest := by
  by_cases hdouble : c = '"'
  · subst hdouble
    exact unescape_cons_of_ne (by decide) rest
  by_cases hsingle : c = '\''
  · subst hsingle
    exact unescape_cons_of_ne (by decide) rest
  rw [← Text.valueReference_of_ne hdouble hsingle]
  exact unescape_valueReference c rest

theorem unescape_escapeContent (s : String) :
    unescape (Text.escapeContent s).toList = s.toList := by
  rw [Text.toList_escapeContent]
  induction s.toList with
  | nil => rw [List.flatMap_nil, unescape]
  | cons c s ih => rw [List.flatMap_cons, unescape_contentReference, ih]

theorem eq_span_of_mem_bodyHtml {lexer : Code.Lexer} {text tag : String}
    (h : tag ∈ Html.allTagNames (Code.bodyHtml lexer text)) : tag = "span" := by
  obtain ⟨html, hhtml, htag⟩ := Html.mem_allTagNames.mp h
  rcases mem_linesHtml hhtml with ⟨⟨look, piece⟩, rfl⟩ | rfl
  · cases look with
    | none => cases htag
    | some cssClass => exact List.mem_singleton.mp htag
  · cases htag

theorem startTag?_blockHtml (lexer : Code.Lexer) (classes : List String) (text : String) :
    startTag? (Code.blockHtml lexer classes text).print.toList =
      some (⟨"pre", [("class", " ".intercalate (Code.scope :: classes))]⟩,
        ("<code>" ++ Html.printAll (Code.bodyHtml lexer text) ++ "</code></pre>").toList) := by
  have hnames : ∀ pair ∈ [("class", " ".intercalate (Code.scope :: classes))],
      isName pair.1 = true :=
    isName_of_all (show ["class"].all isName = true by decide) rfl
  have hrest : Html.printAll [.element "code" [] (Code.bodyHtml lexer text)] ++ "</pre>" =
      "<code>" ++ Html.printAll (Code.bodyHtml lexer text) ++ "</code></pre>" := by
    have hcode : Html.printTag "code" [] = "<code>" := by rfl
    simp only [Html.print, Html.printAll, hcode]
    rw [← String.toList_inj]
    simp
  have htag := startTag?_element (show isName "pre" = true by decide) hnames
    [.element "code" [] (Code.bodyHtml lexer text)]
  rw [← hrest]
  rw [Html.printAll, Html.printAll, String.append_empty] at htag
  exact htag

theorem words_classValue {classes : List String}
    (h : ∀ name ∈ classes, Text.IsWord name.toList) :
    Text.words (" ".intercalate (Code.scope :: (classes ++ [noPrettyPrint]))).toList =
      (Code.scope :: (classes ++ [noPrettyPrint])).map String.toList := by
  have hapart := Text.setApart_intercalate
    ((Code.scope :: (classes ++ [noPrettyPrint])).map String.toList)
  rw [String.toList_intercalate]
  refine Text.words_of_setApart hapart ?_
  simp only [List.map_cons, List.map_append, List.map_nil, List.forall_mem_cons,
    List.forall_mem_append, List.forall_mem_map]
  exact ⟨by decide, h, by decide, List.forall_mem_nil _⟩

/-- A block of whose classes one names a language is highlighted in the language of the first such
class, in one element of code, and its classes are read back from the start tag; the other blocks
are their escaped text.  Nothing but the classes and the text matters. -/
theorem codeBlock_of_classes {find : String → Option Code.Lexer}
    (hfind : find noPrettyPrint = none) {attr : Attr}
    (hclasses : ∀ name ∈ attr.classes, Text.IsWord name.toList) (text : String) :
    ((∃ name ∈ attr.classes, find name ≠ none) →
      ∃ lexer value body, FirstKnown find attr.classes lexer ∧
        body = Html.printAll (Code.bodyHtml lexer text) ∧
        (∀ tag ∈ Html.allTagNames (Code.bodyHtml lexer text), tag = "span") ∧
        (codeBlockHtmlWith find attr text).print = "<pre class=\"" ++ Text.escapeValue value ++
          "\"><code>" ++ body ++ "</code></pre>" ∧
        startTag? (codeBlockHtmlWith find attr text).print.toList =
          some (⟨"pre", [("class", value)]⟩, ("<code>" ++ body ++ "</code></pre>").toList) ∧
        Text.words value.toList =
          ("sourceCode" :: (attr.classes ++ ["noprettyprint"])).map String.toList) ∧
    ((∀ name ∈ attr.classes, find name = none) →
      (codeBlockHtmlWith find attr text).print =
        "<pre>" ++ Text.escapeContent text ++ "</pre>" ∧
      unescape (Text.escapeContent text).toList = text.toList) ∧
    (∀ identifier attributes, codeBlockHtmlWith find ⟨identifier, attr.classes, attributes⟩ text =
      codeBlockHtmlWith find attr text) ∧
    Node.blockHtml (.codeBlock attr text) = .ok [codeBlockHtmlWith Code.lexer? attr text] := by
  refine ⟨?highlighted, ?plain, ?other, blockHtml_codeBlock attr text⟩
  case highlighted =>
    intro hknown
    obtain ⟨lexer, hfirst⟩ := exists_firstKnown hknown
    have hprint := print_blockHtml lexer (attr.classes ++ [noPrettyPrint]) text
    have htag := startTag?_blockHtml lexer (attr.classes ++ [noPrettyPrint]) text
    rw [codeBlockHtmlWith_of_firstKnown hfirst.append text]
    exact ⟨lexer, _, _, hfirst, rfl, fun tag => eq_span_of_mem_bodyHtml, hprint, htag,
      words_classValue hclasses⟩
  case plain =>
    intro hunknown
    have hall : ∀ name ∈ attr.classes ++ [noPrettyPrint], find name = none := by
      intro name hname
      rcases List.mem_append.mp hname with hname | hname
      · exact hunknown name hname
      · rw [List.mem_singleton.mp hname]
        exact hfind
    rw [codeBlockHtmlWith_of_unknown hall]
    exact ⟨print_plainBlock text, unescape_escapeContent text⟩
  case other =>
    intro identifier attributes
    rfl

/-- Class names that look like markup, one of them twice, before and after the one that names a
language; and a block whose text looks like markup. -/
theorem codeBlock_of_classes_like_markup :
    (∃ name ∈ ["\"><b>", "json", "&quot;", "json"], Code.lexer? name ≠ none) ∧
    (∃ lexer value body, FirstKnown Code.lexer? ["\"><b>", "json", "&quot;", "json"] lexer ∧
      startTag? (codeBlockHtmlWith Code.lexer?
          ⟨"a", ["\"><b>", "json", "&quot;", "json"], [("b", "c")]⟩ "1").print.toList =
        some (⟨"pre", [("class", value)]⟩, ("<code>" ++ body ++ "</code></pre>").toList) ∧
      Text.words value.toList =
        ["sourceCode", "\"><b>", "json", "&quot;", "json", "noprettyprint"].map String.toList) ∧
    (codeBlockHtmlWith Code.lexer? ⟨"a", ["\"><b>"], [("b", "c")]⟩ "&lt;</pre>").print =
      "<pre>&amp;lt;&lt;/pre&gt;</pre>" := by
  have hnone : Code.lexer? noPrettyPrint = none := by cbv
  have hwords : ∀ name ∈ ["\"><b>", "json", "&quot;", "json"], Text.IsWord name.toList := by decide
  have hknown : ∃ name ∈ ["\"><b>", "json", "&quot;", "json"], Code.lexer? name ≠ none :=
    ⟨"json", by decide, by cbv; simp⟩
  obtain ⟨lexer, value, body, hfirst, _, _, _, htag, hclasses⟩ :=
    (@codeBlock_of_classes Code.lexer? hnone
      ⟨"a", ["\"><b>", "json", "&quot;", "json"], [("b", "c")]⟩ hwords "1").1 hknown
  have hplain : ∀ name ∈ ["\"><b>"], Code.lexer? name = none := by
    intro name hname
    rw [List.mem_singleton.mp hname]
    cbv
  obtain ⟨_, hescaped, _⟩ := @codeBlock_of_classes Code.lexer? hnone
    ⟨"a", ["\"><b>"], [("b", "c")]⟩ (List.forall_mem_singleton.mpr (by decide)) "&lt;</pre>"
  obtain ⟨hprint, _⟩ := hescaped hplain
  exact ⟨hknown, ⟨lexer, value, body, hfirst, htag, hclasses⟩, by rw [hprint]; rfl⟩

end LiveDeck
