import LiveDeck.Proofs.Code.Lossless
import LiveDeck.Proofs.Document.LineEndings
import LiveDeck.Proofs.Page.CodeBlocks
import LiveDeck.Proofs.Page.TextContent

/-! # The code that a block shows

What a code block shows is its text content (`textContent`).  A block that is not highlighted shows
its text.  Of a highlighted one the lexer sees what `Code.prepare` makes of the text; no lexer loses
code, and the lines that are drawn of its tokens have the same text (`Code.Drawn`), so this is what
the block shows (`textContent_blockHtml`): the text without a byte order mark in front and without
the line feeds at its ends, and with one line feed behind it.  It is the text itself exactly if
there is nothing to take away and the one line feed is there (`textContent_codeBlock`). -/

namespace LiveDeck

open Markup
open Html (allText)

namespace Code

/-! ### Lines -/

/-- A line of highlighted code: pieces of text with their looks. -/
abbrev Line := List (Option String × List Char)

/-- The text of a line. -/
def lineText (line : Line) : List Char := line.flatMap (·.2)

/-- The text of lines: one after another, with a line feed between two of them. -/
def linesText (rows : List Line) : List Char := ['\n'].intercalate (rows.map lineText)

theorem linesText_singleton (line : Line) : linesText [line] = lineText line :=
  List.intercalate_singleton

theorem linesText_cons_cons (line second : Line) (rest : List Line) :
    linesText (line :: second :: rest) = lineText line ++ '\n' :: linesText (second :: rest) := by
  simp [linesText, List.intercalate_cons_cons]

theorem linesText_cons_of_eq {line line' : Line} {text : List Char} (rest : List Line)
    (h : lineText line' = text ++ lineText line) :
    linesText (line' :: rest) = text ++ linesText (line :: rest) := by
  cases rest with
  | nil => rw [linesText_singleton, linesText_singleton, h]
  | cons second rest => rw [linesText_cons_cons, linesText_cons_cons, h, List.append_assoc]

theorem lineText_consPiece (look : Option String) (text : List Char) (line : Line) :
    lineText (consPiece look text line) = text ++ lineText line := by
  cases line with
  | nil => rfl
  | cons piece line =>
      obtain ⟨next, rest⟩ := piece
      rw [consPiece]
      split
      · simp [lineText]
      · rfl

/-- The pieces of a line are not empty, and none goes on to the next line. -/
def IsClean (line : Line) : Prop := ∀ piece ∈ line, piece.2 ≠ [] ∧ '\n' ∉ piece.2

theorem isClean_consPiece {look : Option String} {text : List Char} {line : Line}
    (htext : text ≠ [] ∧ '\n' ∉ text) (h : IsClean line) : IsClean (consPiece look text line) := by
  cases line with
  | nil => exact List.forall_mem_singleton.mpr htext
  | cons piece line =>
      obtain ⟨next, rest⟩ := piece
      obtain ⟨hpiece, hline⟩ := List.forall_mem_cons.mp h
      rw [consPiece]
      split
      · refine List.forall_mem_cons.mpr ⟨⟨by simp [htext.1], ?_⟩, hline⟩
        rw [List.mem_append, not_or]
        exact ⟨htext.2, hpiece.2⟩
      · exact List.forall_mem_cons.mpr ⟨htext, h⟩

/-- The lines are drawn for the text: there is one at least, all are clean, and the text is
theirs. -/
structure Drawn (rows : List Line) (text : List Char) : Prop where
  ne_nil : rows ≠ []
  clean : ∀ line ∈ rows, IsClean line
  text_eq : linesText rows = text

theorem Drawn.consToken {rows : List Line} {text : List Char} (h : Drawn rows text)
    (look : Option String) (token : List Char) :
    Drawn (consToken look token rows) (token ++ text) := by
  induction token with
  | nil => exact h
  | cons c token ih =>
      obtain ⟨first, rest, hrows⟩ := List.exists_cons_of_ne_nil ih.ne_nil
      by_cases hc : c = '\n'
      · subst hc
        rw [Code.consToken]
        have hclean : ∀ line ∈ [] :: Code.consToken look token rows, IsClean line :=
          List.forall_mem_cons.mpr ⟨List.forall_mem_nil _, ih.clean⟩
        refine ⟨List.cons_ne_nil _ _, hclean, ?_⟩
        rw [hrows, linesText_cons_cons, ← hrows, ih.text_eq]
        rfl
      · have hclean := hrows ▸ ih.clean
        have hcons : Code.consToken look (c :: token) rows = consPiece look [c] first :: rest := by
          rw [Code.consToken, hrows]
          exact hc
        obtain ⟨hfirst, hrest⟩ := List.forall_mem_cons.mp hclean
        have hpiece : IsClean (consPiece look [c] first) :=
          isClean_consPiece ⟨by simp, by simpa using Ne.symm hc⟩ hfirst
        rw [hcons]
        refine ⟨List.cons_ne_nil _ _, List.forall_mem_cons.mpr ⟨hpiece, hrest⟩, ?_⟩
        rw [linesText_cons_of_eq rest (lineText_consPiece look [c] first), ← hrows, ih.text_eq]
        rfl

/-- The lines of tokens have the text of the tokens. -/
theorem drawn_lines (tokens : List Token) : Drawn (lines tokens) (textOf tokens) := by
  induction tokens with
  | nil => exact ⟨by simp [lines], by simp [lines, IsClean], rfl⟩
  | cons token tokens ih => exact ih.consToken token.kind.cssClass? token.text

/-! ### Markup of lines -/

theorem allText_pieceHtml (piece : Option String × List Char) :
    allText [pieceHtml piece] = piece.2 := by
  obtain ⟨look, text⟩ := piece
  have htext : allText [.text (String.ofList text)] = text := by
    rw [Html.allText_text, String.toList_ofList]
  cases look with
  | none => exact htext
  | some cssClass =>
      rw [pieceHtml]
      exact (Html.allText_element (by decide) _ _).trans htext

theorem allText_map_pieceHtml (line : Line) : allText (line.map pieceHtml) = lineText line := by
  induction line with
  | nil => rfl
  | cons piece line ih =>
      rw [List.map_cons, Html.allText_cons, allText_pieceHtml, ih]
      rfl

theorem linesHtml_cons_cons (line second : Line) (rest : List Line) :
    linesHtml (line :: second :: rest) =
      line.map pieceHtml ++ .text "\n" :: linesHtml (second :: rest) := by
  cases line <;> rfl

/-- Text that ends where a line ends is what its lines show. -/
theorem Drawn.allText_linesHtml {rows : List Line} {text : List Char} (h : Drawn rows text)
    (hend : text = [] ∨ text.getLast? = some '\n') : allText (linesHtml rows) = text := by
  induction rows generalizing text with
  | nil => exact absurd rfl h.ne_nil
  | cons line rows ih =>
      obtain ⟨_, hclean, htext⟩ := h
      obtain ⟨hline, hrows⟩ := List.forall_mem_cons.mp hclean
      cases rows with
      | nil =>
          rw [linesText_singleton] at htext
          cases line with
          | nil => exact htext
          | cons piece line =>
              exfalso
              have hne : text ≠ [] := by
                rw [← htext]
                simp [lineText, (List.forall_mem_cons.mp hline).1.1]
              have hfeed : '\n' ∈ lineText (piece :: line) := by
                rw [htext]
                exact List.mem_of_getLast? (hend.resolve_left hne)
              obtain ⟨found, hfound, hmem⟩ := List.mem_flatMap.mp hfeed
              exact (hline found hfound).2 hmem
      | cons second rows =>
          rw [linesText_cons_cons] at htext
          have hrest : linesText (second :: rows) = [] ∨
              (linesText (second :: rows)).getLast? = some '\n' := by
            subst htext
            cases hlast : linesText (second :: rows) with
            | nil => exact .inl rfl
            | cons c s =>
                rw [hlast] at hend
                simpa using hend
          have hdrawn : Drawn (second :: rows) (linesText (second :: rows)) :=
            ⟨List.cons_ne_nil _ _, hrows, rfl⟩
          rw [linesHtml_cons_cons, Html.allText_append, Html.allText_cons, ih hdrawn hrest,
            allText_map_pieceHtml, Html.allText_text, ← htext]
          rfl

/-! ### Prepared code -/

/-- Code without the byte order mark in front of it. -/
def unmarked : List Char → List Char
  | '\ufeff' :: rest => rest
  | code => code

/-- Code that neither begins nor ends with a line feed. -/
def IsBare (core : List Char) : Prop := core.head? ≠ some '\n' ∧ core.getLast? ≠ some '\n'

instance (core : List Char) : Decidable (IsBare core) := inferInstanceAs (Decidable (_ ∧ _))

/-- The code without the line feeds at its ends. -/
def core (code : List Char) : List Char := Text.trimBy (· == '\n') (unmarked code)

theorem prepare_eq {code : List Char} (h : '\r' ∉ code) : prepare code = core code ++ ['\n'] := by
  have hunmarked : '\r' ∉ unmarked code := by
    unfold unmarked
    split
    · exact fun hmem => h (List.mem_cons_of_mem _ hmem)
    · exact h
  have hprepare : prepare code =
      Text.trimBy (· == '\n') (Text.universal (unmarked code)) ++ ['\n'] := by
    unfold prepare unmarked
    rfl
  rw [hprepare, Text.universal_eq_self hunmarked, core]

theorem isBare_core (code : List Char) : IsBare (core code) := by
  have hfirst := Text.head?_trimBy (· == '\n') (unmarked code)
  have hlast := Text.getLast?_trimBy (· == '\n') (unmarked code)
  constructor
  · intro h
    rw [core] at h
    rw [h] at hfirst
    cases hfirst
  · intro h
    rw [core] at h
    rw [h] at hlast
    cases hlast

theorem unmarked_eq_self {code : List Char} (h : code.head? ≠ some '\ufeff') :
    unmarked code = code := by
  unfold unmarked
  split
  · exact absurd rfl h
  · rfl

/-- What is taken away: a byte order mark in front, and line feeds at the ends. -/
theorem exists_append_core (code : List Char) : ∃ mark before after,
    code = mark ++ before ++ core code ++ after ∧
      mark = (if code.head? = some '\ufeff' then ['\ufeff'] else []) ∧
      ∀ c ∈ before ++ after, c = '\n' := by
  obtain ⟨before, after, hcore, hbefore, hafter⟩ :=
    Text.exists_append_trimBy (· == '\n') (unmarked code)
  have hfeeds : ∀ c ∈ before ++ after, c = '\n' :=
    List.forall_mem_append.mpr ⟨fun c hc => beq_iff_eq.mp (hbefore c hc),
      fun c hc => beq_iff_eq.mp (hafter c hc)⟩
  refine ⟨_, before, after, ?_, rfl, hfeeds⟩
  have hmark : code = (if code.head? = some '\ufeff' then ['\ufeff'] else []) ++ unmarked code := by
    by_cases h : code.head? = some '\ufeff'
    · obtain ⟨rest, rfl⟩ := List.head?_eq_some_iff.mp h
      rw [if_pos h]
      rfl
    · rw [if_neg h, unmarked_eq_self h]
      rfl
  calc code = _ ++ unmarked code := hmark
    _ = _ ++ (before ++ core code ++ after) := congrArg (_ ++ ·) hcore
    _ = _ := by simp only [List.append_assoc]

/-- Code comes back as it was exactly if nothing is taken away from it but the line feed that is put
back. -/
theorem core_append_feed_eq_iff {code : List Char} :
    core code ++ ['\n'] = code ↔
      code.head? ≠ some '\ufeff' ∧ ∃ bare, IsBare bare ∧ code = bare ++ ['\n'] := by
  constructor
  · intro h
    refine ⟨?_, core code, isBare_core code, h.symm⟩
    intro hmark
    obtain ⟨mark, before, after, hcode, hmark', _⟩ := exists_append_core code
    rw [if_pos hmark] at hmark'
    have hcount := congrArg (List.count '\ufeff') hcode
    have hcount' := congrArg (List.count '\ufeff') h
    have hfeed : List.count '\ufeff' ['\n'] = 0 := by decide
    rw [List.count_append, hfeed] at hcount'
    simp only [List.count_append, hmark', List.count_singleton_self] at hcount
    omega
  · rintro ⟨hmark, bare, ⟨hfirst, hlast⟩, rfl⟩
    have hany : ∀ {c? : Option Char}, c? ≠ some '\n' → c?.any (· == '\n') = false := by
      intro c? h
      cases c? with
      | none => rfl
      | some c => simpa using h
    have hcore : core (bare ++ ['\n']) = bare := by
      rw [core, unmarked_eq_self hmark, Text.trimBy_append (List.forall_mem_singleton.mpr rfl)]
      exact Text.trimBy_eq_self (hany hfirst) (hany hlast)
    rw [hcore]

end Code

/-! ### What blocks show -/

theorem textContent_print_of_regular {html : Html} (h : html.Regular Html.IsPlain) :
    textContent html.print = String.ofList (allText [html]) := by
  have hpieces : Html.allPieces [html] = html.pieces := List.append_nil _
  rw [textContent, Html.scan_print_eq (fun _ h => h) h, allText, hpieces]

/-- A highlighted block shows its text as the lexer sees it. -/
theorem textContent_blockHtml {lexer : Code.Lexer} (hlossless : Code.Lossless lexer)
    (classes : List String) {text : String} (hfeeds : '\r' ∉ text.toList) :
    textContent (Code.blockHtml lexer classes text).print =
      String.ofList (Code.core text.toList ++ ['\n']) := by
  have hdrawn := Code.drawn_lines (lexer (Code.prepare text.toList))
  rw [hlossless, Code.prepare_eq hfeeds] at hdrawn
  have hbody : allText (Code.bodyHtml lexer text) = Code.core text.toList ++ ['\n'] := by
    rw [Code.bodyHtml, Code.prepare_eq hfeeds]
    exact hdrawn.allText_linesHtml (.inr List.getLast?_concat)
  rw [textContent_print_of_regular (regular_blockHtml lexer classes text), Code.blockHtml,
    Html.allText_element (by decide), Html.allText_element (by decide), hbody]

/-- A block that is not highlighted shows its text. -/
theorem textContent_plainBlock (text : String) :
    textContent (Html.element "pre" [] [.text text]).print = text := by
  have hregular : (Html.element "pre" [] [.text text]).Regular Html.IsPlain :=
    regular_element (by decide) ⟨trivial, trivial⟩
  rw [textContent_print_of_regular hregular, Html.allText_element (by decide), Html.allText_text,
    String.ofList_toList]

/-- Where no language loses code: a block none of whose classes names a language shows its text. A
highlighted one shows it without a byte order mark in front and without the line feeds at its ends,
and with one line feed behind it; that is the text exactly if it has no such mark, no line feed in
front, and just one at the end. -/
theorem textContent_codeBlock {find : String → Option Code.Lexer}
    (hlossless : ∀ name lexer, find name = some lexer → Code.Lossless lexer) (attr : Attr)
    {text : String} (hfeeds : '\r' ∉ text.toList) :
    ((∀ name ∈ attr.classes ++ [noPrettyPrint], find name = none) →
      textContent (codeBlockHtmlWith find attr text).print = text) ∧
    ((∃ name ∈ attr.classes ++ [noPrettyPrint], find name ≠ none) →
      (∃ mark before core after, text.toList = mark ++ before ++ core ++ after ∧
        mark = (if text.toList.head? = some '\ufeff' then ['\ufeff'] else []) ∧
        (∀ c ∈ before ++ after, c = '\n') ∧ Code.IsBare core ∧
        textContent (codeBlockHtmlWith find attr text).print = String.ofList (core ++ ['\n'])) ∧
      (textContent (codeBlockHtmlWith find attr text).print = text ↔
        text.toList.head? ≠ some '\ufeff' ∧
          ∃ bare, Code.IsBare bare ∧ text.toList = bare ++ ['\n'])) ∧
    Node.blockHtml (.codeBlock attr text) = .ok [codeBlockHtmlWith Code.lexer? attr text] := by
  refine ⟨?plain, ?highlighted, blockHtml_codeBlock attr text⟩
  case plain =>
    intro hunknown
    rw [codeBlockHtmlWith_of_unknown hunknown]
    exact textContent_plainBlock text
  case highlighted =>
    intro hknown
    obtain ⟨lexer, hfirst⟩ := exists_firstKnown hknown
    have hlexer : Code.Lossless lexer := by
      obtain ⟨_, name, _, _, _, hname⟩ := hfirst
      exact hlossless name lexer hname
    have hshown := textContent_blockHtml hlexer (attr.classes ++ [noPrettyPrint]) hfeeds
    rw [codeBlockHtmlWith_of_firstKnown hfirst, hshown]
    constructor
    · obtain ⟨mark, before, after, htext, hmark, hends⟩ := Code.exists_append_core text.toList
      exact ⟨mark, before, _, after, htext, hmark, hends, Code.isBare_core _, rfl⟩
    · rw [← String.toList_inj, String.toList_ofList]
      exact Code.core_append_feed_eq_iff

/-- A block that is not highlighted and begins with an empty line, and a highlighted one with an
empty line inside and blanks around the lines. -/
theorem textContent_codeBlock_of_lines :
    textContent (codeBlockHtmlWith Code.lexer? ⟨"", ["x"], []⟩ "\n<1>").print = "\n<1>" ∧
    textContent (codeBlockHtmlWith Code.lexer? ⟨"", ["x", "json"], []⟩ " 1\n\n 2 \n").print =
      " 1\n\n 2 \n" := by
  have hlossless : ∀ name lexer, Code.lexer? name = some lexer → Code.Lossless lexer :=
    fun _ _ h => Code.lossless_of_lexer? h
  have hunknown : ∀ name ∈ ["x"] ++ [noPrettyPrint], Code.lexer? name = none := by
    refine List.forall_mem_cons.mpr ⟨by cbv, List.forall_mem_singleton.mpr (by cbv)⟩
  have hknown : ∃ name ∈ ["x", "json"] ++ [noPrettyPrint], Code.lexer? name ≠ none :=
    ⟨"json", by decide, by cbv; simp⟩
  obtain ⟨hplain, _⟩ := textContent_codeBlock hlossless ⟨"", ["x"], []⟩
    (show '\r' ∉ "\n<1>".toList by decide)
  obtain ⟨_, hhighlighted, _⟩ := textContent_codeBlock hlossless ⟨"", ["x", "json"], []⟩
    (show '\r' ∉ " 1\n\n 2 \n".toList by decide)
  obtain ⟨_, hiff⟩ := hhighlighted hknown
  exact ⟨hplain hunknown, hiff.mpr ⟨by decide, " 1\n\n 2 ".toList, by decide, by decide⟩⟩

/-- An empty line in front of highlighted code is not shown. -/
theorem textContent_of_leading_lineFeed :
    ∃ html, Node.blockHtml (.codeBlock ⟨"", ["json"], []⟩ "\n1\n") = .ok [html] ∧
      '\r' ∉ "\n1\n".toList ∧ textContent html.print = "1\n" ∧
      textContent html.print ≠ "\n1\n" := by
  have hknown : ∃ name ∈ ["json"] ++ [noPrettyPrint], Code.lexer? name ≠ none :=
    ⟨"json", by decide, by cbv; simp⟩
  obtain ⟨lexer, hfirst⟩ := exists_firstKnown hknown
  have hlexer : Code.Lossless lexer := by
    obtain ⟨_, name, _, _, _, hname⟩ := hfirst
    exact Code.lossless_of_lexer? hname
  have hfeeds : '\r' ∉ "\n1\n".toList := by decide
  have hshown := textContent_blockHtml hlexer (["json"] ++ [noPrettyPrint]) hfeeds
  have hcore : String.ofList (Code.core "\n1\n".toList ++ ['\n']) = "1\n" := by decide
  rw [hcore] at hshown
  refine ⟨_, blockHtml_codeBlock _ _, hfeeds, ?_⟩
  rw [@codeBlockHtmlWith_of_firstKnown _ _ ⟨"", ["json"], []⟩ hfirst, hshown]
  exact ⟨rfl, by decide⟩

end LiveDeck
