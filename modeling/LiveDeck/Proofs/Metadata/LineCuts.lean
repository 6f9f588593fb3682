import LiveDeck.Proofs.Metadata.WrittenBlocks

/-! # Where title blocks are cut

A title block is taken off a source line by line, and so is each of its fields.  Those lines end at
every line boundary of Unicode, while the lines of the body end at line feeds and carriage returns
only (`Markdown.lineTexts`).  A cut behind a line of the first kind therefore leaves the lines of
Markdown whole exactly if that line ends with a line feed or a carriage return
(`Markdown.isLineCut_iff`, `exists_boundary_of_splitLines`).  Main statement (`isLineCut_split`):
this is so for the cut behind every field, and a block without other line boundaries is only ever
cut off between lines.  A vertical tab in a title ends it in the middle of a line
(`split_cuts_line_at_verticalTab`). -/

namespace LiveDeck

namespace Text

/-! ### Cuts between lines of Unicode -/

/-- Where a text is cut between two of its lines, the first part ends with a line boundary, and no
carriage return is cut off from its line feed. -/
theorem exists_boundary_of_splitLines {s : List Char} {first second : List (List Char)}
    (h : splitLines s = first ++ second) (hfirst : first ≠ []) (hsecond : second ≠ []) :
    ∃ c, first.flatten.getLast? = some c ∧ isLineBoundary c = true ∧
      (c = '\r' → second.flatten.head? ≠ some '\n') := by
  fun_induction splitLines s generalizing first with
  | case1 => exact absurd (List.append_eq_nil_iff.mp h.symm).1 hfirst
  | case2 s ih =>
      obtain ⟨line, others, rfl⟩ := List.exists_cons_of_ne_nil hfirst
      rw [List.cons_append] at h
      obtain ⟨rfl, hothers⟩ := List.cons.inj h
      by_cases hnil : others = []
      · subst hnil
        exact ⟨'\n', rfl, by decide, fun heq => absurd heq (by decide)⟩
      · obtain ⟨c, hlast, hc⟩ := ih hothers hnil
        exact ⟨c, by rw [List.flatten_cons, List.getLast?_append, hlast]; rfl, hc⟩
  | case3 c s hpair hc ih =>
      obtain ⟨line, others, rfl⟩ := List.exists_cons_of_ne_nil hfirst
      rw [List.cons_append] at h
      obtain ⟨rfl, hothers⟩ := List.cons.inj h
      by_cases hnil : others = []
      · subst hnil
        refine ⟨c, rfl, hc, ?_⟩
        rintro rfl hhead
        rw [List.nil_append] at hothers
        rw [← hothers, flatten_splitLines] at hhead
        obtain ⟨rest, rfl⟩ := List.head?_eq_some_iff.mp hhead
        exact hpair rest rfl rfl
      · obtain ⟨d, hlast, hd⟩ := ih hothers hnil
        exact ⟨d, by rw [List.flatten_cons, List.getLast?_append, hlast]; rfl, hd⟩
  | case4 c s hpair hc ih =>
      cases hlines : splitLines s with
      | nil =>
          rw [hlines] at h
          have hlength := congrArg List.length h
          have hone := List.length_pos_iff.mpr hfirst
          have htwo := List.length_pos_iff.mpr hsecond
          rw [consLine, List.length_singleton, List.length_append] at hlength
          omega
      | cons line lines =>
          rw [hlines] at h ih
          obtain ⟨start, others, rfl⟩ := List.exists_cons_of_ne_nil hfirst
          rw [consLine, List.cons_append] at h
          obtain ⟨rfl, hothers⟩ := List.cons.inj h
          obtain ⟨d, hlast, hd⟩ := ih (congrArg (line :: ·) hothers) (List.cons_ne_nil _ _)
          rw [List.flatten_cons] at hlast
          exact ⟨d, by simp [List.getLast?_cons, hlast], hd⟩

/-! ### Cuts between lines of Markdown -/

theorem universal_cons_of_not_pair {c : Char} {s : List Char}
    (h : c = '\r' → s.head? ≠ some '\n') :
    universal (c :: s) = (if c = '\r' then '\n' else c) :: universal s := by
  rw [universal]
  rintro rest rfl rfl
  exact h rfl rfl

/-- Line endings are read in each part alone, unless a pair is cut in two. -/
theorem universal_append {first second : List Char}
    (h : first.getLast? = some '\r' → second.head? ≠ some '\n') :
    universal (first ++ second) = universal first ++ universal second := by
  fun_induction universal first with
  | case1 => rfl
  | case2 s ih =>
      have hs : s.getLast? = some '\r' → second.head? ≠ some '\n' := by
        intro hlast
        exact h (by simp [List.getLast?_cons, hlast])
      rw [List.cons_append, List.cons_append, universal, ih hs]
      rfl
  | case3 c s hpair ih =>
      have hs : s.getLast? = some '\r' → second.head? ≠ some '\n' := by
        intro hlast
        exact h (by simp [List.getLast?_cons, hlast])
      have hnext : c = '\r' → (s ++ second).head? ≠ some '\n' := by
        rintro rfl
        cases s with
        | nil => exact h rfl
        | cons d s =>
            intro hd
            cases hd
            exact hpair s rfl rfl
      rw [List.cons_append, universal_cons_of_not_pair hnext, ih hs]
      rfl

end Text

namespace Markdown

open Text

/-- The texts of the lines of a source, without their endings. -/
def lineTexts (source : List Char) : List (List Char) := (normalizeSource source).splitOn '\n'

/-- Whether no line reaches from the first part of a source into the second. -/
def IsLineCut (first second : List Char) : Prop :=
  first = [] ∨ second = [] ∨
    lineTexts (first ++ second) = (lineTexts first).dropLast ++ lineTexts second

/-- Whether the first of two parts ends with a line ending. -/
def EndsLine (first second : List Char) : Prop :=
  first.getLast? = some '\n' ∨ first.getLast? = some '\r' ∧ second.head? ≠ some '\n'

theorem normalizeSource_append {first second : List Char}
    (h : first.getLast? = some '\r' → second.head? ≠ some '\n') :
    normalizeSource (first ++ second) = normalizeSource first ++ normalizeSource second := by
  rw [normalizeSource, universal_append h, List.map_append]
  rfl

theorem exists_normalizeSource_of_getLast? {s : List Char}
    (h : s.getLast? = some '\n' ∨ s.getLast? = some '\r') :
    ∃ start, normalizeSource s = start ++ ['\n'] := by
  rcases h with h | h
  · obtain ⟨start, rfl⟩ := List.getLast?_eq_some_iff.mp h
    by_cases hpair : start.getLast? = some '\r'
    · obtain ⟨start, rfl⟩ := List.getLast?_eq_some_iff.mp hpair
      refine ⟨normalizeSource start, ?_⟩
      rw [List.append_assoc, normalizeSource_append (by simp)]
      rfl
    · exact ⟨normalizeSource start, normalizeSource_append fun hlast => absurd hlast hpair⟩
  · obtain ⟨start, rfl⟩ := List.getLast?_eq_some_iff.mp h
    exact ⟨normalizeSource start, normalizeSource_append (by simp)⟩

theorem exists_normalizeSource_cons {c : Char} (hreturn : c ≠ '\r') (hfeed : c ≠ '\n') :
    ∃ d, d ≠ '\n' ∧ ∀ s, normalizeSource (c :: s) = d :: normalizeSource s := by
  refine ⟨if c = '\x00' then replacementChar else c, ?_, fun s => ?_⟩
  · split
    · decide
    · exact hfeed
  · rw [normalizeSource, universal_cons hreturn, List.map_cons]
    rfl

theorem lineTexts_of_eq {source first second : List Char}
    (h : normalizeSource source = first ++ '\n' :: second) :
    lineTexts source = first.splitOn '\n' ++ second.splitOn '\n' := by
  rw [lineTexts, h, List.splitOn_append_cons_self]

/-- Behind a line ending a new line begins. -/
theorem lineTexts_append_of_endsLine {first second : List Char} (h : EndsLine first second) :
    lineTexts (first ++ second) = (lineTexts first).dropLast ++ lineTexts second := by
  have hpair : first.getLast? = some '\r' → second.head? ≠ some '\n' := by
    intro hlast
    rcases h with h | h
    · rw [hlast] at h
      exact absurd h (by decide)
    · exact h.2
  obtain ⟨start, hstart⟩ := exists_normalizeSource_of_getLast? (h.imp_right And.left)
  have hwhole : normalizeSource (first ++ second) = start ++ '\n' :: normalizeSource second := by
    rw [normalizeSource_append hpair, hstart, List.append_assoc]
    rfl
  rw [lineTexts_of_eq hwhole, lineTexts_of_eq hstart, List.splitOn_nil, List.dropLast_concat]
  rfl

theorem lineTexts_append_of_pair (start rest : List Char) :
    lineTexts (start ++ ['\r'] ++ '\n' :: rest) ≠
      (lineTexts (start ++ ['\r'])).dropLast ++ lineTexts ('\n' :: rest) := by
  have hwhole : normalizeSource (start ++ ['\r'] ++ '\n' :: rest) =
      normalizeSource start ++ '\n' :: normalizeSource rest := by
    rw [List.append_assoc, normalizeSource_append (by simp)]
    rfl
  have hfirst : normalizeSource (start ++ ['\r']) = normalizeSource start ++ '\n' :: [] :=
    normalizeSource_append (by simp)
  have hsecond : normalizeSource ('\n' :: rest) = [] ++ '\n' :: normalizeSource rest := rfl
  rw [lineTexts_of_eq hwhole, lineTexts_of_eq hfirst, lineTexts_of_eq hsecond, List.splitOn_nil,
    List.dropLast_concat]
  intro heq
  have hlength := congrArg List.length (List.append_cancel_left heq)
  simp at hlength

theorem lineTexts_append_of_ne {c : Char} (hreturn : c ≠ '\r') (hfeed : c ≠ '\n')
    (start second : List Char) :
    lineTexts (start ++ [c] ++ second) ≠
      (lineTexts (start ++ [c])).dropLast ++ lineTexts second := by
  obtain ⟨d, hd, hcons⟩ := exists_normalizeSource_cons hreturn hfeed
  have happend : ∀ s, normalizeSource (start ++ c :: s) =
      normalizeSource start ++ d :: normalizeSource s := by
    intro s
    rw [normalizeSource_append (by simp [hfeed]), hcons]
  obtain ⟨part, rest, hsecond⟩ :=
    List.exists_cons_of_ne_nil (List.splitOn_ne_nil '\n' (normalizeSource second))
  obtain ⟨parts, last, -, hjoin⟩ := exists_splitOn_append '\n' (normalizeSource start)
  have hopen : ∀ {s part rest}, s.splitOn '\n' = part :: rest →
      (d :: s).splitOn '\n' = (d :: part) :: rest := by
    intro s part rest hs
    rw [List.splitOn_cons_eq_if_modifyHead, if_neg (by simpa using hd), hs, List.modifyHead_cons]
  have hwhole : lineTexts (start ++ [c] ++ second) = parts ++ (last ++ d :: part) :: rest := by
    rw [lineTexts, List.append_assoc, List.singleton_append, happend]
    exact hjoin _ _ _ (hopen hsecond)
  have hfirst : lineTexts (start ++ [c]) = parts ++ [last ++ [d]] := by
    rw [lineTexts, happend]
    exact hjoin _ _ _ (hopen (List.splitOn_nil '\n'))
  rw [hwhole, hfirst, lineTexts, hsecond, List.dropLast_concat]
  intro heq
  have hpart := congrArg List.length (List.head_eq_of_cons_eq (List.append_cancel_left heq))
  simp at hpart
  omega

/-- No line is cut exactly if one of the parts is empty or the first one ends with a line ending. -/
theorem isLineCut_iff {first second : List Char} :
    IsLineCut first second ↔ first = [] ∨ second = [] ∨ EndsLine first second := by
  constructor
  · rintro (h | h | h)
    · exact .inl h
    · exact .inr (.inl h)
    rcases List.eq_nil_or_concat first with hnil | ⟨start, c, rfl⟩
    · exact .inl hnil
    refine .inr (.inr ?_)
    rw [List.concat_eq_append] at h ⊢
    by_cases hfeed : c = '\n'
    · exact .inl (by simp [hfeed])
    by_cases hreturn : c = '\r'
    · subst hreturn
      refine .inr ⟨by simp, fun hhead => ?_⟩
      obtain ⟨rest, rfl⟩ := List.head?_eq_some_iff.mp hhead
      exact lineTexts_append_of_pair start rest h
    · exact absurd h (lineTexts_append_of_ne hreturn hfeed start second)
  · exact Or.imp_right (Or.imp_right lineTexts_append_of_endsLine)

end Markdown

namespace TitleBlock

open Text Markdown

/-! ### The lines of the fields -/

/-- The lines that each of at most `count` fields takes. -/
def fieldLines : Nat → List (List Char) → List (List (List Char))
  | count + 1, ('%' :: first) :: rest =>
    (('%' :: first) :: rest.takeWhile isContinuation) ::
      fieldLines count (rest.dropWhile isContinuation)
  | _, _ => []

/-- The field on lines of its own. -/
def fieldOn : List (List Char) → List Char
  | ('%' :: first) :: others => field first others
  | _ => []

/-- Every field depends on its own lines only, and these with the lines after them are all. -/
theorem fields_eq (count : Nat) (lines : List (List Char)) :
    (fields count lines).1 = (fieldLines count lines).map fieldOn ∧
      (fieldLines count lines).flatten ++ (fields count lines).2 = lines := by
  fun_induction fields count lines with
  | case1 count first rest found body hfields ih =>
      rw [hfields] at ih
      obtain ⟨hfound, hbody⟩ := ih
      rw [fieldLines]
      refine ⟨?_, ?_⟩
      · rw [List.map_cons, ← hfound]
        rfl
      · rw [List.flatten_cons, List.append_assoc, hbody, List.cons_append,
          List.takeWhile_append_dropWhile]
  | case2 count lines hother =>
      have hnone : fieldLines count lines = [] := by
        unfold fieldLines
        split
        · rename_i count first rest
          exact (hother count first rest rfl rfl).elim
        · rfl
      rw [hnone]
      exact ⟨rfl, rfl⟩

theorem length_fieldLines_le (count : Nat) (lines : List (List Char)) :
    (fieldLines count lines).length ≤ count := by
  fun_induction fieldLines count lines with
  | case1 count first rest ih =>
      rw [List.length_cons]
      omega
  | case2 => exact Nat.zero_le _

/-! ### Cuts behind fields -/

/-- What stands in a source before the end of its `count`-th field. -/
def before (source : List Char) (count : Nat) : List Char :=
  ((fieldLines 3 (splitLines source)).take count).flatten.flatten

/-- What stands in a source after the end of its `count`-th field. -/
def after (source : List Char) (count : Nat) : List Char :=
  (((fieldLines 3 (splitLines source)).drop count).flatten ++
    (fields 3 (splitLines source)).2).flatten

theorem splitLines_eq_append (source : List Char) (count : Nat) :
    splitLines source = ((fieldLines 3 (splitLines source)).take count).flatten ++
      (((fieldLines 3 (splitLines source)).drop count).flatten ++
        (fields 3 (splitLines source)).2) := by
  rw [← List.append_assoc, ← List.flatten_append, List.take_append_drop]
  exact (fields_eq 3 (splitLines source)).2.symm

theorem before_append_after (source : List Char) (count : Nat) :
    before source count ++ after source count = source := by
  rw [before, after, ← List.flatten_append, ← splitLines_eq_append, flatten_splitLines]

theorem after_three (source : List Char) : after source 3 = (split source).2 := by
  rw [after, List.drop_of_length_le (length_fieldLines_le 3 _)]
  rfl

/-- Every field that something comes after ends with a line boundary, and no carriage return is cut
off from its line feed. -/
theorem exists_boundary_of_field {source : List Char} {count : Nat}
    (hbefore : before source count ≠ []) (hafter : after source count ≠ []) :
    ∃ c, (before source count).getLast? = some c ∧ isLineBoundary c = true ∧
      (c = '\r' → (after source count).head? ≠ some '\n') := by
  refine exists_boundary_of_splitLines (splitLines_eq_append source count) ?_ ?_
  · intro hnil
    exact hbefore (congrArg List.flatten hnil)
  · intro hnil
    exact hafter (congrArg List.flatten hnil)

/-- The cut behind a field leaves the lines of Markdown whole exactly if the field ends with a line
feed or a carriage return, unless nothing comes after it. -/
theorem isLineCut_iff_of_field (source : List Char) (count : Nat) :
    IsLineCut (before source count) (after source count) ↔
      (after source count ≠ [] →
        ∀ c ∈ (before source count).getLast?, c = '\n' ∨ c = '\r') := by
  rw [isLineCut_iff]
  constructor
  · rintro (h | h | h) hafter c hc
    · rw [h] at hc
      cases hc
    · exact absurd h hafter
    · rcases h with h | ⟨h, -⟩
      · exact .inl (Option.some.inj (hc.symm.trans h))
      · exact .inr (Option.some.inj (hc.symm.trans h))
  · intro h
    by_cases hafter : after source count = []
    · exact .inr (.inl hafter)
    by_cases hbefore : before source count = []
    · exact .inl hbefore
    refine .inr (.inr ?_)
    obtain ⟨c, hlast, -, hpair⟩ := exists_boundary_of_field hbefore hafter
    rcases h hafter c hlast with rfl | rfl
    · exact .inl hlast
    · exact .inr ⟨hlast, hpair rfl⟩

/-- A source is its title block and its body, and its metadata are the fields of the block, each of
which depends on its own lines only.  The cut behind a field, the last of which is the cut between
block and body, leaves the lines of Markdown whole exactly if the field ends with a line feed or a
carriage return or nothing comes after it.  If these are the only line boundaries before the cut,
there is nothing before it or after it, or a line ending before it. -/
theorem isLineCut_split (source : List Char) :
    source = before source 3 ++ (split source).2 ∧
      (split source).1 = metadata ((fieldLines 3 (splitLines source)).map fieldOn) ∧
      ∀ count, source = before source count ++ after source count ∧
        (IsLineCut (before source count) (after source count) ↔
          (after source count ≠ [] →
            ∀ c ∈ (before source count).getLast?, c = '\n' ∨ c = '\r')) ∧
        ((∀ c ∈ before source count, isLineBoundary c = true → c = '\n' ∨ c = '\r') →
          before source count = [] ∨ after source count = [] ∨
            EndsLine (before source count) (after source count)) := by
  have hsource : ∀ count, source = before source count ++ after source count :=
    fun count => (before_append_after source count).symm
  refine ⟨?_, congrArg metadata (fields_eq 3 (splitLines source)).1, fun count => ?_⟩
  · rw [← after_three]
    exact hsource 3
  · refine ⟨hsource count, isLineCut_iff_of_field source count, fun hall => ?_⟩
    rw [← isLineCut_iff, isLineCut_iff_of_field]
    intro hafter c hc
    have hmem := List.mem_of_getLast? hc
    obtain ⟨d, hd, hboundary, -⟩ := exists_boundary_of_field (List.ne_nil_of_mem hmem) hafter
    cases hc.symm.trans hd
    exact hall c hmem hboundary

/-- A title on two lines, of which the first ends with a pair and the second with a carriage return:
it is cut off behind them. -/
theorem isLineCut_split_of_continued_title :
    let source := "% a\r\n  b\r% c\n***".toList
    before source 1 = "% a\r\n  b\r".toList ∧
      (∀ c ∈ before source 1, isLineBoundary c = true → c = '\n' ∨ c = '\r') ∧
      EndsLine (before source 1) (after source 1) := by
  intro source
  have hendings : ((before source 1).all fun c => !isLineBoundary c || c == '\n' || c == '\r') =
      true := by decide
  have hboundaries : ∀ c ∈ before source 1, isLineBoundary c = true → c = '\n' ∨ c = '\r' := by
    intro c hc hboundary
    simpa [hboundary] using List.all_eq_true.mp hendings c hc
  obtain ⟨-, -, hcuts⟩ := isLineCut_split source
  refine ⟨by decide, hboundaries, ?_⟩
  rcases (hcuts 1).2.2 hboundaries with h | h | h
  · exact absurd h (by decide)
  · exact absurd h (by decide)
  · exact h

/-- A vertical tab in the title: the line of Markdown goes on, but the title ends and the body
begins. -/
theorem split_cuts_line_at_verticalTab :
    let source := "% a\x0bb\n".toList
    split source = ({ title := "a".toList }, "b\n".toList) ∧
      source = "% a\x0b".toList ++ (split source).2 ∧
      lineTexts source = ["% a\x0bb".toList, []] ∧
      ¬ IsLineCut "% a\x0b".toList (split source).2 := by
  intro source
  refine ⟨by decide, by decide, by decide, ?_⟩
  rw [isLineCut_iff]
  unfold EndsLine
  decide

end TitleBlock

end LiveDeck
