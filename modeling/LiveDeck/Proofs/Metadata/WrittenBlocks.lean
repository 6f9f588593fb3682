import LiveDeck.Proofs.Document.LineEndings

/-! # Writing title blocks

A title block is written field by field: the title over any number of indented lines, the names of
the authors in one row, the date like the title.  `WrittenBlock` holds what is written together with
how it is laid out, and `WrittenBlock.text` is the text of it; what the parts have to be like for
that (no blanks at their ends, no line breaks, no semicolons in names) is in their types.

Every written line is a line again (`splitLines_written`), a field takes the lines written for it
and no others (`fields_written`), and neither the blanks around a row of names nor those around a
single name matter (`authors_strip`, `authors_row`).  Main statement (`split_written`): splitting a
written block with a body behind it gives back the pieces, the names and the body. -/

namespace LiveDeck

namespace Text

/-! ### Stripping -/

theorem strip_append_of_blank {t : List Char} (h : ∀ c ∈ t, isBlank c = true) (s : List Char) :
    strip (t ++ s) = strip s :=
  trimBy_append_of_pos h s

theorem strip_eq_nil {t : List Char} (h : ∀ c ∈ t, isBlank c = true) : strip t = [] := by
  have hstrip := strip_append_of_blank h []
  rwa [List.append_nil] at hstrip

theorem strip_eq_self {s : List Char} (hfirst : s.head?.any isBlank = false)
    (hlast : s.getLast?.any isBlank = false) : strip s = s :=
  trimBy_eq_self hfirst hlast

/-! ### Lines -/

theorem splitLines_append_lineFeed {line : List Char} (h : ∀ c ∈ line, isLineBoundary c = false)
    (rest : List Char) :
    splitLines (line ++ '\n' :: rest) = (line ++ ['\n']) :: splitLines rest := by
  induction line with
  | nil => exact (splitLines_cons (by decide) rest).trans (if_pos (by decide))
  | cons c line ih =>
      obtain ⟨hc, hline⟩ := List.forall_mem_cons.mp h
      have hne : c ≠ '\r' := by
        rintro rfl
        exact absurd hc (by decide)
      rw [List.cons_append, splitLines_cons hne, hc, ih hline]
      rfl

/-- Lines, each with a line feed at its end. -/
def writeLines (lines : List (List Char)) : List Char := lines.flatMap (· ++ ['\n'])

/-- Written lines are lines again. -/
theorem splitLines_written {lines : List (List Char)}
    (h : ∀ line ∈ lines, ∀ c ∈ line, isLineBoundary c = false) (rest : List Char) :
    splitLines (writeLines lines ++ rest) = lines.map (· ++ ['\n']) ++ splitLines rest := by
  induction lines with
  | nil => rfl
  | cons line lines ih =>
      obtain ⟨hline, hlines⟩ := List.forall_mem_cons.mp h
      have hcons : writeLines (line :: lines) ++ rest = line ++ '\n' :: (writeLines lines ++ rest) := by
        simp [writeLines]
      rw [hcons, splitLines_append_lineFeed hline, ih hlines]
      rfl

/-! ### Separators -/

theorem exists_splitOn_append (separator : Char) (s : List Char) :
    ∃ parts last, s.splitOn separator = parts ++ [last] ∧
      ∀ t part rest, t.splitOn separator = part :: rest →
        (s ++ t).splitOn separator = parts ++ (last ++ part) :: rest := by
  induction s with
  | nil => exact ⟨[], [], List.splitOn_nil _, fun t part rest h => h⟩
  | cons c s ih =>
      obtain ⟨parts, last, hs, ht⟩ := ih
      rw [List.splitOn_cons_eq_if_modifyHead, hs]
      by_cases hc : (c == separator) = true
      · refine ⟨[] :: parts, last, if_pos hc, fun t part rest h => ?_⟩
        rw [List.cons_append, List.splitOn_cons_eq_if_modifyHead, if_pos hc, ht t part rest h]
        rfl
      · cases parts with
        | nil =>
            refine ⟨[], c :: last, if_neg hc, fun t part rest h => ?_⟩
            rw [List.cons_append, List.splitOn_cons_eq_if_modifyHead, if_neg hc, ht t part rest h]
            rfl
        | cons first parts =>
            refine ⟨(c :: first) :: parts, last, if_neg hc, fun t part rest h => ?_⟩
            rw [List.cons_append, List.splitOn_cons_eq_if_modifyHead, if_neg hc, ht t part rest h]
            rfl

end Text

namespace TitleBlock

open Text

/-! ### What is written -/

/-- A text that stands on one line with no blanks at its ends. -/
structure Piece where
  text : List Char
  ne_nil : text ≠ [] := by decide
  first_eq : text.head?.any isBlank = false := by decide
  last_eq : text.getLast?.any isBlank = false := by decide
  any_eq : text.any isLineBoundary = false := by decide

/-- What a line that continues a field starts with: spaces and tabs, at least one. -/
structure Indent where
  text : List Char
  ne_nil : text ≠ [] := by decide
  all_eq : (text.all fun c => c == ' ' || c == '\t') = true := by decide

/-- Blanks in a line, if any. -/
structure Padding where
  text : List Char
  all_eq : text.all isBlank = true := by decide
  any_eq : text.any isLineBoundary = false := by decide

/-- A field: its first piece, and further ones on lines of their own. -/
structure WrittenField where
  first : Piece
  further : List (Indent × Piece)

/-- The name of an author with the blanks around it. -/
structure WrittenName where
  before : Padding
  name : Piece
  after : Padding
  notMem : ';' ∉ name.text := by decide

/-- A title block: a title, the names of authors, and a date. -/
structure WrittenBlock where
  title : WrittenField
  names : List WrittenName
  date : WrittenField

namespace WrittenField

/-- The pieces of a field. -/
def pieces (field : WrittenField) : List (List Char) :=
  field.first.text :: field.further.map fun line => line.2.text

/-- The lines that continue a field. -/
def furtherLines (field : WrittenField) : List (List Char) :=
  field.further.map fun line => line.1.text ++ line.2.text

/-- The lines of a field. -/
def lines (field : WrittenField) : List (List Char) :=
  ('%' :: ' ' :: field.first.text) :: field.furtherLines

end WrittenField

/-- A name as it stands in its row. -/
def WrittenName.text (name : WrittenName) : List Char :=
  name.before.text ++ name.name.text ++ name.after.text

/-- The names in a row, with semicolons between them. -/
def row (names : List WrittenName) : List Char := [';'].intercalate (names.map WrittenName.text)

namespace WrittenBlock

/-- The lines of a title block. -/
def lines (block : WrittenBlock) : List (List Char) :=
  block.title.lines ++ ('%' :: ' ' :: row block.names) :: block.date.lines

/-- The text of a title block. -/
def text (block : WrittenBlock) : List Char := writeLines block.lines

end WrittenBlock

/-- Whether a body can follow a title block: its first line, if there is one, is blank or does not
start with a space or a tab. -/
def CanFollow (body : List Char) : Prop :=
  ∀ line ∈ (splitLines body).head?,
    (∀ c ∈ line, isBlank c = true) ∨ line.head? ≠ some ' ' ∧ line.head? ≠ some '\t'

/-! ### Characters of the parts -/

theorem forall_mem_of_any {p : Char → Bool} {s : List Char} (h : s.any p = false) :
    ∀ c ∈ s, p c = false :=
  fun c hc => eq_false_of_ne_true (List.any_eq_false.mp h c hc)

theorem Piece.unbroken (piece : Piece) : ∀ c ∈ piece.text, isLineBoundary c = false :=
  forall_mem_of_any piece.any_eq

theorem Indent.gap (indent : Indent) : ∀ c ∈ indent.text, c = ' ' ∨ c = '\t' := by
  intro c hc
  have hgap := List.all_eq_true.mp indent.all_eq c hc
  rwa [Bool.or_eq_true, beq_iff_eq, beq_iff_eq] at hgap

theorem Padding.blank (padding : Padding) : ∀ c ∈ padding.text, isBlank c = true :=
  List.all_eq_true.mp padding.all_eq

theorem Padding.unbroken (padding : Padding) : ∀ c ∈ padding.text, isLineBoundary c = false :=
  forall_mem_of_any padding.any_eq

/-! ### Lines of a written block -/

theorem isLineBoundary_of_isGap {c : Char} (h : c = ' ' ∨ c = '\t') : isLineBoundary c = false := by
  rcases h with rfl | rfl <;> decide

theorem isBlank_of_isGap {c : Char} (h : c = ' ' ∨ c = '\t') : isBlank c = true := by
  rcases h with rfl | rfl <;> decide

theorem WrittenField.unbroken (field : WrittenField) :
    ∀ line ∈ field.lines, ∀ c ∈ line, isLineBoundary c = false := by
  refine List.forall_mem_cons.mpr ⟨?_, ?_⟩
  · intro c hc
    rcases List.mem_cons.mp hc with rfl | hc
    · decide
    rcases List.mem_cons.mp hc with rfl | hc
    · decide
    · exact field.first.unbroken c hc
  · intro line hline c hc
    obtain ⟨⟨indent, piece⟩, _, rfl⟩ := List.mem_map.mp hline
    rcases List.mem_append.mp hc with hc | hc
    · exact isLineBoundary_of_isGap (indent.gap c hc)
    · exact piece.unbroken c hc

theorem WrittenName.unbroken (name : WrittenName) : ∀ c ∈ name.text, isLineBoundary c = false := by
  intro c hc
  rcases List.mem_append.mp hc with hc | hc
  · rcases List.mem_append.mp hc with hc | hc
    · exact name.before.unbroken c hc
    · exact name.name.unbroken c hc
  · exact name.after.unbroken c hc

theorem forall_mem_intercalate {p : Char → Prop} {separator : List Char}
    (hseparator : ∀ c ∈ separator, p c) {parts : List (List Char)}
    (h : ∀ part ∈ parts, ∀ c ∈ part, p c) : ∀ c ∈ separator.intercalate parts, p c := by
  induction parts with
  | nil => nofun
  | cons part parts ih =>
      obtain ⟨hpart, hparts⟩ := List.forall_mem_cons.mp h
      cases parts with
      | nil => rwa [List.intercalate_singleton]
      | cons next parts =>
          rw [List.intercalate_cons_cons, List.forall_mem_append, List.forall_mem_append]
          exact ⟨⟨hpart, hseparator⟩, ih hparts⟩

theorem unbroken_row (names : List WrittenName) : ∀ c ∈ row names, isLineBoundary c = false := by
  refine forall_mem_intercalate (List.forall_mem_singleton.mpr (by decide)) ?_
  intro part hpart
  obtain ⟨name, _, rfl⟩ := List.mem_map.mp hpart
  exact name.unbroken

theorem WrittenBlock.unbroken (block : WrittenBlock) :
    ∀ line ∈ block.lines, ∀ c ∈ line, isLineBoundary c = false := by
  refine List.forall_mem_append.mpr ⟨block.title.unbroken, ?_⟩
  refine List.forall_mem_cons.mpr ⟨?_, block.date.unbroken⟩
  refine List.forall_mem_cons.mpr ⟨by decide, ?_⟩
  exact List.forall_mem_cons.mpr ⟨by decide, unbroken_row block.names⟩

/-! ### Fields -/

theorem strip_piece (piece : Piece) : strip piece.text = piece.text :=
  strip_eq_self piece.first_eq piece.last_eq

theorem strip_written {before : List Char} (h : ∀ c ∈ before, isBlank c = true) (piece : Piece) :
    strip (before ++ piece.text ++ ['\n']) = piece.text := by
  rw [strip_append (List.forall_mem_singleton.mpr rfl), strip_append_of_blank h, strip_piece]

theorem isContinuation_further (indent : Indent) (piece : Piece) :
    isContinuation (indent.text ++ piece.text ++ ['\n']) = true := by
  have hstrip := strip_written (fun c hc => isBlank_of_isGap (indent.gap c hc)) piece
  rw [isContinuation, hstrip]
  cases htext : indent.text with
  | nil => exact absurd htext indent.ne_nil
  | cons c rest =>
      have hpiece : piece.text.isEmpty = false := by
        rw [List.isEmpty_eq_false_iff]
        exact piece.ne_nil
      rw [hpiece]
      rcases indent.gap c (htext ▸ List.mem_cons_self) with rfl | rfl <;> rfl

/-- The lines that continue a field end where one does not. -/
theorem continuations_append {further rest : List (List Char)}
    (hfurther : ∀ line ∈ further, isContinuation line = true)
    (hrest : ∀ line ∈ rest.head?, isContinuation line = false) :
    (further ++ rest).takeWhile isContinuation = further ∧
      (further ++ rest).dropWhile isContinuation = rest := by
  rw [List.takeWhile_append_of_pos hfurther, List.dropWhile_append_of_pos hfurther]
  cases rest with
  | nil => exact ⟨List.append_nil _, rfl⟩
  | cons line rest =>
      have hline : ¬ isContinuation line = true := by simp [hrest line rfl]
      rw [List.takeWhile_cons_of_neg hline, List.dropWhile_cons_of_neg hline]
      exact ⟨List.append_nil _, rfl⟩

/-- A field takes the lines that were written for it, if no line after them continues it. -/
theorem fields_written (count : Nat) (field : WrittenField) {rest : List (List Char)}
    (hrest : ∀ line ∈ rest.head?, isContinuation line = false) :
    fields (count + 1) (field.lines.map (· ++ ['\n']) ++ rest) =
      ([' '].intercalate field.pieces :: (fields count rest).1, (fields count rest).2) := by
  have hfurther : ∀ line ∈ field.furtherLines.map (· ++ ['\n']), isContinuation line = true := by
    intro line hline
    obtain ⟨written, hwritten, rfl⟩ := List.mem_map.mp hline
    obtain ⟨⟨indent, piece⟩, _, rfl⟩ := List.mem_map.mp hwritten
    exact isContinuation_further indent piece
  have hpieces : (field.furtherLines.map (· ++ ['\n'])).map strip =
      field.further.map fun line => line.2.text := by
    rw [WrittenField.furtherLines, List.map_map, List.map_map]
    refine List.map_congr_left fun line _ => ?_
    exact strip_written (fun c hc => isBlank_of_isGap (line.1.gap c hc)) line.2
  have hfirst : strip (' ' :: field.first.text ++ ['\n']) = field.first.text :=
    strip_written (List.forall_mem_singleton.mpr rfl) field.first
  obtain ⟨htake, hdrop⟩ := continuations_append hfurther hrest
  show fields (count + 1) (('%' :: (' ' :: field.first.text ++ ['\n'])) ::
    (field.furtherLines.map (· ++ ['\n']) ++ rest)) = _
  rw [fields, htake, hdrop, TitleBlock.field, hfirst, hpieces]
  rfl

/-! ### Names -/

theorem semicolon_notMem_of_blank {t : List Char} (h : ∀ c ∈ t, isBlank c = true) : ';' ∉ t :=
  fun hc => absurd (h _ hc) (by decide)

theorem authors_append_of_blank {t : List Char} (h : ∀ c ∈ t, isBlank c = true) (s : List Char) :
    authors (s ++ t) = authors s := by
  obtain ⟨parts, last, hs, ht⟩ := exists_splitOn_append ';' s
  have hsplit := ht t t [] (List.splitOn_eq_singleton (semicolon_notMem_of_blank h))
  rw [authors, authors, hs, hsplit, List.map_append, List.map_append, List.map_singleton,
    List.map_singleton, strip_append h]

theorem authors_append_blank {t : List Char} (h : ∀ c ∈ t, isBlank c = true) (s : List Char) :
    authors (t ++ s) = authors s := by
  induction t with
  | nil => rfl
  | cons c t ih =>
      obtain ⟨hc, ht⟩ := List.forall_mem_cons.mp h
      have hne : ¬ (c == ';') = true := by
        rw [beq_iff_eq]
        rintro rfl
        exact absurd hc (by decide)
      obtain ⟨part, parts, hparts⟩ := List.exists_cons_of_ne_nil (List.splitOn_ne_nil ';' (t ++ s))
      have hstrip : strip (c :: part) = strip part :=
        strip_append_of_blank (List.forall_mem_singleton.mpr hc) part
      rw [← ih ht, List.cons_append, authors, authors, List.splitOn_cons_eq_if_modifyHead,
        if_neg hne, hparts, List.modifyHead_cons, List.map_cons, List.map_cons, hstrip]

theorem authors_strip (s : List Char) : authors (strip s) = authors s := by
  obtain ⟨before, after, hs, hbefore, hafter⟩ := exists_append_trimBy isBlank s
  calc authors (strip s) = authors (before ++ strip s) := (authors_append_blank hbefore _).symm
    _ = authors (before ++ strip s ++ after) := (authors_append_of_blank hafter _).symm
    _ = authors s := by rw [strip, ← hs]

theorem strip_name (name : WrittenName) : strip name.text = name.name.text := by
  rw [WrittenName.text, strip_append name.after.blank, strip_append_of_blank name.before.blank,
    strip_piece]

theorem semicolon_notMem_name (name : WrittenName) : ';' ∉ name.text := by
  rw [WrittenName.text, List.mem_append, List.mem_append, not_or, not_or]
  exact ⟨⟨semicolon_notMem_of_blank name.before.blank, name.notMem⟩,
    semicolon_notMem_of_blank name.after.blank⟩

/-- The authors of a row are its names. -/
theorem authors_row (names : List WrittenName) :
    authors (row names) = names.map fun name => name.name.text := by
  cases names with
  | nil => rfl
  | cons first rest =>
      have hnotMem : ∀ part ∈ (first :: rest).map WrittenName.text, ';' ∉ part := by
        intro part hpart
        obtain ⟨name, _, rfl⟩ := List.mem_map.mp hpart
        exact semicolon_notMem_name name
      have hstrip : ((first :: rest).map WrittenName.text).map strip =
          (first :: rest).map fun name => name.name.text := by
        rw [List.map_map]
        exact List.map_congr_left fun name _ => strip_name name
      rw [authors, row, List.splitOn_intercalate ';' hnotMem (List.cons_ne_nil _ _), hstrip]
      refine List.filter_eq_self.mpr fun part hpart => ?_
      obtain ⟨name, _, rfl⟩ := List.mem_map.mp hpart
      rw [List.isEmpty_eq_false_iff.mpr name.name.ne_nil]
      rfl

theorem fields_row (count : Nat) (names : List WrittenName) {rest : List (List Char)}
    (hrest : ∀ line ∈ rest.head?, isContinuation line = false) :
    fields (count + 1) (('%' :: ' ' :: row names ++ ['\n']) :: rest) =
      (strip (row names) :: (fields count rest).1, (fields count rest).2) := by
  have hstrip : strip (' ' :: row names ++ ['\n']) = strip (row names) := by
    rw [strip_append (List.forall_mem_singleton.mpr rfl)]
    exact strip_append_of_blank (List.forall_mem_singleton.mpr rfl) _
  obtain ⟨htake, hdrop⟩ := continuations_append (List.forall_mem_nil _) hrest
  rw [List.nil_append] at htake hdrop
  show fields (count + 1) (('%' :: (' ' :: row names ++ ['\n'])) :: rest) = _
  rw [fields, htake, hdrop, TitleBlock.field, hstrip, List.map_nil, List.intercalate_singleton]

/-! ### Splitting -/

theorem isContinuation_of_canFollow {body : List Char} (h : CanFollow body) :
    ∀ line ∈ (splitLines body).head?, isContinuation line = false := by
  intro line hline
  rw [isContinuation]
  obtain hblank | ⟨hspace, htab⟩ := h line hline
  · rw [strip_eq_nil hblank, List.isEmpty_nil, Bool.not_true, Bool.and_false]
  · rw [beq_eq_false_iff_ne.mpr hspace, beq_eq_false_iff_ne.mpr htab]
    rfl

/-- Splitting a title block with a body behind it gives back the pieces of the title and of the date
with single spaces between them, the names, and the body. -/
theorem split_written (block : WrittenBlock) {body : List Char} (hbody : CanFollow body) :
    split (block.text ++ body) =
      ({ title := [' '].intercalate block.title.pieces
         authors := block.names.map fun name => name.name.text
         date := [' '].intercalate block.date.pieces }, body) := by
  let dateLines := block.date.lines.map (· ++ ['\n']) ++ splitLines body
  let namesLine := '%' :: ' ' :: row block.names ++ ['\n']
  have hlines : splitLines (block.text ++ body) =
      block.title.lines.map (· ++ ['\n']) ++ namesLine :: dateLines := by
    rw [WrittenBlock.text, splitLines_written block.unbroken, WrittenBlock.lines, List.map_append,
      List.map_cons, List.append_assoc]
    rfl
  have hnamesLine : ∀ line ∈ (namesLine :: dateLines).head?, isContinuation line = false := by
    rintro line ⟨⟩
    rfl
  have hdateLine : ∀ line ∈ dateLines.head?, isContinuation line = false := by
    rintro line ⟨⟩
    rfl
  have hfields : fields 3 (splitLines (block.text ++ body)) =
      ([[' '].intercalate block.title.pieces, strip (row block.names),
        [' '].intercalate block.date.pieces], splitLines body) := by
    rw [hlines, fields_written 2 block.title hnamesLine, fields_row 1 block.names hdateLine,
      fields_written 0 block.date (isContinuation_of_canFollow hbody)]
    rfl
  rw [split, hfields]
  show (metadata [_, strip (row block.names), _], (splitLines body).flatten) = _
  rw [metadata, authors_strip, authors_row, flatten_splitLines]

/-- A title on two lines, two names with blanks between them, and a body that goes on with a percent
sign. -/
theorem split_written_of_percent_in_body :
    let body := "% more\n  text\n".toList
    CanFollow body ∧
      split ("% A long\n \ttitle\n% Ada ;  Grace Hopper\n% today\n".toList ++ body) =
        ({ title := "A long title".toList
           authors := ["Ada".toList, "Grace Hopper".toList]
           date := "today".toList }, body) := by
  intro body
  let nothing : Padding := { text := [] }
  let ada : WrittenName :=
    { before := nothing, name := { text := "Ada".toList }, after := { text := [' '] } }
  let grace : WrittenName :=
    { before := { text := "  ".toList }, name := { text := "Grace Hopper".toList }, after := nothing }
  let block : WrittenBlock :=
    { title := ⟨{ text := "A long".toList }, [({ text := " \t".toList }, { text := "title".toList })]⟩
      names := [ada, grace]
      date := ⟨{ text := "today".toList }, []⟩ }
  have hbody : CanFollow body := by
    rintro line ⟨⟩
    exact .inr (by decide)
  exact ⟨hbody, split_written block hbody⟩

end TitleBlock

end LiveDeck
