import LiveDeck.Document.Read
import LiveDeck.Proofs.Text.Trim

/-! # Line endings

A source may end its lines with a line feed, with a carriage return, or with both.  `withEnding`
writes a text with another ending in place of its line feeds.  A title block is taken off before
line endings are made equal, so it is compared line by line: the lines of the rewritten text are the
rewritten lines (`splitLines_withEnding`), a line feed is only ever the end of its line
(`lineFeed_notMem_dropLast`), and whatever a field keeps of a line has lost its end
(`strip_withEnding`).  Main statement (`read_withEnding`): the document, or the error, is the
same. -/

namespace LiveDeck

namespace Text

/-- The line endings that are not a line feed alone. -/
inductive LineEnding where
  | carriageReturn
  | both
  deriving DecidableEq, Repr

/-- The characters of a line ending. -/
def LineEnding.chars : LineEnding → List Char
  | .carriageReturn => ['\r']
  | .both => ['\r', '\n']

/-- A text with another line ending for each of its line feeds. -/
def withEnding (ending : LineEnding) (s : List Char) : List Char :=
  s.flatMap fun c => if c = '\n' then ending.chars else [c]

variable (ending : LineEnding)

@[simp] theorem withEnding_nil : withEnding ending [] = [] := rfl

theorem withEnding_lineFeed (s : List Char) :
    withEnding ending ('\n' :: s) = ending.chars ++ withEnding ending s := rfl

theorem withEnding_cons {c : Char} (h : c ≠ '\n') (s : List Char) :
    withEnding ending (c :: s) = c :: withEnding ending s := by
  rw [withEnding, List.flatMap_cons, if_neg h]
  rfl

theorem withEnding_append (s t : List Char) :
    withEnding ending (s ++ t) = withEnding ending s ++ withEnding ending t :=
  List.flatMap_append

theorem withEnding_flatten (lines : List (List Char)) :
    withEnding ending lines.flatten = (lines.map (withEnding ending)).flatten := by
  induction lines with
  | nil => rfl
  | cons line lines ih =>
      rw [List.flatten_cons, withEnding_append, ih, List.map_cons, List.flatten_cons]

theorem withEnding_of_notMem {s : List Char} (h : '\n' ∉ s) : withEnding ending s = s := by
  induction s with
  | nil => rfl
  | cons c s ih =>
      rw [List.mem_cons, not_or] at h
      rw [withEnding_cons ending (Ne.symm h.1), ih h.2]

theorem head?_withEnding_ne (s : List Char) :
    (withEnding .carriageReturn s).head? ≠ some '\n' := by
  cases s with
  | nil => simp
  | cons c s =>
      by_cases h : c = '\n'
      · subst h
        rw [withEnding_lineFeed]
        simp [LineEnding.chars]
      · rw [withEnding_cons _ h, List.head?_cons]
        exact fun hc => h (Option.some.inj hc)

/-! ### Lines of a text -/

theorem universal_cons {c : Char} (h : c ≠ '\r') (s : List Char) :
    universal (c :: s) = c :: universal s := by
  rw [universal, if_neg h]
  intro rest hc
  exact absurd hc h

theorem universal_eq_self {s : List Char} (h : '\r' ∉ s) : universal s = s := by
  induction s with
  | nil => rfl
  | cons c s ih =>
      rw [List.mem_cons, not_or] at h
      rw [universal_cons (Ne.symm h.1), ih h.2]

theorem universal_chars_append (s : List Char) :
    universal (ending.chars ++ withEnding ending s) = '\n' :: universal (withEnding ending s) := by
  cases ending with
  | both => rfl
  | carriageReturn =>
      have hnext := head?_withEnding_ne s
      generalize withEnding .carriageReturn s = rest at hnext
      show universal ('\r' :: rest) = _
      rw [universal, if_pos rfl]
      rintro after - rfl
      exact hnext rfl

/-- Line endings of every kind are read alike. -/
theorem universal_withEnding {s : List Char} (h : '\r' ∉ s) :
    universal (withEnding ending s) = universal s := by
  induction s with
  | nil => rfl
  | cons c s ih =>
      rw [List.mem_cons, not_or] at h
      by_cases hc : c = '\n'
      · subst hc
        rw [withEnding_lineFeed, universal_chars_append, ih h.2, universal_cons (by decide)]
      · rw [withEnding_cons ending hc, universal_cons (Ne.symm h.1), ih h.2,
          universal_cons (Ne.symm h.1)]

theorem splitLines_cons {c : Char} (h : c ≠ '\r') (s : List Char) :
    splitLines (c :: s) =
      if isLineBoundary c then [c] :: splitLines s else consLine c (splitLines s) := by
  rw [splitLines]
  intro rest hc
  exact absurd hc h

theorem splitLines_chars_append (s : List Char) :
    splitLines (ending.chars ++ withEnding ending s) =
      ending.chars :: splitLines (withEnding ending s) := by
  cases ending with
  | both => rfl
  | carriageReturn =>
      have hnext := head?_withEnding_ne s
      generalize withEnding .carriageReturn s = rest at hnext
      show splitLines ('\r' :: rest) = _
      rw [splitLines, if_pos (by decide)]
      · rfl
      · rintro after - rfl
        exact hnext rfl

theorem map_consLine {c : Char} (h : c ≠ '\n') (lines : List (List Char)) :
    (consLine c lines).map (withEnding ending) = consLine c (lines.map (withEnding ending)) := by
  cases lines with
  | nil => simp [consLine, withEnding_cons ending h]
  | cons line lines => simp [consLine, withEnding_cons ending h]

theorem splitLines_withEnding {s : List Char} (h : '\r' ∉ s) :
    splitLines (withEnding ending s) = (splitLines s).map (withEnding ending) := by
  induction s with
  | nil => rfl
  | cons c s ih =>
      rw [List.mem_cons, not_or] at h
      by_cases hc : c = '\n'
      · subst hc
        rw [withEnding_lineFeed, splitLines_chars_append, ih h.2, splitLines_cons (by decide),
          if_pos (by decide), List.map_cons, withEnding_lineFeed, withEnding_nil, List.append_nil]
      · rw [withEnding_cons ending hc, splitLines_cons (Ne.symm h.1), splitLines_cons (Ne.symm h.1),
          ih h.2]
        split
        · rw [List.map_cons, withEnding_cons ending hc, withEnding_nil]
        · rw [map_consLine ending hc]

theorem lineFeed_notMem_dropLast {s line : List Char} (h : line ∈ splitLines s) :
    '\n' ∉ line.dropLast := by
  fun_induction splitLines s generalizing line with
  | case1 => cases h
  | case2 s ih =>
      rcases List.mem_cons.mp h with rfl | h
      · decide
      · exact ih h
  | case3 c s _ hc ih =>
      rcases List.mem_cons.mp h with rfl | h
      · exact List.not_mem_nil
      · exact ih h
  | case4 c s _ hc ih =>
      have hne : '\n' ≠ c := by
        rintro rfl
        exact hc (by decide)
      cases hlines : splitLines s with
      | nil =>
          rw [hlines] at h
          rw [List.mem_singleton.mp h]
          exact List.not_mem_nil
      | cons first lines =>
          rw [hlines] at h ih
          rcases List.mem_cons.mp h with rfl | h
          · have hfirst := ih List.mem_cons_self
            cases first with
            | nil => exact List.not_mem_nil
            | cons d first =>
                rw [List.dropLast_cons_cons, List.mem_cons, not_or]
                exact ⟨hne, hfirst⟩
          · exact ih (List.mem_cons_of_mem _ h)

/-! ### What stripping leaves -/

theorem strip_append {t : List Char} (h : ∀ c ∈ t, isBlank c = true) (s : List Char) :
    strip (s ++ t) = strip s :=
  trimBy_append h s

theorem isBlank_of_mem_chars {c : Char} (h : c ∈ ending.chars) : isBlank c = true := by
  have hall : ending.chars.all isBlank = true := by cases ending <;> decide
  exact List.all_eq_true.mp hall c h

theorem strip_withEnding {line : List Char} (h : '\n' ∉ line.dropLast) :
    strip (withEnding ending line) = strip line := by
  rcases List.eq_nil_or_concat line with rfl | ⟨body, last, rfl⟩
  · rfl
  · rw [List.concat_eq_append] at h ⊢
    rw [List.dropLast_concat] at h
    rw [withEnding_append, withEnding_of_notMem ending h]
    by_cases hlast : last = '\n'
    · subst hlast
      have hchars : withEnding ending ['\n'] = ending.chars := List.append_nil _
      rw [hchars, strip_append (fun c hc => isBlank_of_mem_chars ending hc),
        strip_append (List.forall_mem_singleton.mpr rfl)]
    · rw [withEnding_cons ending hlast, withEnding_nil]

end Text

/-! ### Title blocks -/

namespace TitleBlock

open Text

variable (ending : LineEnding)

theorem isContinuation_withEnding {line : List Char} (h : '\n' ∉ line.dropLast) :
    isContinuation (withEnding ending line) = isContinuation line := by
  rw [isContinuation, isContinuation, strip_withEnding ending h]
  cases line with
  | nil => rfl
  | cons c line =>
      by_cases hc : c = '\n'
      · subst hc
        cases ending <;> rfl
      · rw [withEnding_cons ending hc, List.head?_cons, List.head?_cons]

/-- The lines that continue a field are the same ones, and so are those after them. -/
theorem continuations_withEnding {lines : List (List Char)}
    (h : ∀ line ∈ lines, '\n' ∉ line.dropLast) :
    (lines.map (withEnding ending)).takeWhile isContinuation =
        (lines.takeWhile isContinuation).map (withEnding ending) ∧
      (lines.map (withEnding ending)).dropWhile isContinuation =
        (lines.dropWhile isContinuation).map (withEnding ending) := by
  induction lines with
  | nil => exact ⟨rfl, rfl⟩
  | cons line lines ih =>
      obtain ⟨hline, hlines⟩ := List.forall_mem_cons.mp h
      have hsame := isContinuation_withEnding ending hline
      by_cases hcontinues : isContinuation line = true
      · rw [List.map_cons, List.takeWhile_cons_of_pos (hsame.trans hcontinues),
          List.dropWhile_cons_of_pos (hsame.trans hcontinues), (ih hlines).1, (ih hlines).2,
          List.takeWhile_cons_of_pos hcontinues, List.dropWhile_cons_of_pos hcontinues]
        exact ⟨rfl, rfl⟩
      · have hother : ¬ isContinuation (withEnding ending line) = true := by
          rw [hsame]
          exact hcontinues
        rw [List.map_cons, List.takeWhile_cons_of_neg hother, List.dropWhile_cons_of_neg hother,
          List.takeWhile_cons_of_neg hcontinues, List.dropWhile_cons_of_neg hcontinues]
        exact ⟨rfl, rfl⟩

theorem field_withEnding {first : List Char} {others : List (List Char)}
    (hfirst : '\n' ∉ first.dropLast) (hothers : ∀ line ∈ others, '\n' ∉ line.dropLast) :
    field (withEnding ending first) (others.map (withEnding ending)) = field first others := by
  have hstripped : (others.map (withEnding ending)).map strip = others.map strip := by
    rw [List.map_map]
    exact List.map_congr_left fun line hline => strip_withEnding ending (hothers line hline)
  rw [field, field, strip_withEnding ending hfirst, hstripped]

theorem lineFeed_notMem_tail {c : Char} {line : List Char} (h : '\n' ∉ (c :: line).dropLast) :
    '\n' ∉ line.dropLast := by
  cases line with
  | nil => exact List.not_mem_nil
  | cons d line =>
      rw [List.dropLast_cons_cons, List.mem_cons, not_or] at h
      exact h.2

theorem exists_of_withEnding_eq_percent {line first : List Char}
    (h : withEnding ending line = '%' :: first) : ∃ rest, line = '%' :: rest := by
  cases line with
  | nil => cases h
  | cons c line =>
      by_cases hc : c = '\n'
      · subst hc
        rw [withEnding_lineFeed] at h
        cases ending <;> cases h
      · rw [withEnding_cons ending hc] at h
        exact ⟨line, by rw [(List.cons.inj h).1]⟩

/-- The fields of rewritten lines are the same, and the lines after them are the rewritten ones. -/
theorem fields_withEnding (count : Nat) {lines : List (List Char)}
    (h : ∀ line ∈ lines, '\n' ∉ line.dropLast) :
    fields count (lines.map (withEnding ending)) =
      ((fields count lines).1, (fields count lines).2.map (withEnding ending)) := by
  fun_induction fields count lines with
  | case1 count first rest found body hfields ih =>
      obtain ⟨hfirst, hrest⟩ := List.forall_mem_cons.mp h
      have hothers : ∀ line ∈ rest.takeWhile isContinuation, '\n' ∉ line.dropLast :=
        fun line hline => hrest line ((List.takeWhile_prefix _).subset hline)
      have hafter : ∀ line ∈ rest.dropWhile isContinuation, '\n' ∉ line.dropLast :=
        fun line hline => hrest line ((List.dropWhile_suffix _).subset hline)
      obtain ⟨htake, hdrop⟩ := continuations_withEnding ending hrest
      rw [List.map_cons, withEnding_cons ending (by decide), fields, htake, hdrop, ih hafter,
        hfields, field_withEnding ending (lineFeed_notMem_tail hfirst) hothers]
  | case2 count lines hother =>
      unfold fields
      split
      · rename_i first rest hlines
        obtain ⟨line, others, rfl, hline, -⟩ := List.map_eq_cons_iff.mp hlines
        obtain ⟨first, rfl⟩ := exists_of_withEnding_eq_percent ending hline
        exact (hother _ first others rfl rfl).elim
      · rfl

/-- Line endings change no metadata, and the body has the same line endings as the source. -/
theorem split_withEnding {source : List Char} (h : '\r' ∉ source) :
    split (withEnding ending source) = ((split source).1, withEnding ending (split source).2) := by
  have hlines : ∀ line ∈ splitLines source, '\n' ∉ line.dropLast :=
    fun line hline => lineFeed_notMem_dropLast hline
  rw [split, split, splitLines_withEnding ending h, fields_withEnding ending 3 hlines,
    withEnding_flatten]

theorem fields_suffix (count : Nat) (lines : List (List Char)) :
    (fields count lines).2 <:+ lines := by
  fun_induction fields count lines with
  | case1 count first rest found body hfields ih =>
      rw [hfields] at ih
      exact (ih.trans (List.dropWhile_suffix _)).trans (List.suffix_cons _ _)
  | case2 count lines hother => exact List.suffix_rfl

theorem mem_of_mem_body {source : List Char} {c : Char} (h : c ∈ (split source).2) :
    c ∈ source := by
  obtain ⟨line, hline, hc⟩ := List.mem_flatten.mp h
  rw [← flatten_splitLines source]
  exact List.mem_flatten.mpr ⟨line, (fields_suffix 3 _).subset hline, hc⟩

end TitleBlock

/-! ### Documents -/

open Text

theorem Markdown.parse?_withEnding (ending : LineEnding) {text : List Char} (h : '\r' ∉ text) :
    parse? (withEnding ending text) = parse? text := by
  have hsame : normalizeSource (withEnding ending text) = normalizeSource text := by
    rw [normalizeSource, normalizeSource, universal_withEnding ending h]
  rw [parse?, parse?, hsame]

namespace Document

/-- A source with other line endings is the same document, or fails with the same error. -/
theorem read_withEnding (ending : LineEnding) {source : List Char} (h : '\r' ∉ source) :
    read (withEnding ending source) = read source := by
  have hbody : '\r' ∉ (TitleBlock.split source).2 := fun hc => h (TitleBlock.mem_of_mem_body hc)
  rw [read, read, TitleBlock.split_withEnding ending h]
  simp only [Markdown.parse?_withEnding ending hbody]

/-- Whether reading gave a title of two words over a rule. -/
def isTitleOverRule (first last : String) : Except ReadError Document → Bool
  | .ok ⟨[.str head, .space, .str tail], _, _, [.horizontalRule]⟩ => head == first && tail == last
  | _ => false

theorem exists_of_isTitleOverRule {first last : String} {result : Except ReadError Document}
    (h : isTitleOverRule first last result = true) :
    ∃ doc : Document, doc.title = [.str first, .space, .str last] ∧
      doc.blocks = [.horizontalRule] ∧ result = .ok doc := by
  unfold isTitleOverRule at h
  split at h
  · obtain ⟨hfirst, hlast⟩ := Bool.and_eq_true_iff.mp h
    rw [eq_of_beq hfirst, eq_of_beq hlast]
    exact ⟨_, rfl, rfl, rfl⟩
  · cases h

/-- A title on two lines, the second of which ends where the body begins. -/
theorem read_withEnding_of_continued_title :
    '\r' ∉ "% Talk\n  on\n***\n".toList ∧
    ∃ doc : Document,
      doc.title = [.str "Talk", .space, .str "on"] ∧ doc.blocks = [.horizontalRule] ∧
      read "% Talk\n  on\n***\n".toList = .ok doc ∧
      read "% Talk\r\n  on\r\n***\r\n".toList = .ok doc ∧
      read "% Talk\r  on\r***\r".toList = .ok doc := by
  have hsource : '\r' ∉ "% Talk\n  on\n***\n".toList := by decide
  have hboth := read_withEnding .both hsource
  have hreturn := read_withEnding .carriageReturn hsource
  have hdoc : isTitleOverRule "Talk" "on" (read "% Talk\n  on\n***\n".toList) = true := by
    decide +kernel
  obtain ⟨doc, htitle, hblocks, hread⟩ := exists_of_isTitleOverRule hdoc
  exact ⟨hsource, doc, htitle, hblocks, hread, hboth.trans hread, hreturn.trans hread⟩

end Document

end LiveDeck
