import LiveDeck.Document.OfMarkdown
import LiveDeck.Proofs.Text.Runs

/-! # Texts as words and spaces

A text becomes words with a space for every run of blanks.  `Node.withGaps` is the way back: it
writes gaps in place of the spaces, one after the other.  `Node.IsWordSplit` says what makes nodes
and gaps the words and the blanks of a text: a word is not empty and holds no blank, a gap is not
empty and holds nothing else, words and spaces alternate, and together they give the text.

There is one such split of every text (`isWordSplit_iff_and_ofText_eq_append_iff`), so nothing of a
text is lost, and its blanks are not merged or divided in another way.  What makes it unique is that
the first node tells the class of the first character (`IsWordSplit.isBlank_of_head`): what follows
a word or a gap starts with a character of the other class. -/

namespace LiveDeck

open Text (runs isBlank isBlankRun IsWord)

/-! ### Runs of blanks and of other characters -/

namespace Text

/-- The runs of blanks of a text. -/
def blankRuns (text : List Char) : List (List Char) := (runs text).filter isBlankRun

/-- Characters in a text that are of one class and do not go on, neither in front nor behind. -/
structure IsMaximalRun (before run after : List Char) : Prop where
  ne_nil : run ≠ []
  uniform : ∀ c ∈ run, ∀ d ∈ run, isBlank c = isBlank d
  starts : ∀ c ∈ before.getLast?, ∀ d ∈ run.head?, isBlank c ≠ isBlank d
  ends : ∀ c ∈ run.getLast?, ∀ d ∈ after.head?, isBlank c ≠ isBlank d

theorem isBlankRun_iff {run : List Char} :
    isBlankRun run = true ↔ run ≠ [] ∧ ∀ c ∈ run, isBlank c = true := by
  simp [isBlankRun]

theorem isBlankRun_of_isWord {word : List Char} (h : IsWord word) : isBlankRun word = false := by
  obtain ⟨hne, hword⟩ := h
  obtain ⟨c, rest, rfl⟩ := List.exists_cons_of_ne_nil hne
  simp [isBlankRun, hword c List.mem_cons_self]

theorem isBlankRun_eq_of_mem {run : List Char} {c : Char}
    (huniform : ∀ c ∈ run, ∀ d ∈ run, isBlank c = isBlank d) (hc : c ∈ run) :
    isBlankRun run = isBlank c := by
  rw [Bool.eq_iff_iff, isBlankRun_iff]
  constructor
  · rintro ⟨_, hall⟩
    exact hall c hc
  · intro hblank
    refine ⟨List.ne_nil_of_mem hc, fun d hd => ?_⟩
    rw [huniform d hd c hc, hblank]

theorem uniform_of_mem_runs {text run : List Char} (h : run ∈ runs text) :
    ∀ c ∈ run, ∀ d ∈ run, isBlank c = isBlank d := by
  obtain ⟨first, rest, rfl, hclass⟩ := class_of_mem_runsBy h
  have hall : ∀ c ∈ first :: rest, isBlank c = isBlank first :=
    List.forall_mem_cons.mpr ⟨rfl, hclass⟩
  intro c hc d hd
  rw [hall c hc, hall d hd]

/-- A maximal run is one of the runs, behind those before it and in front of those after it. -/
theorem runs_of_isMaximalRun {before run after : List Char} (h : IsMaximalRun before run after) :
    runs (before ++ run ++ after) = runs before ++ run :: runs after := by
  obtain ⟨first, rest, rfl⟩ := List.exists_cons_of_ne_nil h.ne_nil
  have hone : runs (first :: rest) = [first :: rest] :=
    runsBy_of_forall_mem h.ne_nil fun c hc => h.uniform c hc first List.mem_cons_self
  have hbehind : runs (first :: rest ++ after) = (first :: rest) :: runs after := by
    unfold runs at hone ⊢
    rw [runsBy_append h.ends, hone]
    rfl
  unfold runs at hbehind ⊢
  rw [List.append_assoc, runsBy_append, hbehind]
  exact h.starts

end Text

namespace Node

/-! ### Splits -/

/-- Whether a node stands for blanks. -/
def isSpace : Node → Bool
  | .space => true
  | _ => false

/-- The text of words with gaps in place of the spaces; there is none if the gaps are not as many as
the spaces, or if a node is neither a word nor a space. -/
def withGaps : List Node → List (List Char) → Option (List Char)
  | [], [] => some []
  | .str word :: nodes, gaps => (withGaps nodes gaps).map (word.toList ++ ·)
  | .space :: nodes, gap :: gaps => (withGaps nodes gaps).map (gap ++ ·)
  | _, _ => none

/-- Nodes and gaps are the words and the blanks of a text. -/
structure IsWordSplit (text : List Char) (nodes : List Node) (gaps : List (List Char)) : Prop where
  isWord : ∀ word, .str word ∈ nodes → IsWord word.toList
  isBlankRun : ∀ gap ∈ gaps, isBlankRun gap = true
  alternates : nodes.IsChain fun node next => node.isSpace ≠ next.isSpace
  withGaps_eq : withGaps nodes gaps = some text

theorem isSpace_ofRun (run : List Char) : (ofRun run).isSpace = isBlankRun run := by
  unfold ofRun
  split
  · rename_i hblank
    exact hblank.symm
  · rename_i hblank
    simpa [isSpace] using hblank

/-! ### The nodes of a text are a split -/

theorem isWord_of_mem_ofText {text : List Char} {word : String} (h : .str word ∈ ofText text) :
    IsWord word.toList := by
  rw [ofText_eq] at h
  obtain ⟨run, hrun, hword⟩ := List.mem_map.mp h
  unfold ofRun at hword
  split at hword
  · cases hword
  · rename_i hblank
    cases hword
    rw [String.toList_ofList]
    exact Text.isBlank_of_mem_runs hrun hblank

theorem alternates_ofText (text : List Char) :
    (ofText text).IsChain fun node next => node.isSpace ≠ next.isSpace := by
  rw [ofText_eq, List.isChain_map]
  refine (Text.isChain_runsBy isBlank text).imp_of_mem_imp ?_
  rintro run next hrun hnext ⟨hne, hnext_ne, hclass⟩
  rw [isSpace_ofRun, isSpace_ofRun,
    Text.isBlankRun_eq_of_mem (Text.uniform_of_mem_runs hrun) (List.getLast_mem hne),
    Text.isBlankRun_eq_of_mem (Text.uniform_of_mem_runs hnext) (List.head_mem hnext_ne)]
  simpa using hclass

theorem withGaps_map_ofRun (runs : List (List Char)) :
    withGaps (runs.map ofRun) (runs.filter isBlankRun) = some runs.flatten := by
  induction runs with
  | nil => rfl
  | cons run runs ih =>
      rw [List.map_cons, List.flatten_cons]
      cases hblank : isBlankRun run with
      | true =>
          have hnode : ofRun run = .space := by simp [ofRun, hblank]
          rw [hnode, List.filter_cons_of_pos hblank, withGaps, ih]
          rfl
      | false =>
          have hnode : ofRun run = .str (String.ofList run) := by simp [ofRun, hblank]
          rw [hnode, List.filter_cons_of_neg (by simp [hblank]), withGaps, ih,
            String.toList_ofList]
          rfl

theorem isWordSplit_ofText (text : List Char) :
    IsWordSplit text (ofText text) (Text.blankRuns text) where
  isWord := fun _ => isWord_of_mem_ofText
  isBlankRun := fun _ hgap => (List.mem_filter.mp hgap).2
  alternates := alternates_ofText text
  withGaps_eq := by
    have hflatten : (runs text).flatten = text := Text.flatten_runsBy isBlank text
    rw [ofText_eq, Text.blankRuns, withGaps_map_ofRun, hflatten]

/-! ### There is no other split -/

variable {text : List Char} {node : Node} {nodes : List Node} {gaps : List (List Char)}

theorem IsWordSplit.of_str {word : String} (h : IsWordSplit text (.str word :: nodes) gaps) :
    ∃ rest, text = word.toList ++ rest ∧ IsWordSplit rest nodes gaps := by
  have htext := h.withGaps_eq
  rw [withGaps, Option.map_eq_some_iff] at htext
  obtain ⟨rest, hrest, rfl⟩ := htext
  exact ⟨rest, rfl, fun other hother => h.isWord other (List.mem_cons_of_mem _ hother),
    h.isBlankRun, h.alternates.tail, hrest⟩

theorem IsWordSplit.of_space (h : IsWordSplit text (.space :: nodes) gaps) :
    ∃ gap others rest, gaps = gap :: others ∧ text = gap ++ rest ∧
      IsWordSplit rest nodes others := by
  have htext := h.withGaps_eq
  cases gaps with
  | nil => cases htext
  | cons gap others =>
      rw [withGaps, Option.map_eq_some_iff] at htext
      obtain ⟨rest, hrest, rfl⟩ := htext
      exact ⟨gap, others, rest, rfl, rfl,
        fun word hword => h.isWord word (List.mem_cons_of_mem _ hword),
        fun other hother => h.isBlankRun other (List.mem_cons_of_mem _ hother),
        h.alternates.tail, hrest⟩

theorem IsWordSplit.cases_head (h : IsWordSplit text (node :: nodes) gaps) :
    node = .space ∨ ∃ word, node = .str word := by
  have htext := h.withGaps_eq
  cases node with
  | space => exact .inl rfl
  | str word => exact .inr ⟨word, rfl⟩
  | _ => cases gaps <;> cases htext

/-- The first node tells the class of the first character. -/
theorem IsWordSplit.isBlank_of_head (h : IsWordSplit text (node :: nodes) gaps) :
    ∀ c ∈ text.head?, isBlank c = node.isSpace := by
  rcases h.cases_head with rfl | ⟨word, rfl⟩
  · obtain ⟨gap, others, rest, rfl, rfl, _⟩ := h.of_space
    obtain ⟨hne, hgap⟩ := Text.isBlankRun_iff.mp (h.isBlankRun gap List.mem_cons_self)
    obtain ⟨first, tail, rfl⟩ := List.exists_cons_of_ne_nil hne
    rintro c ⟨⟩
    exact hgap first List.mem_cons_self
  · obtain ⟨rest, rfl, _⟩ := h.of_str
    obtain ⟨hne, hword⟩ := h.isWord word List.mem_cons_self
    obtain ⟨first, tail, hfirst⟩ := List.exists_cons_of_ne_nil hne
    rw [hfirst] at hword ⊢
    rintro c ⟨⟩
    exact hword first List.mem_cons_self

theorem IsWordSplit.isBlank_of_next {rest : List Char} {others : List (List Char)}
    (h : IsWordSplit text (node :: nodes) gaps) (hrest : IsWordSplit rest nodes others) :
    ∀ c ∈ rest.head?, isBlank c ≠ node.isSpace := by
  cases nodes with
  | nil =>
      have hnil : rest = [] := by
        have htext := hrest.withGaps_eq
        cases others with
        | nil => exact (Option.some.inj htext).symm
        | cons gap others => cases htext
      rw [hnil]
      nofun
  | cons next nodes =>
      have halternates := (List.isChain_cons_cons.mp h.alternates).1
      intro c hc
      rw [hrest.isBlank_of_head c hc]
      exact halternates.symm

theorem runs_append_of_uniform {run rest : List Char} {isIn : Bool} (hne : run ≠ [])
    (hrun : ∀ c ∈ run, isBlank c = isIn) (hrest : ∀ c ∈ rest.head?, isBlank c ≠ isIn) :
    runs (run ++ rest) = run :: runs rest := by
  have hmaximal : Text.IsMaximalRun [] run rest := by
    refine ⟨hne, ?_, by nofun, ?_⟩
    · intro c hc d hd
      rw [hrun c hc, hrun d hd]
    · intro c hc d hd
      rw [hrun c (List.mem_of_getLast? hc)]
      exact (hrest d hd).symm
  exact Text.runs_of_isMaximalRun hmaximal

/-- A split of a text is that into its runs. -/
theorem IsWordSplit.eq_ofText (h : IsWordSplit text nodes gaps) :
    nodes = ofText text ∧ gaps = Text.blankRuns text := by
  induction nodes generalizing text gaps with
  | nil =>
      have htext := h.withGaps_eq
      cases gaps with
      | nil =>
          cases htext
          exact ⟨rfl, rfl⟩
      | cons gap gaps => cases htext
  | cons node nodes ih =>
      rcases h.cases_head with rfl | ⟨word, rfl⟩
      · obtain ⟨gap, others, rest, rfl, rfl, hrest⟩ := h.of_space
        obtain ⟨hnodes, hothers⟩ := ih hrest
        have hblank := h.isBlankRun gap List.mem_cons_self
        obtain ⟨hne, hgap⟩ := Text.isBlankRun_iff.mp hblank
        have hruns := runs_append_of_uniform hne hgap (h.isBlank_of_next hrest)
        constructor
        · rw [ofText_eq, hruns, List.map_cons, ← ofText_eq, ← hnodes]
          simp [ofRun, hblank]
        · rw [Text.blankRuns, hruns, List.filter_cons_of_pos hblank, ← Text.blankRuns, ← hothers]
      · obtain ⟨rest, rfl, hrest⟩ := h.of_str
        obtain ⟨hnodes, hgaps⟩ := ih hrest
        have hword := h.isWord word List.mem_cons_self
        have hblank := Text.isBlankRun_of_isWord hword
        have hruns := runs_append_of_uniform hword.1 hword.2 (h.isBlank_of_next hrest)
        constructor
        · rw [ofText_eq, hruns, List.map_cons, ← ofText_eq, ← hnodes]
          simp [ofRun, hblank, String.ofList_toList]
        · rw [Text.blankRuns, hruns, List.filter_cons_of_neg (by simp [hblank]),
            ← Text.blankRuns, ← hgaps]

/-! ### The split of a text -/

/-- The nodes of a text are the nodes of its maximal runs, each with the nodes of what stands before
the run in front of it, and behind it those of what comes after. -/
theorem ofText_eq_append_iff {text : List Char} {left right : List Node} {node : Node} :
    ofText text = left ++ node :: right ↔
      ∃ before run after, text = before ++ run ++ after ∧ Text.IsMaximalRun before run after ∧
        left = ofText before ∧ node = ofRun run ∧ right = ofText after := by
  constructor
  · intro h
    rw [ofText_eq, List.map_eq_append_iff] at h
    obtain ⟨first, others, hruns, rfl, hothers⟩ := h
    obtain ⟨run, last, rfl, rfl, rfl⟩ := List.map_eq_cons_iff.mp hothers
    obtain ⟨hfirst, hrest⟩ := Text.runsBy_flatten_of_append hruns
    have hbehind : Text.runsBy isBlank (run :: last).flatten = [run] ++ last := hrest
    obtain ⟨_, hlast⟩ := Text.runsBy_flatten_of_append hbehind
    have hmem : run ∈ runs text := by
      rw [hruns]
      exact List.mem_append_right first List.mem_cons_self
    obtain ⟨c, tail, rfl, _⟩ := Text.class_of_mem_runsBy hmem
    refine ⟨first.flatten, c :: tail, last.flatten, ?_, ⟨List.cons_ne_nil c tail, ?_, ?_, ?_⟩, ?_,
      rfl, ?_⟩
    · have hflatten : (runs text).flatten = text := Text.flatten_runsBy isBlank text
      rw [← hflatten, hruns]
      simp
    · exact Text.uniform_of_mem_runs hmem
    · exact Text.class_ne_of_runsBy_append hruns
    · have hends := Text.class_ne_of_runsBy_append hbehind
      rwa [List.flatten_singleton] at hends
    · rw [ofText_eq, runs, hfirst]
    · rw [ofText_eq, runs, hlast]
  · rintro ⟨before, run, after, rfl, hmaximal, rfl, rfl, rfl⟩
    rw [ofText_eq, Text.runs_of_isMaximalRun hmaximal, List.map_append, List.map_cons, ofText_eq,
      ofText_eq]

/-- The nodes of a text are its words with a space for every run of blanks: with those runs they are
the one split of the text, so that putting the runs back in place of the spaces gives the text
again.  There is one node wherever a run of blanks or of other characters begins and ends in the
text, in the order of the text, and there is no other node. -/
theorem isWordSplit_iff_and_ofText_eq_append_iff (text : List Char) :
    (∀ nodes gaps, IsWordSplit text nodes gaps ↔
      nodes = ofText text ∧ gaps = Text.blankRuns text) ∧
    ∀ left node right, ofText text = left ++ node :: right ↔
      ∃ before run after, text = before ++ run ++ after ∧ Text.IsMaximalRun before run after ∧
        left = ofText before ∧ node = ofRun run ∧ right = ofText after := by
  constructor
  · intro nodes gaps
    constructor
    · exact IsWordSplit.eq_ofText
    · rintro ⟨rfl, rfl⟩
      exact isWordSplit_ofText text
  · intro left node right
    exact ofText_eq_append_iff

/-- Blanks at both ends and between two words. -/
example : ofText "\t a\u00a0\u2028b\n".toList =
    [.space, .str "a", .space, .str "b", .space] := by rfl

end Node

end LiveDeck
