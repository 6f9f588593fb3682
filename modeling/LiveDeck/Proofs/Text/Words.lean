import LiveDeck.Text.Blank

/-! # Words

The words of a text are what is not empty between its blanks (`wordsBy_eq_splitOnP`).  `SetApart`
says how words can be written: in order, with at least one blank between two of them and any blanks
around them.  However that is done, the words of the text are the words that were written
(`words_of_setApart`). -/

namespace LiveDeck.Text

/-! ### Runs and words -/

section runs

variable {p : Char → Bool} {c d : Char} {s : List Char}

theorem exists_runsBy_cons (p : Char → Bool) (c : Char) (s : List Char) :
    ∃ run rest, runsBy p (c :: s) = (c :: run) :: rest ∧ ∀ d ∈ run, p d = p c := by
  have hcons : ∃ run rest, runsBy p (c :: s) = (c :: run) :: rest := by
    unfold runsBy
    split
    · exact ⟨_, _, rfl⟩
    · exact ⟨_, _, rfl⟩
    · split
      · exact ⟨_, _, rfl⟩
      · exact ⟨_, _, rfl⟩
  obtain ⟨run, rest, hruns⟩ := hcons
  obtain ⟨first, others, hrun, hclass⟩ := class_of_mem_runsBy (hruns ▸ List.mem_cons_self)
  cases hrun
  exact ⟨run, rest, hruns, hclass⟩

theorem runsBy_cons_cons {run : List Char} {rest : List (List Char)}
    (h : runsBy p (d :: s) = (d :: run) :: rest) :
    runsBy p (c :: d :: s) =
      if p c = p d then (c :: d :: run) :: rest else [c] :: (d :: run) :: rest := by
  rw [runsBy, h]

theorem wordsBy_cons_of_pos (hc : p c = true) : wordsBy p (c :: s) = wordsBy p s := by
  cases s with
  | nil => simp [wordsBy, runsBy, hc]
  | cons d s =>
      obtain ⟨run, rest, hruns, hclass⟩ := exists_runsBy_cons p d s
      rw [wordsBy, wordsBy, runsBy_cons_cons hruns, hruns]
      cases hd : p d with
      | false => simp [hc]
      | true =>
          have hrun : run.all p = true :=
            List.all_eq_true.mpr fun e he => by rw [hclass e he, hd]
          simp [hc, hd, hrun]

/-- The words of a text are what is not empty between its blanks. -/
theorem wordsBy_eq_splitOnP (p : Char → Bool) : ∀ s : List Char,
    wordsBy p s = (s.splitOnP p).filter fun piece => !piece.isEmpty
  | [] => rfl
  | c :: s => by
      have ih := wordsBy_eq_splitOnP p s
      rw [List.splitOnP_cons_eq_if_modifyHead]
      by_cases hc : p c = true
      · rw [wordsBy_cons_of_pos hc, ih, if_pos hc, List.filter_cons_of_neg (by simp)]
      rw [if_neg hc]
      cases s with
      | nil => simp [wordsBy, runsBy, hc]
      | cons d s =>
          obtain ⟨run, rest, hruns, _⟩ := exists_runsBy_cons p d s
          obtain ⟨piece, pieces, hpieces⟩ :=
            List.exists_cons_of_ne_nil (List.splitOnP_ne_nil p s)
          rw [wordsBy, hruns, List.splitOnP_cons_eq_if_modifyHead, hpieces] at ih
          rw [wordsBy, runsBy_cons_cons hruns, List.splitOnP_cons_eq_if_modifyHead, hpieces]
          cases hd : p d <;> simp [hc, hd] at ih ⊢ <;> exact ih

theorem wordsBy_append_cons {word : List Char} (hne : word ≠ []) (hword : ∀ c ∈ word, p c = false)
    (hc : p c = true) : wordsBy p (word ++ c :: s) = word :: wordsBy p s := by
  rw [wordsBy_eq_splitOnP, wordsBy_eq_splitOnP,
    List.splitOnP_append_cons_of_forall_mem hword c hc, List.filter_cons_of_pos (by simpa using hne)]

theorem wordsBy_of_forall_mem {word : List Char} (hne : word ≠ [])
    (hword : ∀ c ∈ word, p c = false) : wordsBy p word = [word] := by
  rw [wordsBy_eq_splitOnP, List.splitOnP_eq_singleton hword,
    List.filter_cons_of_pos (by simpa using hne), List.filter_nil]

end runs

/-! ### Words that are set apart -/

/-- What can be written as a word: not empty, and without blanks. -/
def IsWord (word : List Char) : Prop := word ≠ [] ∧ ∀ c ∈ word, isBlank c = false

instance (word : List Char) : Decidable (IsWord word) :=
  decidable_of_iff ((!word.isEmpty && word.all fun c => !isBlank c) = true) (by simp [IsWord])

/-- The words stand in the text one after another, with at least one blank between two of them. -/
inductive SetApart : List (List Char) → List Char → Prop
  | none : SetApart [] []
  | last (word : List Char) : SetApart [word] word
  | blank {words : List (List Char)} {text : List Char} {c : Char} : isBlank c = true →
      SetApart words text → SetApart words (c :: text)
  | next {words : List (List Char)} {text : List Char} {c : Char} (word : List Char) :
      isBlank c = true → SetApart words text → SetApart (word :: words) (word ++ c :: text)

/-- Words that are set apart are the words of the text. -/
theorem words_of_setApart {written : List (List Char)} {text : List Char}
    (h : SetApart written text) (hwords : ∀ word ∈ written, IsWord word) :
    words text = written := by
  unfold words
  induction h with
  | none => rfl
  | last word =>
      obtain ⟨hne, hword⟩ := hwords word List.mem_cons_self
      exact wordsBy_of_forall_mem hne hword
  | blank hc _ ih => rw [wordsBy_cons_of_pos hc, ih hwords]
  | next word hc _ ih =>
      obtain ⟨⟨hne, hword⟩, hothers⟩ := List.forall_mem_cons.mp hwords
      rw [wordsBy_append_cons hne hword hc, ih hothers]

/-- Words with one space between them are set apart. -/
theorem setApart_intercalate (written : List (List Char)) :
    SetApart written ([' '].intercalate written) := by
  induction written with
  | nil => exact .none
  | cons word others ih =>
      cases others with
      | nil =>
          rw [List.intercalate_singleton]
          exact .last word
      | cons second others =>
          rw [List.intercalate_cons_cons, List.append_assoc]
          exact .next word (by decide) ih

end LiveDeck.Text
