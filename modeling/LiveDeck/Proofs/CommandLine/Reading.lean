import LiveDeck.CommandLine.Arguments

/-! # How words are read

A command line is cut into words (`wordsOf`), and the words make a draft, one after the other
(`readWords`).  Both go on from where they stopped: words before a separator are what they are
wherever they stand (`wordsOf_append`), and words that have been read to their end leave the rest to
the draft that they make (`Reads.readWords_append`).

`Reads` has one rule for each way in which reading goes on; that it does not fail and is no request
for help is exactly that these rules lead to the end (`readWords_eq_ok_some_iff`). -/

namespace LiveDeck.CommandLine

/-! ### What words are -/

theorem wordsOf_cons {word : String} (hne : word ≠ "--") {rest : List String} {found : List Word} :
    wordsOf (word :: rest) = .ok found ↔
      ∃ first others, wordOf word = .ok first ∧ wordsOf rest = .ok others ∧
        found = first :: others := by
  rw [wordsOf.eq_3 _ _ (by simpa using hne)]
  cases wordOf word with
  | error misuse => simp
  | ok first =>
      cases wordsOf rest with
      | error misuse => simp
      | ok others => simp [eq_comm]

theorem wordsOf_append {before after : List String} (hbefore : "--" ∉ before) {found : List Word} :
    wordsOf (before ++ after) = .ok found ↔
      ∃ first second, wordsOf before = .ok first ∧ wordsOf after = .ok second ∧
        found = first ++ second := by
  induction before generalizing found with
  | nil => simp [wordsOf]
  | cons word rest ih =>
      have hne : word ≠ "--" := (List.ne_of_not_mem_cons hbefore).symm
      have hrest := List.not_mem_of_not_mem_cons hbefore
      rw [List.cons_append, wordsOf_cons hne]
      constructor
      · rintro ⟨first, others, hword, hothers, rfl⟩
        obtain ⟨front, back, hfront, hback, rfl⟩ := (ih hrest).mp hothers
        exact ⟨first :: front, back, (wordsOf_cons hne).mpr ⟨_, _, hword, hfront, rfl⟩,
          hback, rfl⟩
      · rintro ⟨front, back, hfront, hback, rfl⟩
        obtain ⟨first, others, hword, hothers, rfl⟩ := (wordsOf_cons hne).mp hfront
        exact ⟨first, others ++ back, hword, (ih hrest).mpr ⟨_, _, hothers, hback, rfl⟩, rfl⟩

theorem plainWord_ne_separator (word : String) : plainWord word ≠ .separator := by
  unfold plainWord
  split
  · nofun
  · nofun

theorem wordOf_ne_separator (word : String) : wordOf word ≠ .ok .separator := by
  unfold wordOf
  split
  · dsimp only
    split
    · nofun
    · split
      · unfold longWord
        dsimp only
        split
        · exact fun h => plainWord_ne_separator word (Except.ok.inj h)
        · nofun
        · nofun
      · unfold shortWord
        split
        · nofun
        · exact fun h => plainWord_ne_separator word (Except.ok.inj h)
  · nofun

theorem head?_of_wordsOf_separator {after : List String} {found : List Word}
    (h : wordsOf after = .ok found) (hhead : found.head? = some .separator) :
    after.head? = some "--" := by
  cases after with
  | nil =>
      cases h
      cases hhead
  | cons word rest =>
      by_cases hne : word = "--"
      · rw [hne]
        rfl
      · obtain ⟨first, others, hword, _, rfl⟩ := (wordsOf_cons hne).mp h
        cases hhead
        exact absurd hword (wordOf_ne_separator word)

/-! ### From words to drafts -/

/-- The ways in which words are read to their end: the draft before them, the words, and the draft
that they make. -/
inductive Reads : Draft → List Word → Draft → Prop where
  | done {draft : Draft} : Reads draft [] draft
  | unknown {draft result : Draft} {word : String} {rest : List Word} :
      Reads (draft.addExtra word) rest result → Reads draft (.unknown word :: rest) result
  | extraSeparator {draft result : Draft} {rest : List Word} : draft.source?.isSome →
      Reads (draft.addExtra "--") rest result → Reads draft (.separator :: rest) result
  | separator {draft result : Draft} {rest : List Word} : ¬ draft.source?.isSome →
      Reads draft rest result → Reads draft (.separator :: rest) result
  | extra {draft result : Draft} {word : String} {rest : List Word} :
      draft.source?.isSome → Reads (draft.addExtra word) rest result →
      Reads draft (.value word :: rest) result
  | sourceAndSeparator {draft result : Draft} {word : String} {rest : List Word} :
      ¬ draft.source?.isSome → Reads { draft with source? := some word } rest result →
      Reads draft (.value word :: .separator :: rest) result
  | source {draft result : Draft} {word : String} {rest : List Word} :
      ¬ draft.source?.isSome → rest.head? ≠ some .separator →
      Reads { draft with source? := some word } rest result →
      Reads draft (.value word :: rest) result
  | option {draft next result : Draft} {flag : Flag} {value : String} {rest : List Word} :
      flag.takesValue = true → draft.setValue flag value = .ok next → Reads next rest result →
      Reads draft (.flag flag none :: .value value :: rest) result
  | once {draft result : Draft} {rest : List Word} :
      Reads { draft with once := true } rest result →
      Reads draft (.flag .once none :: rest) result
  | attached {draft next result : Draft} {flag : Flag} {value : String} {rest : List Word} :
      flag.takesValue = true → draft.setValue flag value = .ok next → Reads next rest result →
      Reads draft (.flag flag (some (.afterEquals value)) :: rest) result

theorem reads_of_readWords {draft result : Draft} {found : List Word}
    (h : readWords draft found = .ok (some result)) : Reads draft found result := by
  fun_induction readWords draft found with
  | case1 draft =>
      cases h
      exact .done
  | case2 draft word rest ih => exact .unknown (ih h)
  | case3 draft rest hsource ih => exact .extraSeparator hsource (ih h)
  | case4 draft rest hsource ih => exact .separator hsource (ih h)
  | case5 draft word rest hsource ih => exact .extra hsource (ih h)
  | case6 draft word hsource next rest ih => exact .sourceAndSeparator hsource (ih h)
  | case7 draft word hsource next rest hrest ih =>
      refine .source hsource ?_ (ih h)
      intro hhead
      obtain ⟨others, hothers⟩ := List.head?_eq_some_iff.mp hhead
      exact hrest others hothers
  | case9 draft flag hvalue value rest next hnext ih => exact .option hvalue hnext (ih h)
  | case12 draft flag rest hvalue hhelp ih =>
      cases flag with
      | once => exact .once (ih h)
      | help => exact absurd rfl hhelp
      | output | interval | style => exact absurd rfl hvalue
  | case14 draft flag value rest hvalue next hnext ih => exact .attached hvalue hnext (ih h)
  | case8 | case10 | case11 | case13 | case15 | case16 | case17 => cases h

theorem readWords_source {draft : Draft} (hsource : ¬ draft.source?.isSome) {rest : List Word}
    (hrest : rest.head? ≠ some .separator) (word : String) :
    readWords draft (.value word :: rest) =
      readWords { draft with source? := some word } rest := by
  conv => lhs; unfold readWords
  rw [if_neg hsource]
  cases rest with
  | nil => rfl
  | cons first others =>
      cases first with
      | separator => exact absurd rfl hrest
      | value | flag | unknown => rfl

theorem readWords_once (draft : Draft) (rest : List Word) :
    readWords draft (.flag .once none :: rest) = readWords { draft with once := true } rest := by
  conv => lhs; unfold readWords
  rfl

/-- Words that can be read to their end leave the rest to the draft that they make, unless the rest
begins with a separator, which may belong to their last word. -/
theorem Reads.readWords_append {draft middle : Draft} {before after : List Word}
    (h : Reads draft before middle) (hafter : after.head? ≠ some .separator) :
    readWords draft (before ++ after) = readWords middle after := by
  induction h with
  | done => rfl
  | unknown _ ih => exact ih
  | extraSeparator hsource _ ih =>
      rw [List.cons_append, readWords, if_pos hsource]
      exact ih
  | separator hsource _ ih =>
      rw [List.cons_append, readWords, if_neg hsource]
      exact ih
  | extra hsource _ ih =>
      rw [List.cons_append, readWords, if_pos hsource]
      exact ih
  | sourceAndSeparator hsource _ ih =>
      rw [List.cons_append, List.cons_append, readWords, if_neg hsource]
      exact ih
  | @source _ _ _ rest hsource hhead _ ih =>
      have hnext : (rest ++ after).head? ≠ some .separator := by
        cases rest with
        | nil => exact hafter
        | cons first others => exact hhead
      rw [List.cons_append, readWords_source hsource hnext]
      exact ih
  | option hvalue hnext _ ih =>
      rw [List.cons_append, List.cons_append, readWords, if_pos hvalue, hnext]
      exact ih
  | once _ ih =>
      rw [List.cons_append, readWords_once]
      exact ih
  | attached hvalue hnext _ ih =>
      rw [List.cons_append, readWords, if_pos hvalue, hnext]
      exact ih

/-- Reading makes a draft just where the rules lead to one. -/
theorem readWords_eq_ok_some_iff {draft result : Draft} {found : List Word} :
    readWords draft found = .ok (some result) ↔ Reads draft found result := by
  constructor
  · exact reads_of_readWords
  · intro h
    have hend : readWords draft (found ++ []) = readWords result [] := h.readWords_append nofun
    rw [List.append_nil] at hend
    exact hend

end LiveDeck.CommandLine
