/-! # Blank characters

The blank characters of Unicode: the separators of every kind, the line breaks and the four
information separators `U+001C` to `U+001F`.  Three ways of using them:

* `strip` removes the blanks at both ends;
* `words` are the maximal runs of other characters;
* `runs` cuts a text into maximal runs of one class, so that `(runs s).flatten = s`.

`trimBy`, `wordsBy` and `runsBy` do the same with another class.  `splitKeeping` is the split at
blanks that keeps them: its pieces are the runs, and an empty one wherever two runs of blanks or an
end of the text leave nothing between them (`filter_splitKeeping`). -/

namespace LiveDeck.Text

/-- The blank characters. -/
def isBlank (c : Char) : Bool :=
  let n := c.toNat
  (0x09 ≤ n && n ≤ 0x0D) || (0x1C ≤ n && n ≤ 0x20) || n == 0x85 || n == 0xA0 || n == 0x1680 ||
    (0x2000 ≤ n && n ≤ 0x200A) || n == 0x2028 || n == 0x2029 || n == 0x202F || n == 0x205F ||
    n == 0x3000

/-- The list without the longest run at its end that satisfies `p`. -/
def dropEndWhile (p : Char → Bool) (s : List Char) : List Char :=
  (s.reverse.dropWhile p).reverse

/-- The list without the longest runs at its ends that satisfy `p`. -/
def trimBy (p : Char → Bool) (s : List Char) : List Char := dropEndWhile p (s.dropWhile p)

/-- The text without the blanks at its end. -/
def stripEnd (s : List Char) : List Char := dropEndWhile isBlank s

/-- The text without the blanks at either end. -/
def strip (s : List Char) : List Char := trimBy isBlank s

/-- The maximal runs of equal class under `p`, in order. -/
def runsBy (p : Char → Bool) : List Char → List (List Char)
  | [] => []
  | c :: s =>
    match runsBy p s with
    | [] => [[c]]
    | [] :: rest => [c] :: rest
    | (d :: run) :: rest =>
      if p c = p d then (c :: d :: run) :: rest else [c] :: (d :: run) :: rest

/-- The maximal blank runs and the maximal runs between them, in order. -/
def runs (s : List Char) : List (List Char) := runsBy isBlank s

/-- A run of blanks; every other run of `runs` has no blank at all. -/
def isBlankRun (run : List Char) : Bool := !run.isEmpty && run.all isBlank

/-- Cutting into runs loses nothing. -/
theorem flatten_runsBy (p : Char → Bool) (s : List Char) : (runsBy p s).flatten = s := by
  induction s with
  | nil => rfl
  | cons c s ih =>
    unfold runsBy
    split
    · rename_i h; rw [h] at ih; simpa using ih
    · rename_i h; rw [h] at ih; simpa using ih
    · rename_i h
      rw [h] at ih
      split <;> simpa using ih

/-- A run is not empty, and all its characters are of one class. -/
theorem class_of_mem_runsBy {p : Char → Bool} {s run : List Char} (h : run ∈ runsBy p s) :
    ∃ c rest, run = c :: rest ∧ ∀ d ∈ rest, p d = p c := by
  induction s generalizing run with
  | nil => cases h
  | cons c s ih =>
    unfold runsBy at h
    split at h
    · rw [List.mem_singleton.mp h]
      exact ⟨c, [], rfl, by simp⟩
    · rename_i others hruns
      rw [hruns] at ih
      rcases List.mem_cons.mp h with rfl | h
      · exact ⟨c, [], rfl, by simp⟩
      · exact ih (List.mem_cons_of_mem _ h)
    · rename_i d first others hruns
      rw [hruns] at ih
      split at h
      · rename_i hclass
        rcases List.mem_cons.mp h with rfl | h
        · obtain ⟨_, _, hfirst, hrest⟩ := ih List.mem_cons_self
          cases hfirst
          refine ⟨c, d :: first, rfl, List.forall_mem_cons.mpr ⟨hclass.symm, ?_⟩⟩
          intro e he
          rw [hrest e he, hclass]
        · exact ih (List.mem_cons_of_mem _ h)
      · rcases List.mem_cons.mp h with rfl | h
        · exact ⟨c, [], rfl, by simp⟩
        · exact ih h

theorem isBlank_of_mem_runs {s run : List Char} (h : run ∈ runs s) (hrun : ¬ isBlankRun run) :
    run ≠ [] ∧ ∀ c ∈ run, isBlank c = false := by
  obtain ⟨c, rest, rfl, hclass⟩ := class_of_mem_runsBy h
  have hc : isBlank c = false := by
    rw [Bool.eq_false_iff]
    intro hc
    refine hrun ?_
    simp only [isBlankRun, List.isEmpty_cons, Bool.not_false, Bool.true_and, List.all_cons, hc,
      List.all_eq_true]
    intro d hd
    rw [hclass d hd, hc]
  refine ⟨List.cons_ne_nil c rest, List.forall_mem_cons.mpr ⟨hc, fun d hd => ?_⟩⟩
  rw [hclass d hd, hc]

/-- What stands between the runs of characters that satisfy `p`, and the runs in their places: every
other piece is such a run, and those at both ends are not. -/
def splitKeeping (p : Char → Bool) : List Char → List (List Char)
  | [] => [[]]
  | c :: s =>
    match splitKeeping p s with
    | [] => [[c]]
    | [] :: gap :: pieces => if p c then [] :: (c :: gap) :: pieces else [c] :: gap :: pieces
    | piece :: pieces => if p c then [] :: [c] :: piece :: pieces else (c :: piece) :: pieces

/-- Pieces as a split leaves them: the first holds no character of the class, and the second is a
run of such characters if there is one. -/
structure StartsSplit (p : Char → Bool) (piece : List Char) (rest : List (List Char)) : Prop where
  piece_clear : ∀ c ∈ piece, p c = false
  gap_first : ∀ gap ∈ rest.head?, ∃ c others, gap = c :: others ∧ p c = true

/-- The pieces of a split that are not empty are the runs. -/
theorem exists_splitKeeping (p : Char → Bool) (s : List Char) :
    ∃ piece rest, splitKeeping p s = piece :: rest ∧ StartsSplit p piece rest ∧
      (piece :: rest).filter (fun piece => !piece.isEmpty) = runsBy p s := by
  induction s with
  | nil => exact ⟨[], [], rfl, ⟨List.forall_mem_nil _, nofun⟩, rfl⟩
  | cons c s ih =>
    obtain ⟨piece, rest, hpieces, hstart, hruns⟩ := ih
    rw [splitKeeping, hpieces, runsBy, ← hruns]
    cases hc : p c with
    | true =>
      cases piece with
      | nil =>
        cases rest with
        | nil => exact ⟨[], [[c], []], rfl, ⟨List.forall_mem_nil _, by simp [hc]⟩, rfl⟩
        | cons gap rest =>
          obtain ⟨d, others, rfl, hd⟩ := hstart.gap_first gap rfl
          refine ⟨[], (c :: d :: others) :: rest, rfl, ⟨List.forall_mem_nil _, by simp [hc]⟩, ?_⟩
          simp [hd]
      | cons d piece =>
        have hd := hstart.piece_clear d List.mem_cons_self
        refine ⟨[], [c] :: (d :: piece) :: rest, rfl, ⟨List.forall_mem_nil _, by simp [hc]⟩, ?_⟩
        simp [hd]
    | false =>
      cases piece with
      | nil =>
        cases rest with
        | nil => exact ⟨[c], [], rfl, ⟨by simp [hc], nofun⟩, rfl⟩
        | cons gap rest =>
          obtain ⟨d, others, rfl, hd⟩ := hstart.gap_first gap rfl
          refine ⟨[c], (d :: others) :: rest, rfl, ⟨by simp [hc], hstart.gap_first⟩, ?_⟩
          simp [hd]
      | cons d piece =>
        have hd := hstart.piece_clear d List.mem_cons_self
        refine ⟨c :: d :: piece, rest, rfl, ⟨?_, hstart.gap_first⟩, ?_⟩
        · exact List.forall_mem_cons.mpr ⟨hc, hstart.piece_clear⟩
        · simp [hd]

theorem filter_splitKeeping (p : Char → Bool) (s : List Char) :
    (splitKeeping p s).filter (fun piece => !piece.isEmpty) = runsBy p s := by
  obtain ⟨piece, rest, hpieces, _, hruns⟩ := exists_splitKeeping p s
  rw [hpieces, hruns]

/-- What stands between the runs of characters that satisfy `p`. -/
def wordsBy (p : Char → Bool) (s : List Char) : List (List Char) :=
  (runsBy p s).filter fun run => !run.all p

/-- The words of a text: what stands between its blanks. -/
def words (s : List Char) : List (List Char) := wordsBy isBlank s

end LiveDeck.Text
