import LiveDeck.Text.Pattern

/-! # Where matches end

`Pattern.least` is how many characters a pattern takes at least.  Matching hands positions to a
continuation; one that it succeeds with is at least that far on, and not behind the end of the text
(`endsWithin_run`).  For a repetition this is an induction on its rounds, of which each goes on from
where the last one ended. -/

namespace LiveDeck.Text

variable {α : Type} {s : Array Char}

/-- Whatever is found is found at a position that is `least` characters on or more, and in the
text. -/
def EndsWithin (s : Array Char) (least : Nat) (search : Nat → (Nat → Option α) → Option α) : Prop :=
  ∀ (i : Nat) (k : Nat → Option α) (a : α), i ≤ s.size → search i k = some a →
    ∃ j, i + least ≤ j ∧ j ≤ s.size ∧ k j = some a

theorem EndsWithin.mono {least least' : Nat} {search : Nat → (Nat → Option α) → Option α}
    (h : EndsWithin s least search) (hle : least' ≤ least) : EndsWithin s least' search := by
  intro i k a hi hfound
  obtain ⟨j, hij, hj, hk⟩ := h i k a hi hfound
  exact ⟨j, by omega, hj, hk⟩

/-! ### Repetitions -/

theorem runLength_le (p : Char → Bool) {i : Nat} (h : i ≤ s.size) :
    i + runLength s p i ≤ s.size := by
  fun_induction runLength s p i with
  | case1 i hlt hp ih =>
      have := ih (by omega)
      omega
  | case2 i hlt hp => omega
  | case3 i hge => omega

theorem exists_of_tryDown {k : Nat → Option α} {a : α} {i n : Nat} (h : tryDown i k n = some a) :
    ∃ j, i ≤ j ∧ j ≤ i + n ∧ k j = some a := by
  induction n with
  | zero => exact ⟨i, by omega, by omega, h⟩
  | succ n ih =>
      rw [tryDown] at h
      split at h
      · rename_i found hfound
        rw [← h]
        exact ⟨i + n + 1, by omega, by omega, hfound⟩
      · obtain ⟨j, hij, hj, hk⟩ := ih h
        exact ⟨j, hij, by omega, hk⟩

theorem exists_of_tryUp {k : Nat → Option α} {a : α} {i n : Nat} (h : tryUp k i n = some a) :
    ∃ j, i ≤ j ∧ j ≤ i + n ∧ k j = some a := by
  induction n generalizing i with
  | zero => exact ⟨i, by omega, by omega, h⟩
  | succ n ih =>
      rw [tryUp] at h
      split at h
      · rename_i found hfound
        rw [← h]
        exact ⟨i, by omega, by omega, hfound⟩
      · obtain ⟨j, hij, hj, hk⟩ := ih h
        exact ⟨j, by omega, by omega, hk⟩

theorem endsWithin_tryRounds {step : Nat → (Nat → Option α) → Option α}
    (hstep : EndsWithin s 0 step) (fuel : Nat) : EndsWithin s 0 (tryRounds step fuel) := by
  induction fuel with
  | zero =>
      intro i k a hi hfound
      exact ⟨i, by omega, hi, hfound⟩
  | succ fuel ih =>
      intro i k a hi hfound
      rw [tryRounds] at hfound
      split at hfound
      · rename_i found hround
        rw [← hfound]
        obtain ⟨j, hij, hj, hrest⟩ := hstep i _ found hi hround
        split at hrest
        · obtain ⟨m, hjm, hm, hk⟩ := ih j k found hj hrest
          exact ⟨m, by omega, hm, hk⟩
        · cases hrest
      · exact ⟨i, by omega, hi, hfound⟩

/-! ### Patterns -/

namespace Pattern

/-- How many characters a pattern takes at least. -/
def least : Pattern → Nat
  | .one _ => 1
  | .many _ least _ _ => least
  | .seq first second => first.least + second.least
  | .alt first second => min first.least second.least
  | _ => 0

theorem endsWithin_one (p : Char → Bool) : EndsWithin s 1 (@run α s (.one p)) := by
  intro i k a _ hfound
  rw [run] at hfound
  split at hfound
  · rename_i hchar
    have hlt : i < s.size := by
      rcases Nat.lt_or_ge i s.size with hlt | hge
      · exact hlt
      · rw [charAt, Array.getElem?_eq_none hge] at hchar
        cases hchar
    exact ⟨i + 1, by omega, by omega, hfound⟩
  · cases hfound

theorem exists_of_tries {k : Nat → Option α} {a : α} {i least n : Nat} {short : Bool}
    (h : (if n < least then none
      else if short then tryUp k (i + least) (n - least)
      else tryDown (i + least) k (n - least)) = some a) :
    ∃ j, i + least ≤ j ∧ j ≤ i + n ∧ k j = some a := by
  split at h
  · cases h
  · split at h
    · obtain ⟨j, hij, hj, hk⟩ := exists_of_tryUp h
      exact ⟨j, hij, by omega, hk⟩
    · obtain ⟨j, hij, hj, hk⟩ := exists_of_tryDown h
      exact ⟨j, hij, by omega, hk⟩

theorem endsWithin_many (p : Char → Bool) (least : Nat) (most : Option Nat) (short : Bool) :
    EndsWithin s least (@run α s (.many p least most short)) := by
  intro i k a hi hfound
  have hlength := runLength_le p hi
  unfold run at hfound
  cases most with
  | none =>
      obtain ⟨j, hij, hj, hk⟩ := exists_of_tries hfound
      have hrun : j ≤ i + runLength s p i := hj
      exact ⟨j, hij, by omega, hk⟩
  | some most =>
      obtain ⟨j, hij, hj, hk⟩ := exists_of_tries hfound
      have hrun : j ≤ i + min most (runLength s p i) := hj
      exact ⟨j, hij, by omega, hk⟩

theorem endsWithin_guard (condition : Nat → Bool) :
    EndsWithin s 0 fun i (k : Nat → Option α) => if condition i then k i else none := by
  intro i k a hi hfound
  simp only at hfound
  split at hfound
  · exact ⟨i, by omega, hi, hfound⟩
  · cases hfound

/-- A match takes at least the characters it has to, and ends in the text. -/
theorem endsWithin_run (pattern : Pattern) :
    EndsWithin s pattern.least (@run α s pattern) := by
  induction pattern with
  | empty =>
      intro i k a hi hfound
      exact ⟨i, by simp [least], hi, hfound⟩
  | one p => exact endsWithin_one p
  | many p least most short => exact endsWithin_many p least most short
  | seq first second ihfirst ihsecond =>
      intro i k a hi hfound
      obtain ⟨j, hij, hj, hrest⟩ := ihfirst i _ a hi hfound
      obtain ⟨m, hjm, hm, hk⟩ := ihsecond j k a hj hrest
      exact ⟨m, by rw [least]; omega, hm, hk⟩
  | alt first second ihfirst ihsecond =>
      intro i k a hi hfound
      rw [run] at hfound
      split at hfound
      · rename_i found hfirst
        rw [← hfound]
        exact ihfirst.mono (Nat.min_le_left _ _) i k found hi hfirst
      · exact ihsecond.mono (Nat.min_le_right _ _) i k a hi hfound
  | star inner ih =>
      intro i k a hi hfound
      exact endsWithin_tryRounds (ih.mono (Nat.zero_le _)) (s.size - i) i k a hi hfound
  | before inner => exact endsWithin_guard fun i => (run s inner i some).isSome
  | textStart => exact endsWithin_guard fun i => holdsAt s i .textStart
  | lineStart => exact endsWithin_guard fun i => holdsAt s i .lineStart
  | lineEnd => exact endsWithin_guard fun i => holdsAt s i .lineEnd
  | lastLineEnd => exact endsWithin_guard fun i => holdsAt s i .lastLineEnd
  | wordEdge => exact endsWithin_guard fun i => holdsAt s i .wordEdge
  | notAfter p => exact endsWithin_guard fun i => holdsAt s i (.notAfter p)

/-! ### Patterns that take something -/

theorem least_exactly_pos {text : String} (h : text ≠ "") : 0 < (exactly text).least := by
  have hne : text.toList ≠ [] := fun hnil => h (String.toList_eq_nil_iff.mp hnil)
  obtain ⟨c, s, hs⟩ := List.exists_cons_of_ne_nil hne
  rw [exactly, hs, List.map_cons]
  cases s with
  | nil => exact Nat.one_pos
  | cons d s =>
      rw [List.map_cons, all]
      · exact Nat.lt_of_lt_of_le Nat.one_pos (Nat.le_add_right _ _)
      · exact fun h => by cases h

theorem least_any_pos {patterns : List Pattern} (h : ∀ pattern ∈ patterns, 0 < pattern.least) :
    0 < (any patterns).least := by
  fun_induction any patterns with
  | case1 => exact Nat.one_pos
  | case2 pattern => exact h pattern List.mem_cons_self
  | case3 pattern rest _ ih =>
      obtain ⟨hpattern, hrest⟩ := List.forall_mem_cons.mp h
      exact Nat.lt_min.mpr ⟨hpattern, ih hrest⟩

end Pattern

end LiveDeck.Text
