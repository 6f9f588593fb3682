import LiveDeck.Text.Blank
import Mathlib.Data.List.DropRight
import Mathlib.Data.List.TakeWhile

/-! # Trimming

Trimming takes characters away at both ends (`exists_append_trimBy`), leaves nothing there that it
would take (`head?_trimBy`, `getLast?_trimBy`), and so leaves what has nothing of it there as it is
(`trimBy_eq_self`). -/

namespace LiveDeck.Text

variable {p : Char → Bool} {s t : List Char}

theorem dropWhile_eq_self (h : s.head?.any p = false) : s.dropWhile p = s := by
  cases s with
  | nil => rfl
  | cons c s =>
      have hc : p c = false := h
      rw [List.dropWhile_cons_of_neg (by simp [hc])]

theorem trimBy_eq_self (hfirst : s.head?.any p = false) (hlast : s.getLast?.any p = false) :
    trimBy p s = s := by
  rw [← List.head?_reverse] at hlast
  rw [trimBy, dropEndWhile, dropWhile_eq_self hfirst, dropWhile_eq_self hlast, List.reverse_reverse]

theorem trimBy_append_of_pos (h : ∀ c ∈ t, p c = true) (s : List Char) :
    trimBy p (t ++ s) = trimBy p s := by
  rw [trimBy, trimBy, List.dropWhile_append_of_pos h]

theorem dropEndWhile_append (h : ∀ c ∈ t, p c = true) (s : List Char) :
    dropEndWhile p (s ++ t) = dropEndWhile p s := by
  have hreverse : ∀ c ∈ t.reverse, p c = true := fun c hc => h c (List.mem_reverse.mp hc)
  rw [dropEndWhile, dropEndWhile, List.reverse_append, List.dropWhile_append_of_pos hreverse]

theorem trimBy_append (h : ∀ c ∈ t, p c = true) (s : List Char) :
    trimBy p (s ++ t) = trimBy p s := by
  rw [trimBy, trimBy, List.dropWhile_append]
  split
  · rename_i hempty
    have hnil : t.dropWhile p = [] := List.dropWhile_eq_nil_iff.mpr h
    rw [hnil, List.isEmpty_iff.mp hempty]
  · exact dropEndWhile_append h _

theorem exists_append_trimBy (p : Char → Bool) (s : List Char) : ∃ before after,
    s = before ++ trimBy p s ++ after ∧ (∀ c ∈ before, p c = true) ∧
      ∀ c ∈ after, p c = true := by
  have hend : ∀ t : List Char, t = dropEndWhile p t ++ (t.reverse.takeWhile p).reverse := by
    intro t
    rw [dropEndWhile, ← List.reverse_append, List.takeWhile_append_dropWhile, List.reverse_reverse]
  refine ⟨s.takeWhile p, ((s.dropWhile p).reverse.takeWhile p).reverse, ?_, ?_, ?_⟩
  · rw [List.append_assoc, trimBy, ← hend, List.takeWhile_append_dropWhile]
  · exact fun c hc => List.mem_takeWhile_imp hc
  · exact fun c hc => List.mem_takeWhile_imp (List.mem_reverse.mp hc)

theorem head?_dropWhile_any (p : Char → Bool) (s : List Char) :
    (s.dropWhile p).head?.any p = false := by
  have hhead := List.head?_dropWhile_not p s
  cases hs : (s.dropWhile p).head? with
  | none => rfl
  | some c =>
      rw [hs] at hhead
      exact hhead

theorem getLast?_trimBy (p : Char → Bool) (s : List Char) :
    (trimBy p s).getLast?.any p = false := by
  rw [trimBy, dropEndWhile, List.getLast?_reverse]
  exact head?_dropWhile_any p _

theorem head?_trimBy (p : Char → Bool) (s : List Char) : (trimBy p s).head?.any p = false := by
  have hprefix : trimBy p s <+: s.dropWhile p := List.rdropWhile_prefix p _
  obtain ⟨rest, hrest⟩ := hprefix
  have hhead := head?_dropWhile_any p s
  cases htrim : trimBy p s with
  | nil => rfl
  | cons c trimmed =>
      rw [← hrest, htrim] at hhead
      exact hhead

end LiveDeck.Text
