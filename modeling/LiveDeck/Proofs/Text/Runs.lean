import LiveDeck.Proofs.Text.Words
import Mathlib.Data.List.SplitBy

/-! # Runs

Cutting a text into runs is splitting it wherever the class changes (`runsBy_eq_splitBy`), so what
is known of such splits holds of runs.  A text that is cut where the class changes has the runs of
its two parts (`runsBy_append`), and a cut between two runs is one where the class changes
(`runsBy_flatten_of_append`, `class_ne_of_runsBy_append`).  Characters of one class are a single
run (`runsBy_of_forall_mem`). -/

namespace LiveDeck.Text

variable {p : Char → Bool} {s t : List Char}

theorem isChain_runsBy (p : Char → Bool) : ∀ s : List Char,
    (runsBy p s).IsChain fun run next =>
      ∃ hrun hnext, (p (run.getLast hrun) == p (next.head hnext)) = false
  | [] => List.isChain_nil
  | [c] => List.isChain_singleton [c]
  | c :: d :: s => by
      have ih := isChain_runsBy p (d :: s)
      obtain ⟨run, rest, hruns, _⟩ := exists_runsBy_cons p d s
      rw [hruns] at ih
      rw [runsBy_cons_cons hruns]
      split
      · rw [List.isChain_cons] at ih ⊢
        refine ⟨?_, ih.2⟩
        intro next hnext
        obtain ⟨_, hne, hlast⟩ := ih.1 next hnext
        refine ⟨List.cons_ne_nil c (d :: run), hne, ?_⟩
        rw [List.getLast_cons (List.cons_ne_nil d run)]
        exact hlast
      · rename_i hclass
        rw [List.isChain_cons_cons]
        refine ⟨⟨List.cons_ne_nil c [], List.cons_ne_nil d run, ?_⟩, ih⟩
        simpa using hclass

/-- Runs are what lies between changes of the class. -/
theorem runsBy_eq_splitBy (p : Char → Bool) (s : List Char) :
    runsBy p s = s.splitBy fun c d => p c == p d := by
  symm
  rw [List.splitBy_eq_iff]
  refine ⟨(flatten_runsBy p s).symm, ?_, ?_, isChain_runsBy p s⟩
  · intro hnil
    obtain ⟨c, rest, hrun, _⟩ := class_of_mem_runsBy hnil
    cases hrun
  · intro run hrun
    obtain ⟨c, rest, rfl, hclass⟩ := class_of_mem_runsBy hrun
    have hall : ∀ d ∈ c :: rest, p d = p c := by
      intro d hd
      rcases List.mem_cons.mp hd with rfl | hd
      · rfl
      · exact hclass d hd
    refine (List.pairwise_of_forall_mem_list ?_).isChain
    intro d hd e he
    rw [hall d hd, hall e he]
    exact beq_self_eq_true _

/-- A text that is cut where the class changes has the runs of its two parts. -/
theorem runsBy_append (h : ∀ c ∈ s.getLast?, ∀ d ∈ t.head?, p c ≠ p d) :
    runsBy p (s ++ t) = runsBy p s ++ runsBy p t := by
  rw [runsBy_eq_splitBy, runsBy_eq_splitBy, runsBy_eq_splitBy]
  apply List.splitBy_append
  intro c hc d hd
  simpa using h c hc d hd

theorem runsBy_flatten_of_append {left right : List (List Char)}
    (h : runsBy p s = left ++ right) :
    runsBy p left.flatten = left ∧ runsBy p right.flatten = right := by
  rw [runsBy_eq_splitBy, List.splitBy_eq_iff] at h
  obtain ⟨_, hnil, hruns, hchain⟩ := h
  rw [runsBy_eq_splitBy, runsBy_eq_splitBy]
  constructor
  · apply List.splitBy_flatten
    · exact fun hleft => hnil (List.mem_append_left _ hleft)
    · exact fun run hrun => hruns run (List.mem_append_left _ hrun)
    · exact hchain.left_of_append
  · apply List.splitBy_flatten
    · exact fun hright => hnil (List.mem_append_right _ hright)
    · exact fun run hrun => hruns run (List.mem_append_right _ hrun)
    · exact hchain.right_of_append

/-- Between some of the first runs of a text and the others the class changes. -/
theorem class_ne_of_runsBy_append {left right : List (List Char)}
    (h : runsBy p s = left ++ right) :
    ∀ c ∈ left.flatten.getLast?, ∀ d ∈ right.flatten.head?, p c ≠ p d := by
  rcases left.eq_nil_or_concat with rfl | ⟨init, run, rfl⟩
  · nofun
  cases right with
  | nil => nofun
  | cons next rest =>
      rw [List.concat_eq_append] at h ⊢
      have hchain := isChain_runsBy p s
      rw [h, List.append_assoc, List.singleton_append, List.isChain_append_cons_cons] at hchain
      obtain ⟨hrun, hnext, hclass⟩ := hchain.2.1
      intro c hc d hd
      rw [List.flatten_append, List.flatten_singleton, List.getLast?_append_of_ne_nil _ hrun,
        List.getLast?_eq_some_getLast hrun] at hc
      rw [List.flatten_cons, List.head?_append_of_ne_nil _ hnext, List.head?_eq_some_head hnext] at hd
      rw [← Option.some.inj hc, ← Option.some.inj hd]
      simpa using hclass

theorem runsBy_of_forall_mem {isIn : Bool} (hne : s ≠ []) (h : ∀ c ∈ s, p c = isIn) :
    runsBy p s = [s] := by
  rw [runsBy_eq_splitBy]
  apply List.splitBy_of_isChain hne
  refine (List.pairwise_of_forall_mem_list ?_).isChain
  intro c hc d hd
  rw [h c hc, h d hd]
  exact beq_self_eq_true _

end LiveDeck.Text
