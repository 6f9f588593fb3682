import LiveDeck.Document.Slides

/-! # The one way to cut blocks into slides

`IsSlidePartition blocks groups` says what slides are, not how they are found: together they are
the blocks, none is empty, a header stands only at the beginning of a slide, and every slide but the
first begins with one.  Main statement (`isSlidePartition_iff_and_slides_append`): there is exactly
one such grouping, the one that `slides` finds, and blocks in front of a header are grouped as if
they stood alone. -/

namespace LiveDeck

theorem isHeader_iff {node : Node} :
    node.isHeader = true ↔ ∃ level inlines, node = .header level inlines := by
  constructor
  · intro h
    cases node with
    | header level inlines => exact ⟨level, inlines, rfl⟩
    | _ => cases h
  · rintro ⟨level, inlines, rfl⟩
    rfl

/-- A group whose first block is a header. -/
def BeginsWithHeader (group : List Node) : Prop :=
  ∃ level inlines rest, group = .header level inlines :: rest

/-- Groups that cut blocks into slides. -/
structure IsSlidePartition (blocks : List Node) (groups : List (List Node)) : Prop where
  flatten_eq : groups.flatten = blocks
  nonempty : ∀ group ∈ groups, group ≠ []
  headerFirst : ∀ group ∈ groups, ∀ block ∈ group.tail, block.isHeader = false
  laterHeader : ∀ group ∈ groups.tail, BeginsWithHeader group

namespace IsSlidePartition

variable {blocks rest : List Node} {group : List Node} {groups others : List (List Node)}

theorem nil : IsSlidePartition [] [] where
  flatten_eq := rfl
  nonempty := by simp
  headerFirst := by simp
  laterHeader := by simp

theorem tail (h : IsSlidePartition blocks (group :: groups)) :
    IsSlidePartition groups.flatten groups where
  flatten_eq := rfl
  nonempty := fun later hlater => h.nonempty later (List.mem_cons_of_mem _ hlater)
  headerFirst := fun later hlater => h.headerFirst later (List.mem_cons_of_mem _ hlater)
  laterHeader := fun later hlater => h.laterHeader later (List.mem_of_mem_tail hlater)

theorem exists_cons {first : Node} (h : IsSlidePartition (first :: rest) groups) :
    ∃ body later, groups = (first :: body) :: later := by
  cases groups with
  | nil => cases h.flatten_eq
  | cons group later =>
      obtain ⟨block, body, rfl⟩ :=
        List.exists_cons_of_ne_nil (h.nonempty group List.mem_cons_self)
      have hblock : block = first := (List.cons.inj h.flatten_eq).1
      exact ⟨body, later, by rw [hblock]⟩

theorem isHeader_of_later (h : IsSlidePartition blocks (group :: groups)) :
    ∀ block ∈ groups.flatten.head?, block.isHeader = true := by
  cases groups with
  | nil => simp
  | cons second later =>
      obtain ⟨level, inlines, body, rfl⟩ := h.laterHeader second List.mem_cons_self
      intro block hblock
      rw [List.flatten_cons, List.cons_append, List.head?_cons, Option.mem_some_iff] at hblock
      rw [← hblock]
      rfl

theorem append {level : Int} {inlines : List Node} (h : IsSlidePartition blocks groups)
    (hothers : IsSlidePartition (.header level inlines :: rest) others) :
    IsSlidePartition (blocks ++ .header level inlines :: rest) (groups ++ others) where
  flatten_eq := by rw [List.flatten_append, h.flatten_eq, hothers.flatten_eq]
  nonempty := List.forall_mem_append.mpr ⟨h.nonempty, hothers.nonempty⟩
  headerFirst := List.forall_mem_append.mpr ⟨h.headerFirst, hothers.headerFirst⟩
  laterHeader := by
    cases groups with
    | nil => exact hothers.laterHeader
    | cons group later =>
        obtain ⟨body, rest, rfl⟩ := hothers.exists_cons
        have hfirst : BeginsWithHeader (.header level inlines :: body) :=
          ⟨level, inlines, body, rfl⟩
        have hsecond := List.forall_mem_cons.mpr ⟨hfirst, hothers.laterHeader⟩
        exact List.forall_mem_append.mpr ⟨h.laterHeader, hsecond⟩

end IsSlidePartition

/-! ### There is one -/

theorem isSlidePartition_slidesFrom (first : Node) (rest : List Node) :
    IsSlidePartition (first :: rest) (slidesFrom first rest) := by
  induction rest generalizing first with
  | nil => exact ⟨rfl, by simp [slidesFrom], by simp [slidesFrom], by simp [slidesFrom]⟩
  | cons block rest ih =>
      obtain ⟨body, later, hslides⟩ := (ih block).exists_cons
      have hrest := ih block
      rw [hslides] at hrest
      by_cases hheader : block.isHeader = true
      · have hfirst : IsSlidePartition [first] [[first]] :=
          ⟨rfl, by simp, by simp, by simp⟩
        obtain ⟨level, inlines, rfl⟩ := isHeader_iff.mp hheader
        rw [slidesFrom, if_pos hheader, hslides]
        exact hfirst.append hrest
      · rw [slidesFrom, if_neg hheader, hslides]
        have hbody : ∀ other ∈ block :: body, other.isHeader = false := by
          refine List.forall_mem_cons.mpr ⟨Bool.eq_false_iff.mpr hheader, ?_⟩
          exact hrest.headerFirst (block :: body) List.mem_cons_self
        have hlater := hrest.tail
        refine ⟨?_, ?_, ?_, hrest.laterHeader⟩
        · rw [List.flatten_cons, List.cons_append, ← List.flatten_cons, hrest.flatten_eq]
        · exact List.forall_mem_cons.mpr ⟨List.cons_ne_nil _ _, hlater.nonempty⟩
        · exact List.forall_mem_cons.mpr ⟨hbody, hlater.headerFirst⟩

theorem isSlidePartition_slides (blocks : List Node) : IsSlidePartition blocks (slides blocks) := by
  cases blocks with
  | nil => exact .nil
  | cons first rest => exact isSlidePartition_slidesFrom first rest

/-! ### There is no other -/

/-- A slide goes up to the next header. -/
theorem slidesFrom_append (first : Node) {body rest : List Node}
    (hbody : ∀ block ∈ body, block.isHeader = false)
    (hrest : ∀ block ∈ rest.head?, block.isHeader = true) :
    slidesFrom first (body ++ rest) = (first :: body) :: slides rest := by
  induction body generalizing first with
  | nil =>
      cases rest with
      | nil => rfl
      | cons block rest =>
          rw [List.nil_append, slidesFrom, if_pos (hrest block rfl)]
          rfl
  | cons block body ih =>
      obtain ⟨hblock, hbody⟩ := List.forall_mem_cons.mp hbody
      have hneg : ¬ block.isHeader = true := by rw [hblock]; exact Bool.false_ne_true
      rw [List.cons_append, slidesFrom, if_neg hneg, ih block hbody]

/-- Groups that cut blocks into slides are those of `slides`, one after another from the first. -/
theorem IsSlidePartition.eq_slides {blocks : List Node} {groups : List (List Node)}
    (h : IsSlidePartition blocks groups) : groups = slides blocks := by
  induction groups generalizing blocks with
  | nil =>
      rw [← h.flatten_eq]
      rfl
  | cons group groups ih =>
      obtain ⟨first, body, rfl⟩ :=
        List.exists_cons_of_ne_nil (h.nonempty group List.mem_cons_self)
      have hbody := h.headerFirst (first :: body) List.mem_cons_self
      calc (first :: body) :: groups
          = (first :: body) :: slides groups.flatten := by rw [← ih h.tail]
        _ = slidesFrom first (body ++ groups.flatten) :=
            (slidesFrom_append first hbody h.isHeader_of_later).symm
        _ = slides blocks := by rw [← h.flatten_eq]; rfl

/-- `slides` finds the one way to cut blocks into slides.  What stands before a header has no
influence on the slides from the header on, nor these on the slides before. -/
theorem isSlidePartition_iff_and_slides_append :
    (∀ blocks groups, IsSlidePartition blocks groups ↔ groups = slides blocks) ∧
    ∀ blocks level inlines rest,
      slides (blocks ++ .header level inlines :: rest) =
        slides blocks ++ slides (.header level inlines :: rest) := by
  refine ⟨fun blocks groups => ⟨IsSlidePartition.eq_slides, ?_⟩, ?_⟩
  · rintro rfl
    exact isSlidePartition_slides blocks
  · intro blocks level inlines rest
    have hboth := (isSlidePartition_slides blocks).append
      (isSlidePartition_slides (.header level inlines :: rest))
    exact hboth.eq_slides.symm

end LiveDeck
