import LiveDeck.Document.Basic

/-! # Slides

`slides` groups the blocks of a document: every header after the first block starts a new group
and is its first element.  `flatten_slides` says that no block is lost, repeated or moved. -/

namespace LiveDeck

/-- The groups of a block sequence whose current group began with `first`. -/
def slidesFrom (first : Node) : List Node → List (List Node)
  | [] => [[first]]
  | block :: rest =>
    if block.isHeader then [first] :: slidesFrom block rest
    else
      match slidesFrom block rest with
      | [] => [[first]]
      | group :: groups => (first :: group) :: groups

/-- The blocks of a document, grouped into slides. -/
def slides : List Node → List (List Node)
  | [] => []
  | first :: rest => slidesFrom first rest

theorem slidesFrom_ne_nil (first : Node) (rest : List Node) : slidesFrom first rest ≠ [] := by
  cases rest with
  | nil => simp [slidesFrom]
  | cons block rest =>
    simp only [slidesFrom]
    split
    · simp
    · split <;> simp

theorem flatten_slidesFrom (first : Node) (rest : List Node) :
    (slidesFrom first rest).flatten = first :: rest := by
  induction rest generalizing first with
  | nil => rfl
  | cons block rest ih =>
    simp only [slidesFrom]
    split
    · simp [ih]
    · split
      · rename_i h; exact absurd h (slidesFrom_ne_nil block rest)
      · rename_i group groups h
        have := ih block
        rw [h] at this
        simpa using this

/-- Grouping keeps every block, in order. -/
theorem flatten_slides (blocks : List Node) : (slides blocks).flatten = blocks := by
  cases blocks with
  | nil => rfl
  | cons first rest => exact flatten_slidesFrom first rest

theorem length_slidesFrom (first : Node) (rest : List Node) :
    (slidesFrom first rest).length = 1 + rest.countP Node.isHeader := by
  induction rest generalizing first with
  | nil => rfl
  | cons block rest ih =>
    simp only [slidesFrom]
    split
    · rename_i hheader
      rw [List.length_cons, ih, List.countP_cons_of_pos hheader]
      omega
    · rename_i hheader
      rw [List.countP_cons_of_neg hheader]
      split
      · rename_i h; exact absurd h (slidesFrom_ne_nil block rest)
      · rename_i group groups h
        have := ih block
        rw [h] at this
        simpa using this

/-- The first slide is there as soon as there is a block, and every later header adds one. -/
theorem length_slides (blocks : List Node) :
    (slides blocks).length = if blocks = [] then 0 else 1 + blocks.tail.countP Node.isHeader := by
  cases blocks with
  | nil => rfl
  | cons first rest => exact length_slidesFrom first rest

end LiveDeck
