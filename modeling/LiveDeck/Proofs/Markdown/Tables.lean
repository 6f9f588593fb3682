import LiveDeck.Markdown.Source

/-! # Rows are as wide as their table

A block is rectangular if in every table in it, at any depth, each row has as many cells as there
are columns.  Reading a row fills it up or cuts it off, so a table is rectangular; a container is
if the reader of its content makes nothing else (`MakesRectangular`), which `readBlocks` does at
every depth.  Taking out footnotes and reading inline elements leave rows as wide as they are, so
all that `parse?` gives is rectangular (`allRectangular_of_parse?`). -/

namespace LiveDeck.Markdown

variable {α β : Type}

/-! ### Rectangular blocks -/

namespace Block

/-- In every table in the block, each row has as many cells as there are columns. -/
inductive IsRectangular : Block α → Prop
  | frontMatter (content : List Char) : IsRectangular (.frontMatter content)
  | paragraph (isTight : Bool) (content : α) : IsRectangular (.paragraph isTight content)
  | heading (level : Fin 6) (content : α) : IsRectangular (.heading level content)
  | fence (info content : List Char) : IsRectangular (.fence info content)
  | indentedCode (content : List Char) : IsRectangular (.indentedCode content)
  | html (content : List Char) : IsRectangular (.html content)
  | quote {blocks : List (Block α)} :
      (∀ block ∈ blocks, IsRectangular block) → IsRectangular (.quote blocks)
  | bulletList {items : List (List (Block α))} :
      (∀ blocks ∈ items, ∀ block ∈ blocks, IsRectangular block) → IsRectangular (.bulletList items)
  | orderedList {items : List (List (Block α))} (start : Nat) :
      (∀ blocks ∈ items, ∀ block ∈ blocks, IsRectangular block) →
      IsRectangular (.orderedList start items)
  | definitionList {parts : List (α ⊕ List (Block α))} :
      (∀ blocks, .inr blocks ∈ parts → ∀ block ∈ blocks, IsRectangular block) →
      IsRectangular (.definitionList parts)
  | rule : IsRectangular .rule
  | table {columns : List (Alignment × α)} {rows : List (List α)} :
      (∀ row ∈ rows, row.length = columns.length) → IsRectangular (.table columns rows)
  | math (content : List Char) : IsRectangular (.math content)
  | footnote {blocks : List (Block α)} :
      (∀ block ∈ blocks, IsRectangular block) → IsRectangular (.footnote blocks)

/-- All blocks of a sequence are rectangular. -/
abbrev AllRectangular (blocks : List (Block α)) : Prop := ∀ block ∈ blocks, block.IsRectangular

/-- All definitions among terms and definitions are rectangular. -/
abbrev PartsRectangular (parts : List (α ⊕ List (Block α))) : Prop :=
  ∀ blocks, .inr blocks ∈ parts → AllRectangular blocks

theorem partsRectangular_nil : PartsRectangular ([] : List (α ⊕ List (Block α))) := by
  simp [PartsRectangular]

theorem partsRectangular_cons_inl {term : α} {parts : List (α ⊕ List (Block α))} :
    PartsRectangular (.inl term :: parts) ↔ PartsRectangular parts := by
  simp [PartsRectangular]

theorem partsRectangular_cons_inr {blocks : List (Block α)} {parts : List (α ⊕ List (Block α))} :
    PartsRectangular (.inr blocks :: parts) ↔ AllRectangular blocks ∧ PartsRectangular parts := by
  simp [PartsRectangular, or_imp, forall_and]

/-! ### Footnotes -/

theorem allRectangular_of_container {γ : Type} {inNote definesNote : Bool} {content? : Option γ}
    {toBlock : γ → Block α} {dropped? others? : Option (List (Block α))} {kept : List (Block α)}
    (h : (if inNote then if definesNote then none else dropped? else do
      let content ← content?
      let others ← others?
      some (toBlock content :: others)) = some kept)
    (hdropped : ∀ kept, dropped? = some kept → AllRectangular kept)
    (hcontent : ∀ content, content? = some content → (toBlock content).IsRectangular)
    (hothers : ∀ others, others? = some others → AllRectangular others) : AllRectangular kept := by
  split at h
  · split at h
    · cases h
    · exact hdropped kept h
  · obtain ⟨content, hsome, h⟩ := Option.bind_eq_some_iff.mp h
    obtain ⟨others, hrest, h⟩ := Option.bind_eq_some_iff.mp h
    cases h
    exact List.forall_mem_cons.mpr ⟨hcontent content hsome, hothers others hrest⟩

mutual

theorem allRectangular_of_dropNotesFrom {inNote : Bool} : ∀ {blocks kept : List (Block α)},
    dropNotesFrom inNote blocks = some kept → AllRectangular blocks → AllRectangular kept
  | [], _, h, _ => by
      rw [dropNotesFrom] at h
      cases h
      exact List.forall_mem_nil _
  | block :: rest, kept, h, hblocks => by
      obtain ⟨hblock, hrest⟩ := List.forall_mem_cons.mp hblocks
      have hothers : ∀ {inNote : Bool} (others : List (Block α)),
          dropNotesFrom inNote rest = some others → AllRectangular others :=
        fun _ h => allRectangular_of_dropNotesFrom h hrest
      cases hblock with
      | footnote hinner =>
          rw [dropNotesFrom] at h
          obtain ⟨spilled, hspilled, h⟩ := Option.bind_eq_some_iff.mp h
          obtain ⟨others, hfollowing, h⟩ := Option.bind_eq_some_iff.mp h
          cases h
          exact List.forall_mem_append.mpr
            ⟨allRectangular_of_dropNotesFrom hspilled hinner, hothers others hfollowing⟩
      | quote hinner =>
          rw [dropNotesFrom] at h
          refine allRectangular_of_container h hothers (fun _ h => ?_) hothers
          exact .quote (allRectangular_of_dropNotesFrom h hinner)
      | bulletList hinner =>
          rw [dropNotesFrom] at h
          refine allRectangular_of_container h hothers (fun _ h => ?_) hothers
          exact .bulletList (allRectangular_of_dropNotesInItems h hinner)
      | orderedList start hinner =>
          rw [dropNotesFrom] at h
          refine allRectangular_of_container h hothers (fun _ h => ?_) hothers
          exact .orderedList start (allRectangular_of_dropNotesInItems h hinner)
      | definitionList hinner =>
          rw [dropNotesFrom] at h
          refine allRectangular_of_container h hothers (fun _ h => ?_) hothers
          exact .definitionList (partsRectangular_of_dropNotesInParts h hinner)
      | frontMatter | paragraph | heading | fence | indentedCode | html | rule | table | math =>
          unfold dropNotesFrom at h
          obtain ⟨others, hfollowing, h⟩ := Option.bind_eq_some_iff.mp h
          cases h
          have hkept := hothers others hfollowing
          split
          · exact hkept
          · exact List.forall_mem_cons.mpr ⟨hblocks _ List.mem_cons_self, hkept⟩

theorem allRectangular_of_dropNotesInItems : ∀ {items kept : List (List (Block α))},
    dropNotesInItems items = some kept → (∀ blocks ∈ items, AllRectangular blocks) →
      ∀ blocks ∈ kept, AllRectangular blocks
  | [], _, h, _ => by
      rw [dropNotesInItems] at h
      cases h
      exact List.forall_mem_nil _
  | blocks :: rest, _, h, hitems => by
      obtain ⟨hblocks, hrest⟩ := List.forall_mem_cons.mp hitems
      rw [dropNotesInItems] at h
      obtain ⟨first, hfirst, h⟩ := Option.bind_eq_some_iff.mp h
      obtain ⟨others, hothers, h⟩ := Option.bind_eq_some_iff.mp h
      cases h
      exact List.forall_mem_cons.mpr ⟨allRectangular_of_dropNotesFrom hfirst hblocks,
        allRectangular_of_dropNotesInItems hothers hrest⟩

theorem partsRectangular_of_dropNotesInParts : ∀ {parts kept : List (α ⊕ List (Block α))},
    dropNotesInParts parts = some kept → PartsRectangular parts → PartsRectangular kept
  | [], _, h, _ => by
      rw [dropNotesInParts] at h
      cases h
      exact partsRectangular_nil
  | .inl term :: rest, _, h, hparts => by
      rw [dropNotesInParts] at h
      obtain ⟨others, hothers, rfl⟩ := Option.map_eq_some_iff.mp h
      have hrest := partsRectangular_cons_inl.mp hparts
      exact partsRectangular_cons_inl.mpr (partsRectangular_of_dropNotesInParts hothers hrest)
  | .inr blocks :: rest, _, h, hparts => by
      obtain ⟨hblocks, hrest⟩ := partsRectangular_cons_inr.mp hparts
      rw [dropNotesInParts] at h
      obtain ⟨first, hfirst, h⟩ := Option.bind_eq_some_iff.mp h
      obtain ⟨others, hothers, h⟩ := Option.bind_eq_some_iff.mp h
      cases h
      exact partsRectangular_cons_inr.mpr ⟨allRectangular_of_dropNotesFrom hfirst hblocks,
        partsRectangular_of_dropNotesInParts hothers hrest⟩

end

/-! ### Inline elements -/

theorem mapM_eq_some {f : α → Option β} : ∀ {xs : List α} {ys : List β},
    xs.mapM f = some ys → ys.length = xs.length ∧ ∀ y ∈ ys, ∃ x ∈ xs, f x = some y
  | [], _, h => by
      cases h
      exact ⟨rfl, List.forall_mem_nil _⟩
  | x :: xs, _, h => by
      rw [List.mapM_cons] at h
      obtain ⟨y, hy, h⟩ := Option.bind_eq_some_iff.mp h
      obtain ⟨ys, hys, h⟩ := Option.bind_eq_some_iff.mp h
      cases h
      obtain ⟨hlength, hmem⟩ := mapM_eq_some hys
      refine ⟨by rw [List.length_cons, List.length_cons, hlength], ?_⟩
      refine List.forall_mem_cons.mpr ⟨⟨x, List.mem_cons_self, hy⟩, fun z hz => ?_⟩
      obtain ⟨w, hw, hfound⟩ := hmem z hz
      exact ⟨w, List.mem_cons_of_mem _ hw, hfound⟩

mutual

/-- Reading the inline elements of a block keeps the tables in it as wide as they are. -/
theorem isRectangular_of_mapM? {f : α → Option β} : ∀ {block : Block α} {read : Block β},
    mapM? f block = some read → block.IsRectangular → read.IsRectangular
  | .frontMatter content, _, h, _ => by
      cases h
      exact .frontMatter content
  | .paragraph isTight _, _, h, _ => by
      obtain ⟨content, _, rfl⟩ := Option.map_eq_some_iff.mp h
      exact .paragraph isTight content
  | .heading level _, _, h, _ => by
      obtain ⟨content, _, rfl⟩ := Option.map_eq_some_iff.mp h
      exact .heading level content
  | .fence info content, _, h, _ => by
      cases h
      exact .fence info content
  | .indentedCode content, _, h, _ => by
      cases h
      exact .indentedCode content
  | .html content, _, h, _ => by
      cases h
      exact .html content
  | .quote _, _, h, .quote hinner => by
      obtain ⟨_, hread, rfl⟩ := Option.map_eq_some_iff.mp h
      exact .quote (allRectangular_of_mapAllM? hread hinner)
  | .bulletList _, _, h, .bulletList hinner => by
      obtain ⟨_, hread, rfl⟩ := Option.map_eq_some_iff.mp h
      exact .bulletList (allRectangular_of_mapItemsM? hread hinner)
  | .orderedList start _, _, h, .orderedList _ hinner => by
      obtain ⟨_, hread, rfl⟩ := Option.map_eq_some_iff.mp h
      exact .orderedList start (allRectangular_of_mapItemsM? hread hinner)
  | .definitionList _, _, h, .definitionList hinner => by
      obtain ⟨_, hread, rfl⟩ := Option.map_eq_some_iff.mp h
      exact .definitionList (partsRectangular_of_mapPartsM? hread hinner)
  | .rule, _, h, _ => by
      cases h
      exact .rule
  | .table columns rows, _, h, .table hrows => by
      obtain ⟨readColumns, hcolumns, h⟩ := Option.bind_eq_some_iff.mp h
      obtain ⟨readRows, hread, h⟩ := Option.bind_eq_some_iff.mp h
      cases h
      refine .table fun row hrow => ?_
      obtain ⟨cells, hcells, hrow⟩ := (mapM_eq_some hread).2 row hrow
      rw [(mapM_eq_some hrow).1, (mapM_eq_some hcolumns).1]
      exact hrows cells hcells
  | .math content, _, h, _ => by
      cases h
      exact .math content
  | .footnote _, _, h, .footnote hinner => by
      obtain ⟨_, hread, rfl⟩ := Option.map_eq_some_iff.mp h
      exact .footnote (allRectangular_of_mapAllM? hread hinner)

theorem allRectangular_of_mapAllM? {f : α → Option β} : ∀ {blocks : List (Block α)}
    {read : List (Block β)}, mapAllM? f blocks = some read → AllRectangular blocks →
      AllRectangular read
  | [], _, h, _ => by
      cases h
      exact List.forall_mem_nil _
  | _ :: _, _, h, hblocks => by
      obtain ⟨hblock, hrest⟩ := List.forall_mem_cons.mp hblocks
      obtain ⟨first, hfirst, h⟩ := Option.bind_eq_some_iff.mp h
      obtain ⟨others, hothers, h⟩ := Option.bind_eq_some_iff.mp h
      cases h
      exact List.forall_mem_cons.mpr
        ⟨isRectangular_of_mapM? hfirst hblock, allRectangular_of_mapAllM? hothers hrest⟩

theorem allRectangular_of_mapItemsM? {f : α → Option β} : ∀ {items : List (List (Block α))}
    {read : List (List (Block β))}, mapItemsM? f items = some read →
      (∀ blocks ∈ items, AllRectangular blocks) → ∀ blocks ∈ read, AllRectangular blocks
  | [], _, h, _ => by
      cases h
      exact List.forall_mem_nil _
  | _ :: _, _, h, hitems => by
      obtain ⟨hblocks, hrest⟩ := List.forall_mem_cons.mp hitems
      obtain ⟨first, hfirst, h⟩ := Option.bind_eq_some_iff.mp h
      obtain ⟨others, hothers, h⟩ := Option.bind_eq_some_iff.mp h
      cases h
      exact List.forall_mem_cons.mpr
        ⟨allRectangular_of_mapAllM? hfirst hblocks, allRectangular_of_mapItemsM? hothers hrest⟩

theorem partsRectangular_of_mapPartsM? {f : α → Option β} : ∀ {parts : List (α ⊕ List (Block α))}
    {read : List (β ⊕ List (Block β))}, mapPartsM? f parts = some read →
      PartsRectangular parts → PartsRectangular read
  | [], _, h, _ => by
      cases h
      exact partsRectangular_nil
  | .inl _ :: _, _, h, hparts => by
      have hrest := partsRectangular_cons_inl.mp hparts
      obtain ⟨first, _, h⟩ := Option.bind_eq_some_iff.mp h
      obtain ⟨others, hothers, h⟩ := Option.bind_eq_some_iff.mp h
      cases h
      exact partsRectangular_cons_inl.mpr (partsRectangular_of_mapPartsM? hothers hrest)
  | .inr _ :: _, _, h, hparts => by
      obtain ⟨hblocks, hrest⟩ := partsRectangular_cons_inr.mp hparts
      obtain ⟨first, hfirst, h⟩ := Option.bind_eq_some_iff.mp h
      obtain ⟨others, hothers, h⟩ := Option.bind_eq_some_iff.mp h
      cases h
      exact partsRectangular_cons_inr.mpr
        ⟨allRectangular_of_mapAllM? hfirst hblocks, partsRectangular_of_mapPartsM? hothers hrest⟩

end

end Block

open Block (AllRectangular PartsRectangular)

/-! ### Blocks without blocks inside -/

namespace View

theorem length_fillRow (width : Nat) (row : List (List Char)) :
    (fillRow width row).length = width := by
  rw [fillRow, List.length_append, List.length_map, List.length_take, List.length_replicate]
  omega

section leaf

variable {v : View} {n stop : Nat} {found : TextBlock × Nat}

theorem isRectangular_of_frontMatter? (h : v.frontMatter? n stop = some found) :
    found.1.IsRectangular := by
  unfold frontMatter? at h
  split at h
  · dsimp only at h
    split at h
    · cases h
    · obtain ⟨_, _, rfl⟩ := Option.map_eq_some_iff.mp h
      exact .frontMatter _
  · cases h

theorem isRectangular_of_table? (h : v.table? n stop = some found) : found.1.IsRectangular := by
  obtain ⟨columns, _, rfl⟩ := Option.map_eq_some_iff.mp h
  refine .table fun row hrow => ?_
  obtain ⟨cells, _, rfl⟩ := List.mem_map.mp hrow
  exact length_fillRow columns.length cells

theorem isRectangular_of_indentedCode? (h : v.indentedCode? n stop = some found) :
    found.1.IsRectangular := by
  unfold indentedCode? at h
  split at h
  · cases h
    exact .indentedCode _
  · cases h

theorem isRectangular_of_fence? (h : v.fence? n stop = some found) : found.1.IsRectangular := by
  obtain ⟨_, _, rfl⟩ := Option.map_eq_some_iff.mp h
  exact .fence _ _

theorem isRectangular_of_math? (h : v.math? n stop = some found) : found.1.IsRectangular := by
  unfold math? at h
  split at h
  · obtain ⟨_, _, rfl⟩ := Option.map_eq_some_iff.mp h
    exact .math _
  · cases h

theorem isRectangular_of_rule? (h : v.rule? n = some found) : found.1.IsRectangular := by
  unfold rule? at h
  split at h
  · cases h
    exact .rule
  · cases h

theorem isRectangular_of_html? (h : v.html? n stop = some found) : found.1.IsRectangular := by
  obtain ⟨_, _, rfl⟩ := Option.map_eq_some_iff.mp h
  exact .html _

theorem isRectangular_of_headingBlock? (h : v.headingBlock? n = some found) :
    found.1.IsRectangular := by
  obtain ⟨_, _, rfl⟩ := Option.map_eq_some_iff.mp h
  exact .heading _ _

theorem isRectangular_of_underlined? (h : v.underlined? n stop = some found) :
    found.1.IsRectangular := by
  unfold underlined? at h
  split at h
  · cases h
  · obtain ⟨_, _, rfl⟩ := Option.map_eq_some_iff.mp h
    exact .heading _ _

end leaf

end View

/-! ### Containers -/

/-- Whatever is read, all blocks of it are rectangular. -/
def MakesRectangular (reader : BlockReader) : Prop :=
  ∀ v n stop definitions, AllRectangular (reader v n stop definitions).blocks

theorem allRectangular_tighten {blocks : List TextBlock} (h : AllRectangular blocks) :
    AllRectangular (tighten blocks) := by
  refine List.forall_mem_map.mpr fun block hblock => ?_
  split
  · exact .paragraph true _
  · exact h block hblock

theorem allRectangular_tightenedItems {items : List (List TextBlock)} (isTight : Bool)
    (h : ∀ blocks ∈ items, AllRectangular blocks) :
    ∀ blocks ∈ (if isTight then items.map tighten else items), AllRectangular blocks := by
  split
  · exact List.forall_mem_map.mpr fun blocks hblocks => allRectangular_tighten (h blocks hblocks)
  · exact h

theorem partsRectangular_tightenedParts {parts : List (List Char ⊕ List TextBlock)}
    (isTight : Bool) (h : PartsRectangular parts) :
    PartsRectangular (if isTight then parts.map (Sum.map id tighten) else parts) := by
  split
  · intro blocks hblocks
    obtain ⟨part, hpart, heq⟩ := List.mem_map.mp hblocks
    cases part with
    | inl term => cases heq
    | inr loose =>
        cases heq
        exact allRectangular_tighten (h loose hpart)
  · exact h

namespace View

variable {inner quoted listed : BlockReader}

/-- What a rule may read if the rule applies. -/
abbrev ReadsRectangular (found? : Option Reading) : Prop :=
  ∀ reading, found? = some reading → AllRectangular reading.blocks

theorem readsRectangular_orElse {first second : Option Reading} (hfirst : ReadsRectangular first)
    (hsecond : ReadsRectangular second) : ReadsRectangular (first <|> second) := by
  cases first with
  | none => exact hsecond
  | some found => exact hfirst

theorem readsRectangular_single {found? : Option (TextBlock × Nat)} (definitions : Definitions)
    (h : ∀ {found}, found? = some found → found.1.IsRectangular) :
    ReadsRectangular (found?.map (Reading.ofBlock definitions)) := by
  intro reading hreading
  obtain ⟨found, hfound, rfl⟩ := Option.map_eq_some_iff.mp hreading
  exact List.forall_mem_singleton.mpr (h hfound)

theorem readsRectangular_quote? (hinner : MakesRectangular inner) (v : View) (n stop : Nat)
    (definitions : Definitions) : ReadsRectangular (v.quote? inner n stop definitions) := by
  intro reading h
  unfold quote? at h
  split at h
  · cases h
    exact List.forall_mem_singleton.mpr (.quote (hinner _ _ _ _))
  · cases h

theorem allRectangular_itemContents (hinner : MakesRectangular inner) (v : View) (n stop : Nat)
    (marker : ItemMarker) (definitions : Definitions) :
    AllRectangular (v.itemContents inner n stop marker definitions).blocks := by
  unfold itemContents
  dsimp only
  split
  · exact List.forall_mem_nil _
  · exact hinner _ _ _ _

theorem allRectangular_itemsFrom (hinner : MakesRectangular inner) (v : View) (stop : Nat) :
    ∀ (fuel n : Nat) (marker : ItemMarker) (afterEmpty : Bool) (definitions : Definitions),
      ∀ blocks ∈ (v.itemsFrom inner stop fuel n marker afterEmpty definitions).items,
        AllRectangular blocks
  | 0, _, _, _, _ => List.forall_mem_nil _
  | fuel + 1, n, marker, afterEmpty, definitions => by
      have hitem := allRectangular_itemContents hinner v n stop marker definitions
      rw [itemsFrom]
      split
      · exact List.forall_mem_cons.mpr ⟨hitem, allRectangular_itemsFrom hinner v stop fuel _ _ _ _⟩
      · exact List.forall_mem_singleton.mpr hitem

theorem readsRectangular_list? (hinner : MakesRectangular inner) (v : View) (n stop : Nat)
    (definitions : Definitions) : ReadsRectangular (v.list? inner n stop definitions) := by
  intro reading h
  obtain ⟨marker, _, rfl⟩ := Option.map_eq_some_iff.mp h
  have hitems := allRectangular_tightenedItems
    (v.itemsFrom inner stop (stop - n) n marker false definitions).isTight
    (allRectangular_itemsFrom hinner v stop (stop - n) n marker false definitions)
  refine List.forall_mem_singleton.mpr ?_
  split
  · exact .orderedList _ hitems
  · exact .bulletList hitems

theorem partsRectangular_partsFrom (hinner : MakesRectangular inner) (v : View) (stop : Nat) :
    ∀ (fuel n i : Nat) (afterEmpty : Bool) (definitions : Definitions),
      PartsRectangular (v.partsFrom inner stop fuel n i afterEmpty definitions).parts
  | 0, _, _, _, _ => Block.partsRectangular_nil
  | fuel + 1, n, i, afterEmpty, definitions => by
      have hpart : AllRectangular (v.definitionContents inner n stop i definitions).blocks :=
        hinner _ _ _ _
      rw [partsFrom]
      split
      · split
        · refine Block.partsRectangular_cons_inr.mpr ⟨hpart, ?_⟩
          exact partsRectangular_partsFrom hinner v stop fuel _ _ _ _
        · split
          · refine Block.partsRectangular_cons_inr.mpr ⟨hpart, ?_⟩
            refine Block.partsRectangular_cons_inl.mpr ?_
            exact partsRectangular_partsFrom hinner v stop fuel _ _ _ _
          · exact Block.partsRectangular_cons_inr.mpr ⟨hpart, Block.partsRectangular_nil⟩
      · exact Block.partsRectangular_cons_inr.mpr ⟨hpart, Block.partsRectangular_nil⟩

theorem readsRectangular_definitionList? (hinner : MakesRectangular inner) (v : View)
    (n stop : Nat) (definitions : Definitions) :
    ReadsRectangular (v.definitionList? inner n stop definitions) := by
  intro reading h
  obtain ⟨⟨line, i⟩, _, rfl⟩ := Option.map_eq_some_iff.mp h
  have hparts := partsRectangular_partsFrom hinner v stop (stop - n) line i false definitions
  refine List.forall_mem_singleton.mpr (.definitionList ?_)
  exact partsRectangular_tightenedParts _ (Block.partsRectangular_cons_inl.mpr hparts)

theorem readsRectangular_note? (hinner : MakesRectangular inner) (v : View) (n stop : Nat)
    (definitions : Definitions) : ReadsRectangular (v.note? inner n stop definitions) := by
  intro reading h
  obtain ⟨_, _, rfl⟩ := Option.map_eq_some_iff.mp h
  exact List.forall_mem_singleton.mpr (.footnote (hinner _ _ _ _))

theorem readsRectangular_reference? (v : View) (n : Nat) (definitions : Definitions) :
    ReadsRectangular ((v.reference? n).map (Reading.ofReference definitions)) := by
  intro reading h
  obtain ⟨_, _, rfl⟩ := Option.map_eq_some_iff.mp h
  exact List.forall_mem_nil _

theorem allRectangular_readBlock (hquoted : MakesRectangular quoted)
    (hlisted : MakesRectangular listed) (v : View) (n stop : Nat) (definitions : Definitions) :
    AllRectangular (v.readBlock quoted listed n stop definitions).blocks := by
  have hsingle : ∀ {found? : Option (TextBlock × Nat)},
      (∀ {found}, found? = some found → found.1.IsRectangular) →
        ReadsRectangular (found?.map (Reading.ofBlock definitions)) :=
    readsRectangular_single definitions
  unfold readBlock
  dsimp only
  generalize hfound : (_ <|> _ : Option Reading) = found?
  have hreads : ReadsRectangular found? := by
    rw [← hfound]
    refine readsRectangular_orElse (hsingle isRectangular_of_frontMatter?) ?_
    refine readsRectangular_orElse (hsingle isRectangular_of_table?) ?_
    refine readsRectangular_orElse (hsingle isRectangular_of_indentedCode?) ?_
    refine readsRectangular_orElse (hsingle isRectangular_of_math?) ?_
    refine readsRectangular_orElse (hsingle isRectangular_of_fence?) ?_
    refine readsRectangular_orElse (readsRectangular_quote? hquoted v n stop definitions) ?_
    refine readsRectangular_orElse (hsingle isRectangular_of_rule?) ?_
    refine readsRectangular_orElse (readsRectangular_list? hlisted v n stop definitions) ?_
    refine readsRectangular_orElse (readsRectangular_note? hquoted v n stop definitions) ?_
    refine readsRectangular_orElse (readsRectangular_reference? v n definitions) ?_
    refine readsRectangular_orElse (hsingle isRectangular_of_html?) ?_
    refine readsRectangular_orElse (hsingle isRectangular_of_headingBlock?) ?_
    refine readsRectangular_orElse (hsingle isRectangular_of_underlined?) ?_
    exact readsRectangular_definitionList? hlisted v n stop definitions
  cases found? with
  | none => exact List.forall_mem_singleton.mpr (.paragraph false _)
  | some reading => exact hreads reading rfl

end View

/-! ### Sources -/

theorem makesRectangular_dropBlocks : MakesRectangular dropBlocks := by
  intro v n stop definitions
  unfold dropBlocks
  dsimp only
  split
  · exact List.forall_mem_nil _
  · split
    · exact List.forall_mem_nil _
    · exact List.forall_mem_nil _

theorem allRectangular_blocksFrom {quoted listed : BlockReader} (hquoted : MakesRectangular quoted)
    (hlisted : MakesRectangular listed) (v : View) (stop : Nat) :
    ∀ (fuel n : Nat) (hasEmpty isTight : Bool) (definitions : Definitions),
      AllRectangular (blocksFrom quoted listed v stop fuel n hasEmpty isTight definitions).blocks
  | 0, _, _, _, _ => List.forall_mem_nil _
  | fuel + 1, n, hasEmpty, isTight, definitions => by
      rw [blocksFrom]
      split
      · exact List.forall_mem_nil _
      · dsimp only
        split
        · exact List.forall_mem_nil _
        · exact List.forall_mem_append.mpr
            ⟨View.allRectangular_readBlock hquoted hlisted v _ stop definitions,
              allRectangular_blocksFrom hquoted hlisted v stop fuel _ _ _ _⟩

theorem makesRectangular_readBlocks : ∀ depth : Nat, MakesRectangular (readBlocks depth)
  | 0 => makesRectangular_dropBlocks
  | 1 => fun v n stop definitions =>
      allRectangular_blocksFrom makesRectangular_dropBlocks makesRectangular_dropBlocks v stop
        (stop - n + 1) n false true definitions
  | depth + 2 => fun v n stop definitions =>
      allRectangular_blocksFrom (makesRectangular_readBlocks (depth + 1))
        (makesRectangular_readBlocks depth) v stop (stop - n + 1) n false true definitions

/-- In every table that is read from a source, each row has as many cells as there are columns. -/
theorem allRectangular_of_parse? {text : List Char} {blocks : List (Block (List Inline))}
    (h : parse? text = some blocks) : AllRectangular blocks := by
  obtain ⟨kept, hkept, h⟩ := Option.bind_eq_some_iff.mp h
  refine Block.allRectangular_of_mapAllM? h (Block.allRectangular_of_dropNotesFrom hkept ?_)
  exact makesRectangular_readBlocks maxContainers _ _ _ _

end LiveDeck.Markdown
