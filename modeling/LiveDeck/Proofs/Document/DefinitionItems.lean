import LiveDeck.Proofs.Document.Contents

/-! # The items of a definition list

The parts of a definition list are terms and definitions in any order.  Written as groups
(`partsOf`), each term comes before the definitions up to the next term, and every sequence of parts
is some definitions in front of such groups (`exists_eq_append_partsOf`).  The definitions in front
belong to no term; they are left out, and not even read.

Everything else is kept: the items of the list are the groups, one for one, each term and each
definition as what it is read as (`definitionList_keeps_groups`).  Two relations say what is read as
what: `PartReadsAs` for single parts, `ItemReadsAs` for groups.  On groups and items they are the
same (`forall₂_partReadsAs_partsOf_iff`), because a term is never read as a definition. -/

namespace LiveDeck

open Markdown (Inline Block)

/-! ### Groups -/

section groups

variable {α β : Type}

/-- The parts of a list with the given groups: each term, and behind it its definitions. -/
def partsOf (groups : List (α × List β)) : List (α ⊕ β) :=
  groups.flatMap fun group => .inl group.1 :: group.2.map .inr

theorem partsOf_cons (term : α) (definitions : List β) (groups : List (α × List β)) :
    partsOf ((term, definitions) :: groups) =
      .inl term :: (definitions.map .inr ++ partsOf groups) := rfl

theorem exists_eq_append_partsOf (parts : List (α ⊕ β)) :
    ∃ (lead : List β) (groups : List (α × List β)), parts = lead.map .inr ++ partsOf groups := by
  induction parts with
  | nil => exact ⟨[], [], rfl⟩
  | cons part rest ih =>
      obtain ⟨lead, groups, rfl⟩ := ih
      cases part with
      | inl term =>
          exact ⟨[], (term, lead) :: groups, rfl⟩
      | inr definition => exact ⟨definition :: lead, groups, rfl⟩

theorem head?_partsOf_ne (groups : List (α × List β)) (definition : β) :
    (partsOf groups).head? ≠ some (.inr definition) := by
  cases groups with
  | nil => nofun
  | cons group groups => nofun

theorem dropWhile_isRight_append_partsOf (lead : List β) (groups : List (α × List β)) :
    (lead.map .inr ++ partsOf groups : List (α ⊕ β)).dropWhile Sum.isRight = partsOf groups := by
  induction lead with
  | nil => exact Node.dropWhile_isRight_eq_self (head?_partsOf_ne groups)
  | cons definition lead ih => exact ih

theorem filterMap_getLeft?_map_inr (definitions : List β) :
    (definitions.map (Sum.inr : β → α ⊕ β)).filterMap Sum.getLeft? = [] := by
  induction definitions with
  | nil => rfl
  | cons definition definitions ih => exact ih

theorem map_fst_eq_filterMap_partsOf (groups : List (α × List β)) :
    groups.map Prod.fst = (partsOf groups).filterMap Sum.getLeft? := by
  induction groups with
  | nil => rfl
  | cons group groups ih =>
      obtain ⟨term, definitions⟩ := group
      have hterm : (Sum.inl term : α ⊕ β).getLeft? = some term := rfl
      rw [partsOf_cons, List.filterMap_cons_some hterm, List.filterMap_append,
        filterMap_getLeft?_map_inr, List.nil_append, List.map_cons, ih]

end groups

namespace Node

/-- Gathering gives back the definitions and the groups behind them. -/
theorem gather_append_partsOf (definitions : List (List Node))
    (items : List (List Node × List (List Node))) :
    gather (definitions.map .inr ++ partsOf items) = (definitions, items) := by
  induction items generalizing definitions with
  | nil =>
      induction definitions with
      | nil => rfl
      | cons blocks definitions ih =>
          rw [List.map_cons, List.cons_append, gather, ih]
  | cons item items ih =>
      obtain ⟨term, own⟩ := item
      induction definitions with
      | nil =>
          rw [List.map_nil, List.nil_append, partsOf_cons, gather, ih own]
      | cons blocks definitions ihDefinitions =>
          rw [List.map_cons, List.cons_append, gather, ihDefinitions]

theorem definitionItems_partsOf (items : List (List Node × List (List Node))) :
    definitionItems (partsOf items) = items := by
  have hgather := gather_append_partsOf [] items
  rw [List.map_nil, List.nil_append] at hgather
  rw [definitionItems, hgather]

/-! ### What is read -/

/-- What a term or a definition is read as. -/
inductive PartReadsAs : List Inline ⊕ List (Block (List Inline)) → List Node ⊕ List Node → Prop
  | term {inlines : List Inline} {nodes : List Node} :
      ofInlines inlines = .ok nodes → PartReadsAs (.inl inlines) (.inl nodes)
  | definition {blocks : List (Block (List Inline))} {nodes : List Node} :
      ofBlocks blocks = .ok nodes → PartReadsAs (.inr blocks) (.inr nodes)

/-- What a term with its definitions is read as. -/
structure ItemReadsAs (group : List Inline × List (List (Block (List Inline))))
    (item : List Node × List (List Node)) : Prop where
  term : ofInlines group.1 = .ok item.1
  definitions : List.Forall₂ (fun blocks nodes => ofBlocks blocks = .ok nodes) group.2 item.2

theorem ofParts_eq_ok_iff {parts : List (List Inline ⊕ List (Block (List Inline)))}
    {read : List (List Node ⊕ List Node)} :
    ofParts parts = .ok read ↔ List.Forall₂ PartReadsAs parts read := by
  induction parts generalizing read with
  | nil =>
      rw [List.forall₂_nil_left_iff, ofParts, Except.ok.injEq, eq_comm]
  | cons part rest ih =>
      rw [List.forall₂_cons_left_iff]
      constructor
      · intro h
        cases part with
        | inl term =>
            obtain ⟨first, hfirst, h⟩ := bind_eq_ok.mp h
            obtain ⟨others, hothers, h⟩ := bind_eq_ok.mp h
            cases h
            exact ⟨_, _, .term hfirst, ih.mp hothers, rfl⟩
        | inr blocks =>
            obtain ⟨first, hfirst, h⟩ := bind_eq_ok.mp h
            obtain ⟨others, hothers, h⟩ := bind_eq_ok.mp h
            cases h
            exact ⟨_, _, .definition hfirst, ih.mp hothers, rfl⟩
      · rintro ⟨first, others, hfirst, hothers, rfl⟩
        have hrest := ih.mpr hothers
        cases hfirst with
        | term hterm => exact bind_eq_ok.mpr ⟨_, hterm, bind_eq_ok.mpr ⟨_, hrest, rfl⟩⟩
        | definition hblocks => exact bind_eq_ok.mpr ⟨_, hblocks, bind_eq_ok.mpr ⟨_, hrest, rfl⟩⟩

theorem exists_forall₂_partReadsAs_iff {parts : List (List Inline ⊕ List (Block (List Inline)))} :
    (∃ read, List.Forall₂ PartReadsAs parts read) ↔
      ∀ part ∈ parts, ∃ read, PartReadsAs part read := by
  induction parts with
  | nil => simp
  | cons part rest ih =>
      rw [List.forall_mem_cons, ← ih]
      constructor
      · rintro ⟨read, hread⟩
        obtain ⟨first, others, hfirst, hothers, rfl⟩ := List.forall₂_cons_left_iff.mp hread
        exact ⟨⟨first, hfirst⟩, others, hothers⟩
      · rintro ⟨⟨first, hfirst⟩, others, hothers⟩
        exact ⟨first :: others, .cons hfirst hothers⟩

/-- What definitions in front of other parts are read as comes in front of what those are read
as. -/
theorem forall₂_partReadsAs_append {definitions : List (List (Block (List Inline)))}
    {rest : List (List Inline ⊕ List (Block (List Inline)))} {read : List (List Node ⊕ List Node)} :
    List.Forall₂ PartReadsAs (definitions.map .inr ++ rest) read ↔
      ∃ (nodes : List (List Node)) (others : List (List Node ⊕ List Node)),
        read = nodes.map .inr ++ others ∧
        List.Forall₂ (fun blocks nodes => ofBlocks blocks = .ok nodes) definitions nodes ∧
        List.Forall₂ PartReadsAs rest others := by
  induction definitions generalizing read with
  | nil =>
      constructor
      · intro h
        exact ⟨[], read, rfl, .nil, h⟩
      · rintro ⟨nodes, others, rfl, hnodes, hothers⟩
        cases hnodes
        exact hothers
  | cons blocks definitions ih =>
      constructor
      · intro h
        obtain ⟨first, tail, hfirst, htail, rfl⟩ := List.forall₂_cons_left_iff.mp h
        obtain ⟨nodes, others, rfl, hnodes, hothers⟩ := ih.mp htail
        cases hfirst with
        | definition hblocks => exact ⟨_ :: nodes, others, rfl, .cons hblocks hnodes, hothers⟩
      · rintro ⟨nodes, others, rfl, hnodes, hothers⟩
        cases hnodes with
        | cons hblocks hnodes =>
            exact .cons (.definition hblocks) (ih.mpr ⟨_, others, rfl, hnodes, hothers⟩)

/-- Groups are read as what items of the same shape write back. -/
theorem forall₂_partReadsAs_partsOf_iff
    {groups : List (List Inline × List (List (Block (List Inline))))}
    {read : List (List Node ⊕ List Node)} :
    List.Forall₂ PartReadsAs (partsOf groups) read ↔
      ∃ items, read = partsOf items ∧ List.Forall₂ ItemReadsAs groups items := by
  induction groups generalizing read with
  | nil =>
      constructor
      · intro h
        cases h
        exact ⟨[], rfl, .nil⟩
      · rintro ⟨items, rfl, hitems⟩
        cases hitems
        exact .nil
  | cons group groups ih =>
      obtain ⟨term, definitions⟩ := group
      rw [partsOf_cons, List.forall₂_cons_left_iff]
      constructor
      · rintro ⟨first, tail, hfirst, htail, rfl⟩
        obtain ⟨own, others, rfl, hown, hothers⟩ := forall₂_partReadsAs_append.mp htail
        obtain ⟨items, rfl, hitems⟩ := ih.mp hothers
        cases hfirst with
        | term hterm => exact ⟨(_, own) :: items, rfl, .cons ⟨hterm, hown⟩ hitems⟩
      · rintro ⟨items, rfl, hitems⟩
        cases hitems with
        | cons hitem hitems =>
            have hothers := ih.mpr ⟨_, rfl, hitems⟩
            exact ⟨_, _, .term hitem.term,
              forall₂_partReadsAs_append.mpr ⟨_, _, rfl, hitem.definitions, hothers⟩, rfl⟩

/-! ### The list -/

/-- The list that groups become, whatever definitions come before them. -/
theorem ofBlock_definitionList_eq_ok_iff {lead : List (List (Block (List Inline)))}
    {groups : List (List Inline × List (List (Block (List Inline))))} {nodes : List Node} :
    ofBlock (.definitionList (lead.map .inr ++ partsOf groups)) = .ok nodes ↔
      ∃ items, nodes = [.definitionList items] ∧ List.Forall₂ ItemReadsAs groups items := by
  have hlist : ofBlock (.definitionList (lead.map .inr ++ partsOf groups)) =
      ofListedParts (lead.map .inr ++ partsOf groups) >>= fun read =>
        .ok [.definitionList (definitionItems read)] := rfl
  rw [hlist, ofListedParts_eq, dropWhile_isRight_append_partsOf, bind_eq_ok]
  constructor
  · rintro ⟨read, hread, h⟩
    cases h
    obtain ⟨items, rfl, hitems⟩ := forall₂_partReadsAs_partsOf_iff.mp (ofParts_eq_ok_iff.mp hread)
    rw [definitionItems_partsOf]
    exact ⟨items, rfl, hitems⟩
  · rintro ⟨items, rfl, hitems⟩
    have hread := forall₂_partReadsAs_partsOf_iff.mpr ⟨items, rfl, hitems⟩
    refine ⟨partsOf items, ofParts_eq_ok_iff.mpr hread, ?_⟩
    rw [definitionItems_partsOf]

/-- The items of a definition list are its terms, each with the definitions up to the next term, in
order and without loss.  The parts are definitions that come before every term, and groups of a term
with its definitions.  The list is read if every part of the groups can be read; there is one group
for every term, and the items are what the groups are read as, so that the items written back are
what the parts are read as.  Only definitions before the first term are left out. -/
theorem definitionList_keeps_groups (parts : List (List Inline ⊕ List (Block (List Inline)))) :
    ∃ lead groups, parts = lead.map .inr ++ partsOf groups ∧
      ((∀ blocks, parts.head? ≠ some (.inr blocks)) → lead = []) ∧
      groups.map Prod.fst = parts.filterMap Sum.getLeft? ∧
      ((∃ nodes, ofBlock (.definitionList parts) = .ok nodes) ↔
        ∀ part ∈ partsOf groups, ∃ read, PartReadsAs part read) ∧
      ∀ nodes, ofBlock (.definitionList parts) = .ok nodes ↔
        ∃ items, nodes = [.definitionList items] ∧ List.Forall₂ ItemReadsAs groups items ∧
          List.Forall₂ PartReadsAs (partsOf groups) (partsOf items) := by
  obtain ⟨lead, groups, rfl⟩ := exists_eq_append_partsOf parts
  have hboth : ∀ {items}, List.Forall₂ ItemReadsAs groups items →
      List.Forall₂ PartReadsAs (partsOf groups) (partsOf items) :=
    fun hitems => forall₂_partReadsAs_partsOf_iff.mpr ⟨_, rfl, hitems⟩
  refine ⟨lead, groups, rfl, ?lead, ?terms, ?success, ?items⟩
  case lead =>
    intro hfirst
    cases lead with
    | nil => rfl
    | cons blocks lead => exact absurd rfl (hfirst blocks)
  case terms =>
    rw [List.filterMap_append, filterMap_getLeft?_map_inr, List.nil_append,
      map_fst_eq_filterMap_partsOf]
  case success =>
    rw [← exists_forall₂_partReadsAs_iff]
    constructor
    · rintro ⟨nodes, h⟩
      obtain ⟨items, _, hitems⟩ := ofBlock_definitionList_eq_ok_iff.mp h
      exact ⟨partsOf items, hboth hitems⟩
    · rintro ⟨read, hread⟩
      obtain ⟨items, _, hitems⟩ := forall₂_partReadsAs_partsOf_iff.mp hread
      exact ⟨_, ofBlock_definitionList_eq_ok_iff.mpr ⟨items, rfl, hitems⟩⟩
  case items =>
    intro nodes
    rw [ofBlock_definitionList_eq_ok_iff]
    constructor
    · rintro ⟨items, hnodes, hitems⟩
      exact ⟨items, hnodes, hitems, hboth hitems⟩
    · rintro ⟨items, hnodes, hitems, _⟩
      exact ⟨items, hnodes, hitems⟩

/-- A definition that cannot be read before the first term, two terms in a row, and a term with two
definitions. -/
example : ofBlock (.definitionList [.inr [.frontMatter []], .inl [.text "a".toList],
      .inl [.text "b".toList], .inr [.rule], .inr []]) =
    .ok [.definitionList [([.str "a"], []), ([.str "b"], [[.horizontalRule], []])]] := by rfl

end Node

end LiveDeck
