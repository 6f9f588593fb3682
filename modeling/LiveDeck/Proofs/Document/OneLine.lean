import Mathlib.Data.List.Forall2
import LiveDeck.Document.LineBreaks

/-! # What writing on one line does

`Node.allOnOneLine` is a normal form.  `allInlineParts` lists inline content at every depth to which
it is written on one line; a node has a line break of its own (`HasLineBreak`) if it is one, is raw
markup that is seen as one, or has the tag written out in its text.  `Becomes` says what a node
becomes: a break is a space, text has one space for each tag in it (`Text.Replaced`), what holds
inline content keeps its kind and everything else, with as many nodes inside, and all other nodes
stay.

Main statement (`Node.becomes_allOnOneLine`): no line break is left, what has none stays as it is,
and nothing else changes.  A space is no part of the tag, so that replacing one tag cannot make
another (`Text.Replaced.avoids`). -/

namespace LiveDeck

/-! ### Replacing -/

namespace Text

/-- Text with `new` for every occurrence of `pattern`: what stands before, between and behind the
occurrences is kept and has none. -/
def Replaced (pattern new s t : List Char) : Prop :=
  ∃ first others, s = first ++ others.flatMap (pattern ++ ·) ∧
    t = first ++ others.flatMap (new ++ ·) ∧ ∀ piece ∈ first :: others, ¬ pattern <:+: piece

variable {pattern new : List Char}

theorem replace_of_avoids {s : List Char} (h : ¬ pattern <:+: s) :
    replace pattern new s = s := by
  induction s with
  | nil => rfl
  | cons c s ih =>
      rw [List.infix_cons_iff, not_or] at h
      have hnone : ¬ (dropPrefix? pattern (c :: s)).isSome := by
        rw [Option.isSome_iff_exists]
        rintro ⟨rest, hrest⟩
        exact h.1 ⟨rest, (dropPrefix?_eq_some_iff.mp hrest).symm⟩
      rw [replace, replaceFrom, if_neg hnone]
      exact congrArg (c :: ·) (ih h.2)

/-- Replacing replaces every occurrence in what it has not dropped yet. -/
theorem replaced_replaceFrom (hpattern : pattern ≠ []) (count : Nat) (s : List Char) :
    Replaced pattern new (s.drop count) (replaceFrom pattern new count s) := by
  fun_induction replaceFrom pattern new count s with
  | case1 count =>
      rw [List.drop_nil]
      exact ⟨[], [], rfl, rfl, by simpa using hpattern⟩
  | case2 c s hfound ih =>
      obtain ⟨rest, hrest⟩ := Option.isSome_iff_exists.mp hfound
      rw [dropPrefix?_eq_some_iff] at hrest
      have hdrop : s.drop (pattern.length - 1) = rest := by
        have hlength := List.length_pos_iff.mpr hpattern
        have hall : (c :: s).drop (pattern.length - 1 + 1) = rest := by
          rw [Nat.sub_add_cancel hlength, hrest, List.drop_left]
        exact hall
      obtain ⟨first, others, hsplit, hreplaced, hpieces⟩ := ih
      refine ⟨[], first :: others, ?_, ?_, ?_⟩
      · rw [List.drop_zero, hrest, ← hdrop, hsplit]
        simp
      · rw [hreplaced]
        simp
      · exact List.forall_mem_cons.mpr ⟨fun h => hpattern (List.infix_nil.mp h), hpieces⟩
  | case3 c s hnone ih =>
      obtain ⟨first, others, hsplit, hreplaced, hpieces⟩ := ih
      rw [List.drop_zero] at hsplit ⊢
      refine ⟨c :: first, others, ?_, ?_, ?_⟩
      · rw [List.cons_append, ← hsplit]
      · rw [List.cons_append, ← hreplaced]
      · obtain ⟨hfirst, hothers⟩ := List.forall_mem_cons.mp hpieces
        refine List.forall_mem_cons.mpr ⟨?_, hothers⟩
        rw [List.infix_cons_iff, not_or]
        refine ⟨?_, hfirst⟩
        rintro ⟨rest, hrest⟩
        apply hnone
        rw [Option.isSome_iff_exists]
        refine ⟨rest ++ others.flatMap (pattern ++ ·), dropPrefix?_eq_some_iff.mpr ?_⟩
        rw [hsplit, ← List.cons_append, ← hrest, List.append_assoc]
  | case4 count c s ih => exact ih

theorem replaced_replace (hpattern : pattern ≠ []) (s : List Char) :
    Replaced pattern new s (replace pattern new s) :=
  replaced_replaceFrom hpattern 0 s

theorem infix_append_cons {c : Char} {before after : List Char} (hc : c ∉ pattern)
    (h : pattern <:+: before ++ c :: after) : pattern <:+: before ∨ pattern <:+: after := by
  have hnil : ∀ {part : List Char}, part <+: c :: after → c ∉ part → part = [] := by
    intro part hpart hnot
    cases part with
    | nil => rfl
    | cons d part =>
        obtain ⟨rfl, _⟩ := List.cons_prefix_cons.mp hpart
        exact absurd List.mem_cons_self hnot
  rcases List.infix_append_iff.mp h with h | h | ⟨start, rest, rfl, hstart, hrest⟩
  · exact .inl h
  · rcases List.infix_cons_iff.mp h with h | h
    · rw [hnil h hc]
      exact .inl List.nil_infix
    · exact .inr h
  · rw [List.mem_append, not_or] at hc
    rw [hnil hrest hc.2, List.append_nil]
    exact .inl hstart.isInfix

theorem Replaced.avoids {c : Char} {s t : List Char} (hc : c ∉ pattern)
    (h : Replaced pattern [c] s t) : ¬ pattern <:+: t := by
  obtain ⟨first, others, rfl, rfl, hpieces⟩ := h
  induction others generalizing first with
  | nil => simpa using hpieces
  | cons piece others ih =>
      obtain ⟨hfirst, hothers⟩ := List.forall_mem_cons.mp hpieces
      intro hinfix
      rw [List.flatMap_cons, List.append_assoc, List.singleton_append] at hinfix
      rcases infix_append_cons hc hinfix with h | h
      · exact hfirst h
      · exact ih piece hothers h

end Text

namespace Node

/-! ### Breaks and what becomes of them -/

/-- A node that is a line break, is seen as one, or has the tag written out in its text. -/
def HasLineBreak : Node → Prop
  | .lineBreak => True
  | .rawInline _ text => isLineBreakMarkup text = true
  | .str text => lineBreakTag <:+: text.toList
  | _ => False

/-- A node that stays as it is on one line: it holds no inline content, no text, and is no break. -/
def StaysOnOneLine : Node → Prop
  | .str _ | .styled _ _ | .quoted _ _ | .cite _ _ | .link _ _ _ | .image _ _ _ => False
  | node => ¬ node.HasLineBreak

mutual

/-- A node and the inline content in it, at every depth; notes and blocks are not opened. -/
def inlineParts : Node → List Node
  | .styled style inlines => .styled style inlines :: allInlineParts inlines
  | .quoted kind inlines => .quoted kind inlines :: allInlineParts inlines
  | .cite citations inlines => .cite citations inlines :: allInlineParts inlines
  | .link inlines url title => .link inlines url title :: allInlineParts inlines
  | .image inlines url title => .image inlines url title :: allInlineParts inlines
  | node => [node]

/-- Nodes in sequence and the inline content in them, at every depth. -/
def allInlineParts : List Node → List Node
  | [] => []
  | node :: rest => inlineParts node ++ allInlineParts rest

end

/-- What a node becomes on one line. -/
inductive Becomes : Node → Node → Prop
  | lineBreak : Becomes .lineBreak .space
  | markup {format text : String} : isLineBreakMarkup text = true →
      Becomes (.rawInline format text) .space
  | str {text written : String} : Text.Replaced lineBreakTag [' '] text.toList written.toList →
      Becomes (.str text) (.str written)
  | styled {inlines written : List Node} (style : Style) : List.Forall₂ Becomes inlines written →
      Becomes (.styled style inlines) (.styled style written)
  | quoted {inlines written : List Node} (kind : QuoteKind) : List.Forall₂ Becomes inlines written →
      Becomes (.quoted kind inlines) (.quoted kind written)
  | cite {inlines written : List Node} (citations : List String) :
      List.Forall₂ Becomes inlines written →
      Becomes (.cite citations inlines) (.cite citations written)
  | link {inlines written : List Node} (url title : String) : List.Forall₂ Becomes inlines written →
      Becomes (.link inlines url title) (.link written url title)
  | image {inlines written : List Node} (url title : String) :
      List.Forall₂ Becomes inlines written →
      Becomes (.image inlines url title) (.image written url title)
  | other {node : Node} : node.StaysOnOneLine → Becomes node node

/-! ### The normal form -/

mutual

theorem becomes_onOneLine : ∀ node : Node, Becomes node (onOneLine node)
  | .lineBreak => .lineBreak
  | .rawInline format text => by
      rw [onOneLine]
      split
      · exact .markup ‹_›
      · exact .other ‹_›
  | .str text => by
      refine .str ?_
      rw [String.toList_ofList]
      exact Text.replaced_replace (by decide) text.toList
  | .styled style inlines => .styled style (forall₂_becomes_allOnOneLine inlines)
  | .quoted kind inlines => .quoted kind (forall₂_becomes_allOnOneLine inlines)
  | .cite citations inlines => .cite citations (forall₂_becomes_allOnOneLine inlines)
  | .link inlines url title => .link url title (forall₂_becomes_allOnOneLine inlines)
  | .image inlines url title => .image url title (forall₂_becomes_allOnOneLine inlines)
  | .code _ _ => .other id
  | .space => .other id
  | .math _ _ => .other id
  | .note _ => .other id
  | .plain _ => .other id
  | .para _ => .other id
  | .codeBlock _ _ => .other id
  | .rawBlock _ _ => .other id
  | .blockQuote _ => .other id
  | .orderedList _ _ => .other id
  | .bulletList _ => .other id
  | .definitionList _ => .other id
  | .header _ _ => .other id
  | .horizontalRule => .other id
  | .table _ _ _ _ _ => .other id
  | .null => .other id

theorem forall₂_becomes_allOnOneLine : ∀ nodes : List Node,
    List.Forall₂ Becomes nodes (allOnOneLine nodes)
  | [] => .nil
  | node :: rest => .cons (becomes_onOneLine node) (forall₂_becomes_allOnOneLine rest)

end

mutual

/-- No line break is left in a node. -/
theorem unbroken_onOneLine : ∀ node : Node, ∀ part ∈ inlineParts (onOneLine node),
    ¬ part.HasLineBreak
  | .lineBreak => List.forall_mem_singleton.mpr id
  | .rawInline format text => by
      rw [onOneLine]
      split
      · exact List.forall_mem_singleton.mpr id
      · exact List.forall_mem_singleton.mpr ‹_›
  | .str text => by
      refine List.forall_mem_singleton.mpr ?_
      show ¬ lineBreakTag <:+: (String.ofList _).toList
      rw [String.toList_ofList]
      exact (Text.replaced_replace (by decide) text.toList).avoids (by decide)
  | .styled _ inlines => List.forall_mem_cons.mpr ⟨id, unbroken_allOnOneLine inlines⟩
  | .quoted _ inlines => List.forall_mem_cons.mpr ⟨id, unbroken_allOnOneLine inlines⟩
  | .cite _ inlines => List.forall_mem_cons.mpr ⟨id, unbroken_allOnOneLine inlines⟩
  | .link inlines _ _ => List.forall_mem_cons.mpr ⟨id, unbroken_allOnOneLine inlines⟩
  | .image inlines _ _ => List.forall_mem_cons.mpr ⟨id, unbroken_allOnOneLine inlines⟩
  | .code _ _ => List.forall_mem_singleton.mpr id
  | .space => List.forall_mem_singleton.mpr id
  | .math _ _ => List.forall_mem_singleton.mpr id
  | .note _ => List.forall_mem_singleton.mpr id
  | .plain _ => List.forall_mem_singleton.mpr id
  | .para _ => List.forall_mem_singleton.mpr id
  | .codeBlock _ _ => List.forall_mem_singleton.mpr id
  | .rawBlock _ _ => List.forall_mem_singleton.mpr id
  | .blockQuote _ => List.forall_mem_singleton.mpr id
  | .orderedList _ _ => List.forall_mem_singleton.mpr id
  | .bulletList _ => List.forall_mem_singleton.mpr id
  | .definitionList _ => List.forall_mem_singleton.mpr id
  | .header _ _ => List.forall_mem_singleton.mpr id
  | .horizontalRule => List.forall_mem_singleton.mpr id
  | .table _ _ _ _ _ => List.forall_mem_singleton.mpr id
  | .null => List.forall_mem_singleton.mpr id

theorem unbroken_allOnOneLine : ∀ nodes : List Node, ∀ part ∈ allInlineParts (allOnOneLine nodes),
    ¬ part.HasLineBreak
  | [] => List.forall_mem_nil _
  | node :: rest =>
      List.forall_mem_append.mpr ⟨unbroken_onOneLine node, unbroken_allOnOneLine rest⟩

end

mutual

/-- What has no line break stays as it is. -/
theorem onOneLine_eq_self : ∀ node : Node, (∀ part ∈ inlineParts node, ¬ part.HasLineBreak) →
    onOneLine node = node
  | .lineBreak, h => absurd trivial (h _ List.mem_cons_self)
  | .rawInline format text, h => if_neg (h _ List.mem_cons_self)
  | .str text, h => by
      have htag : ¬ lineBreakTag <:+: text.toList := h _ List.mem_cons_self
      rw [onOneLine, Text.replace_of_avoids htag, String.ofList_toList]
  | .styled style inlines, h =>
      congrArg (Node.styled style) (allOnOneLine_eq_self inlines (List.forall_mem_cons.mp h).2)
  | .quoted kind inlines, h =>
      congrArg (Node.quoted kind) (allOnOneLine_eq_self inlines (List.forall_mem_cons.mp h).2)
  | .cite citations inlines, h =>
      congrArg (Node.cite citations) (allOnOneLine_eq_self inlines (List.forall_mem_cons.mp h).2)
  | .link inlines url title, h =>
      congrArg (Node.link · url title) (allOnOneLine_eq_self inlines (List.forall_mem_cons.mp h).2)
  | .image inlines url title, h =>
      congrArg (Node.image · url title) (allOnOneLine_eq_self inlines (List.forall_mem_cons.mp h).2)
  | .code _ _, _ => rfl
  | .space, _ => rfl
  | .math _ _, _ => rfl
  | .note _, _ => rfl
  | .plain _, _ => rfl
  | .para _, _ => rfl
  | .codeBlock _ _, _ => rfl
  | .rawBlock _ _, _ => rfl
  | .blockQuote _, _ => rfl
  | .orderedList _ _, _ => rfl
  | .bulletList _, _ => rfl
  | .definitionList _, _ => rfl
  | .header _ _, _ => rfl
  | .horizontalRule, _ => rfl
  | .table _ _ _ _ _, _ => rfl
  | .null, _ => rfl

theorem allOnOneLine_eq_self : ∀ nodes : List Node,
    (∀ part ∈ allInlineParts nodes, ¬ part.HasLineBreak) → allOnOneLine nodes = nodes
  | [], _ => rfl
  | node :: rest, h => by
      obtain ⟨hnode, hrest⟩ := List.forall_mem_append.mp h
      rw [allOnOneLine, onOneLine_eq_self node hnode, allOnOneLine_eq_self rest hrest]

end

/-- Inline content written on one line has no line break at any depth.  It is what it was if and
only if that had none, so that writing it on one line again changes nothing.  Each node becomes what
it is to become: breaks are spaces, text has a space for each tag, and everything else is kept:
the number of nodes at each level, their kinds, quotation marks, citations, addresses and titles. -/
theorem becomes_allOnOneLine (nodes : List Node) :
    (∀ part ∈ allInlineParts (allOnOneLine nodes), ¬ part.HasLineBreak) ∧
      (allOnOneLine nodes = nodes ↔ ∀ part ∈ allInlineParts nodes, ¬ part.HasLineBreak) ∧
      allOnOneLine (allOnOneLine nodes) = allOnOneLine nodes ∧
      List.Forall₂ Becomes nodes (allOnOneLine nodes) := by
  have hunbroken := unbroken_allOnOneLine nodes
  refine ⟨hunbroken, ⟨?_, allOnOneLine_eq_self nodes⟩, allOnOneLine_eq_self _ hunbroken,
    forall₂_becomes_allOnOneLine nodes⟩
  intro hsame
  rwa [hsame] at hunbroken

/-- Breaks in a quotation and in the description of an image; what is left where a tag is taken out
of another one is no tag. -/
example : allOnOneLine [.quoted .double [.str "a<b<br>r>", .rawInline "tex" " <BR />"],
      .image [.lineBreak] "u" "<br>", .note [.lineBreak]] =
    [.quoted .double [.str "a<b r>", .space], .image [.space] "u" "<br>", .note [.lineBreak]] := by
  rfl

end Node

end LiveDeck
