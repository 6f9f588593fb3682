import LiveDeck.Code.Highlight
import LiveDeck.Document.LineBreaks
import LiveDeck.Document.PlainText
import LiveDeck.Document.Slides

/-! # Shapes of documents

The shape of a document is the document without what its author may write freely: the text of
words, addresses and titles, all text in the description of an image, and the code of blocks that
name no language.  Two documents of one shape differ in nothing else.

`AlikeUpTo view` relates two computations that fail for one reason, or succeed with results that are
equal in a view; it is preserved by sequencing (`AlikeUpTo.bind`).  Neither taking the shape nor
writing on one line decides whether a description is text (`alike_plainTexts_shapes`,
`alike_plainTexts_allOnOneLine`). -/

namespace LiveDeck

/-! ### Results that look alike -/

section alike

variable {ε α β γ δ : Type}

/-- Both fail for the same reason, or both succeed and the results are equal in the view. -/
def AlikeUpTo (view : α → γ) (first second : Except ε α) : Prop :=
  first.map view = second.map view

variable {view : α → γ} {first second third : Except ε α}

theorem AlikeUpTo.symm (h : AlikeUpTo view first second) : AlikeUpTo view second first := Eq.symm h

theorem AlikeUpTo.trans (h : AlikeUpTo view first second) (h' : AlikeUpTo view second third) :
    AlikeUpTo view first third := Eq.trans h h'

theorem alikeUpTo_ok {a b : α} (h : view a = view b) :
    AlikeUpTo view (.ok a : Except ε α) (.ok b) := congrArg Except.ok h

theorem AlikeUpTo.cases (h : AlikeUpTo view first second) :
    (∃ cause, first = .error cause ∧ second = .error cause) ∨
      ∃ a b, first = .ok a ∧ second = .ok b ∧ view a = view b := by
  cases first with
  | error cause =>
      cases second with
      | error other =>
          cases h
          exact Or.inl ⟨cause, rfl, rfl⟩
      | ok b => cases h
  | ok a =>
      cases second with
      | error other => cases h
      | ok b => exact Or.inr ⟨a, b, rfl, rfl, Except.ok.inj h⟩

theorem AlikeUpTo.bind {result : β → δ} {next other : α → Except ε β}
    (h : AlikeUpTo view first second)
    (hnext : ∀ a b, view a = view b → AlikeUpTo result (next a) (other b)) :
    AlikeUpTo result (first >>= next) (second >>= other) := by
  rcases h.cases with ⟨cause, rfl, rfl⟩ | ⟨a, b, rfl, rfl, hview⟩
  · rfl
  · exact hnext a b hview

theorem AlikeUpTo.map {result : β → δ} {f g : α → β} (h : AlikeUpTo view first second)
    (hfg : ∀ a b, view a = view b → result (f a) = result (g b)) :
    AlikeUpTo result (first >>= fun a => .ok (f a)) (second >>= fun b => .ok (g b)) :=
  h.bind fun a b hview => alikeUpTo_ok (hfg a b hview)

end alike

/-! ### Shapes -/

/-- Whether a class of a code block names a language. -/
def Attr.namesLanguage (attr : Attr) : Bool :=
  attr.classes.any fun name => (Code.lexer? name).isSome

namespace Node

mutual

/-- The shape of a node; in a description all text counts as free. -/
def shape (inDescription : Bool) : Node → Node
  | .str _ => .str ""
  | .styled style inlines => .styled style (shapes inDescription inlines)
  | .quoted kind inlines => .quoted kind (shapes inDescription inlines)
  | .cite citations inlines => .cite citations (shapes inDescription inlines)
  | .code attr text => .code attr (if inDescription then "" else text)
  | .space => .space
  | .lineBreak => .lineBreak
  | .math kind text => .math kind (if inDescription then "" else text)
  | .rawInline format text => .rawInline format (if inDescription then "" else text)
  | .link inlines _ _ => .link (shapes inDescription inlines) "" ""
  | .image inlines _ _ => .image (shapes true inlines) "" ""
  | .note blocks => .note (shapes inDescription blocks)
  | .plain inlines => .plain (shapes inDescription inlines)
  | .para inlines => .para (shapes inDescription inlines)
  | .codeBlock attr text =>
    .codeBlock attr (if inDescription || !attr.namesLanguage then "" else text)
  | .rawBlock format text => .rawBlock format (if inDescription then "" else text)
  | .blockQuote blocks => .blockQuote (shapes inDescription blocks)
  | .orderedList items start => .orderedList (groupShapes inDescription items) start
  | .bulletList items => .bulletList (groupShapes inDescription items)
  | .definitionList items => .definitionList (definitionShapes inDescription items)
  | .header level inlines => .header level (shapes inDescription inlines)
  | .horizontalRule => .horizontalRule
  | .table caption alignments widths headings rows =>
    .table (shapes inDescription caption) alignments widths (groupShapes inDescription headings)
      (rowShapes inDescription rows)
  | .null => .null

/-- The shapes of nodes in sequence. -/
def shapes (inDescription : Bool) : List Node → List Node
  | [] => []
  | node :: rest => shape inDescription node :: shapes inDescription rest

/-- The shapes of list items, of definitions, or of the cells of a row. -/
def groupShapes (inDescription : Bool) : List (List Node) → List (List Node)
  | [] => []
  | nodes :: rest => shapes inDescription nodes :: groupShapes inDescription rest

/-- The shapes of terms with their definitions. -/
def definitionShapes (inDescription : Bool) :
    List (List Node × List (List Node)) → List (List Node × List (List Node))
  | [] => []
  | (term, definitions) :: rest =>
    (shapes inDescription term, groupShapes inDescription definitions) ::
      definitionShapes inDescription rest

/-- The shapes of the rows of a table. -/
def rowShapes (inDescription : Bool) : List (List (List Node)) → List (List (List Node))
  | [] => []
  | cells :: rest => groupShapes inDescription cells :: rowShapes inDescription rest

end

theorem shapes_eq_map (inDescription : Bool) (nodes : List Node) :
    shapes inDescription nodes = nodes.map (shape inDescription) := by
  induction nodes with
  | nil => rfl
  | cons node nodes ih => rw [shapes, ih, List.map_cons]

theorem isHeader_shape (inDescription : Bool) (node : Node) :
    (shape inDescription node).isHeader = node.isHeader := by
  cases node <;> rfl

end Node

/-- The shape of a document. -/
def Document.shape (doc : Document) : Document where
  title := Node.shapes false doc.title
  authors := doc.authors.map (Node.shapes false)
  date := Node.shapes false doc.date
  blocks := Node.shapes false doc.blocks

theorem slidesFrom_shape (first : Node) (rest : List Node) :
    slidesFrom (first.shape false) (Node.shapes false rest) =
      (slidesFrom first rest).map (Node.shapes false) := by
  induction rest generalizing first with
  | nil => rfl
  | cons block rest ih =>
      rw [Node.shapes, slidesFrom, slidesFrom, Node.isHeader_shape, ih]
      split
      · rfl
      · cases slidesFrom block rest with
        | nil => rfl
        | cons group groups => rfl

theorem slides_shapes (blocks : List Node) :
    slides (Node.shapes false blocks) = (slides blocks).map (Node.shapes false) := by
  cases blocks with
  | nil => rfl
  | cons first rest => exact slidesFrom_shape first rest

/-! ### Descriptions -/

namespace Node

/-- Whether nodes can be read as text, and if not, why. -/
abbrev SameFault (first second : Except NoInlines String) : Prop :=
  AlikeUpTo (fun _ => ()) first second

theorem SameFault.append {first second others rest : Except NoInlines String}
    (h : SameFault first second) (hrest : SameFault others rest) :
    SameFault (do let a ← first; let b ← others; .ok (a ++ b))
      (do let a ← second; let b ← rest; .ok (a ++ b)) :=
  h.bind fun _ _ _ => hrest.map fun _ _ _ => rfl

theorem SameFault.quoted {first second : Except NoInlines String} (kind : QuoteKind)
    (h : SameFault first second) :
    SameFault (do let text ← first; .ok (kind.plainMark ++ text ++ kind.plainMark))
      (do let text ← second; .ok (kind.plainMark ++ text ++ kind.plainMark)) :=
  h.map fun _ _ _ => rfl

mutual

/-- Taking the shape of a node keeps whether it can be read as text. -/
theorem alike_plainText_shape (inDescription : Bool) : ∀ node : Node,
    SameFault (plainText (shape inDescription node)) (plainText node)
  | .str _ => rfl
  | .styled _ inlines => alike_plainTexts_shapes inDescription inlines
  | .quoted kind inlines => (alike_plainTexts_shapes inDescription inlines).quoted kind
  | .cite _ inlines => alike_plainTexts_shapes inDescription inlines
  | .code _ _ => rfl
  | .space => rfl
  | .lineBreak => rfl
  | .math _ _ => rfl
  | .rawInline _ _ => rfl
  | .link inlines _ _ => alike_plainTexts_shapes inDescription inlines
  | .image inlines _ _ => alike_plainTexts_shapes true inlines
  | .note _ => rfl
  | .plain inlines => alike_plainTexts_shapes inDescription inlines
  | .para inlines => alike_plainTexts_shapes inDescription inlines
  | .codeBlock _ _ => rfl
  | .rawBlock _ _ => rfl
  | .blockQuote _ => rfl
  | .orderedList _ _ => rfl
  | .bulletList _ => rfl
  | .definitionList _ => rfl
  | .header _ inlines => alike_plainTexts_shapes inDescription inlines
  | .horizontalRule => rfl
  | .table _ _ _ _ _ => rfl
  | .null => rfl

theorem alike_plainTexts_shapes (inDescription : Bool) : ∀ nodes : List Node,
    SameFault (plainTexts (shapes inDescription nodes)) (plainTexts nodes)
  | [] => rfl
  | node :: rest =>
      (alike_plainText_shape inDescription node).append (alike_plainTexts_shapes inDescription rest)

end

mutual

/-- Writing a node on one line keeps whether it can be read as text. -/
theorem alike_plainText_onOneLine : ∀ node : Node,
    SameFault (plainText (onOneLine node)) (plainText node)
  | .lineBreak => rfl
  | .rawInline format text => by
      rw [onOneLine]
      split
      · rfl
      · rfl
  | .str _ => rfl
  | .styled _ inlines => alike_plainTexts_allOnOneLine inlines
  | .quoted kind inlines => (alike_plainTexts_allOnOneLine inlines).quoted kind
  | .cite _ inlines => alike_plainTexts_allOnOneLine inlines
  | .link inlines _ _ => alike_plainTexts_allOnOneLine inlines
  | .image inlines _ _ => alike_plainTexts_allOnOneLine inlines
  | .code _ _ => rfl
  | .space => rfl
  | .math _ _ => rfl
  | .note _ => rfl
  | .plain _ => rfl
  | .para _ => rfl
  | .codeBlock _ _ => rfl
  | .rawBlock _ _ => rfl
  | .blockQuote _ => rfl
  | .orderedList _ _ => rfl
  | .bulletList _ => rfl
  | .definitionList _ => rfl
  | .header _ _ => rfl
  | .horizontalRule => rfl
  | .table _ _ _ _ _ => rfl
  | .null => rfl

theorem alike_plainTexts_allOnOneLine : ∀ nodes : List Node,
    SameFault (plainTexts (allOnOneLine nodes)) (plainTexts nodes)
  | [] => rfl
  | node :: rest => (alike_plainText_onOneLine node).append (alike_plainTexts_allOnOneLine rest)

end

end Node

end LiveDeck
