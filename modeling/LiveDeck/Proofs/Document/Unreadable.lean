import Mathlib
import LiveDeck.Deck.Fault
import LiveDeck.Proofs.Page.Offences

/-! # What keeps a source from being read

A source is no document for one of three reasons: its elements do not nest, the front matter at its
start gives no metadata, or it holds something that has no counterpart in a document.
`Document.hindrances` lists them in the order in which they are met: what is wrong with the front
matter, then everything without a counterpart in the blocks, the title, the authors and the date.
The list goes on where reading stops.

`FrontMatterError.Afflicts` says when front matter gives no metadata.  Title and date may be values
of any type, and so may authors, except that a point in time is taken for a collection; but nothing
is shown of a value that holds a whole number of too many digits.

Reading stops at the first hindrance (`stopsAt_read`), so `read_iff` says exactly which sources are
documents and what is reported of the others.  Not every report is that of a malformed source
(`kind_eq_readerError_iff`): `read_of_date_as_author` is front matter that is a mapping and still
ends in another kind of error. -/

namespace LiveDeck

open Markdown (Inline Block)

/-! ### Computations that stop -/

section stopsAt

variable {ε δ α β : Type} {offences : List ε} {result : Except ε α}

theorem StopsAt.exceptMap (h : StopsAt offences result) (f : α → β) :
    StopsAt offences (result.map f) := by
  cases offences with
  | nil =>
      obtain ⟨value, rfl⟩ := h
      exact ⟨f value, rfl⟩
  | cons first rest =>
      have hresult : result = .error first := h
      rw [hresult]
      exact rfl

theorem StopsAt.mapError (h : StopsAt offences result) (f : ε → δ) :
    StopsAt (offences.map f) (result.mapError f) := by
  cases offences with
  | nil =>
      obtain ⟨value, rfl⟩ := h
      exact ⟨value, rfl⟩
  | cons first rest =>
      have hresult : result = .error first := h
      rw [hresult]
      exact rfl

theorem StopsAt.mapM {f : α → List ε} {g : α → Except ε β} (h : ∀ x, StopsAt (f x) (g x)) :
    ∀ xs : List α, StopsAt (xs.flatMap f) (xs.mapM g)
  | [] => stopsAt_ok _
  | x :: xs => by
      rw [List.flatMap_cons, List.mapM_cons]
      exact (h x).bind fun _ => (StopsAt.mapM h xs).map _

end stopsAt

/-! ### What has no counterpart -/

mutual

/-- What has no counterpart in an inline element. -/
def Markdown.Inline.gaps : Inline → List NoCounterpart
  | .escaped _ => [.escapedText]
  | .emphasis children => Inline.allGaps children
  | .strong children => Inline.allGaps children
  | .strike children => Inline.allGaps children
  | .link _ children => Inline.allGaps children
  | .image _ children => Inline.allGaps children
  | _ => []

/-- What has no counterpart in inline elements. -/
def Markdown.Inline.allGaps : List Inline → List NoCounterpart
  | [] => []
  | inline :: rest => inline.gaps ++ Inline.allGaps rest

end

mutual

/-- What has no counterpart in a block; footnotes have one wherever they are referred to. -/
def Markdown.Block.gaps : Block (List Inline) → List NoCounterpart
  | .frontMatter _ => [.frontMatter]
  | .paragraph _ content => Inline.allGaps content
  | .heading _ content => Inline.allGaps content
  | .quote blocks => Block.allGaps blocks
  | .bulletList items => Block.itemsGaps items
  | .orderedList _ items => Block.itemsGaps items
  | .definitionList parts => Block.listedGaps parts
  | .table columns rows =>
    (columns.flatMap fun column => Inline.allGaps column.2) ++
      rows.flatMap fun row => row.flatMap Inline.allGaps
  | _ => []

/-- What has no counterpart in blocks. -/
def Markdown.Block.allGaps : List (Block (List Inline)) → List NoCounterpart
  | [] => []
  | block :: rest => block.gaps ++ Block.allGaps rest

/-- What has no counterpart in the items of a list. -/
def Markdown.Block.itemsGaps : List (List (Block (List Inline))) → List NoCounterpart
  | [] => []
  | blocks :: rest => Block.allGaps blocks ++ Block.itemsGaps rest

/-- What has no counterpart in terms and definitions. -/
def Markdown.Block.partsGaps : List (List Inline ⊕ List (Block (List Inline))) → List NoCounterpart
  | [] => []
  | .inl term :: rest => Inline.allGaps term ++ Block.partsGaps rest
  | .inr blocks :: rest => Block.allGaps blocks ++ Block.partsGaps rest

/-- What has no counterpart in terms and definitions from the first term on. -/
def Markdown.Block.listedGaps : List (List Inline ⊕ List (Block (List Inline))) → List NoCounterpart
  | [] => []
  | .inl term :: rest => Inline.allGaps term ++ Block.partsGaps rest
  | .inr _ :: rest => Block.listedGaps rest

end

namespace Node

mutual

theorem stopsAt_ofInline : ∀ inline : Inline, StopsAt inline.gaps (ofInline inline)
  | .text _ => stopsAt_ok _
  | .escaped _ => stopsAt_error _
  | .softBreak => stopsAt_ok _
  | .hardBreak => stopsAt_ok _
  | .emphasis children => (stopsAt_ofInlines children).map _
  | .strong children => (stopsAt_ofInlines children).map _
  | .strike children => (stopsAt_ofInlines children).map _
  | .code _ _ => stopsAt_ok _
  | .html _ => stopsAt_ok _
  | .link _ children => (stopsAt_ofInlines children).map _
  | .image _ children => (stopsAt_ofInlines children).map _
  | .math _ => stopsAt_ok _
  | .footnoteReference => stopsAt_ok _

theorem stopsAt_ofInlines : ∀ inlines : List Inline,
    StopsAt (Inline.allGaps inlines) (ofInlines inlines)
  | [] => stopsAt_ok _
  | inline :: rest => (stopsAt_ofInline inline).bind fun _ => (stopsAt_ofInlines rest).map _

end

theorem stopsAt_ofTable (columns : List (Alignment × List Inline))
    (rows : List (List (List Inline))) :
    StopsAt (Block.gaps (.table columns rows)) (ofTable columns rows) := by
  have hcell : ∀ content : List Inline, StopsAt (Inline.allGaps content)
      ((ofInlines content).map fun nodes => [Node.plain nodes]) :=
    fun content => (stopsAt_ofInlines content).exceptMap _
  rw [Block.gaps]
  exact (StopsAt.mapM (fun column => hcell column.2) columns).bind fun _ =>
    (StopsAt.mapM (StopsAt.mapM hcell) rows).map _

mutual

theorem stopsAt_ofBlock : ∀ block : Block (List Inline), StopsAt block.gaps (ofBlock block)
  | .frontMatter _ => stopsAt_error _
  | .paragraph true content => (stopsAt_ofInlines content).map _
  | .paragraph false content => (stopsAt_ofInlines content).map _
  | .heading _ content => (stopsAt_ofInlines content).map _
  | .fence _ _ => stopsAt_ok _
  | .indentedCode _ => stopsAt_ok _
  | .html _ => stopsAt_ok _
  | .quote blocks => (stopsAt_ofBlocks blocks).map _
  | .bulletList items => (stopsAt_ofItems items).map _
  | .orderedList _ items => (stopsAt_ofItems items).map _
  | .definitionList parts => (stopsAt_ofListedParts parts).map _
  | .rule => stopsAt_ok _
  | .table columns rows => (stopsAt_ofTable columns rows).map _
  | .math _ => stopsAt_ok _
  | .footnote _ => stopsAt_ok _

theorem stopsAt_ofBlocks : ∀ blocks : List (Block (List Inline)),
    StopsAt (Block.allGaps blocks) (ofBlocks blocks)
  | [] => stopsAt_ok _
  | block :: rest => (stopsAt_ofBlock block).bind fun _ => (stopsAt_ofBlocks rest).map _

theorem stopsAt_ofItems : ∀ items : List (List (Block (List Inline))),
    StopsAt (Block.itemsGaps items) (ofItems items)
  | [] => stopsAt_ok _
  | blocks :: rest => (stopsAt_ofBlocks blocks).bind fun _ => (stopsAt_ofItems rest).map _

theorem stopsAt_ofParts : ∀ parts : List (List Inline ⊕ List (Block (List Inline))),
    StopsAt (Block.partsGaps parts) (ofParts parts)
  | [] => stopsAt_ok _
  | .inl term :: rest => (stopsAt_ofInlines term).bind fun _ => (stopsAt_ofParts rest).map _
  | .inr blocks :: rest => (stopsAt_ofBlocks blocks).bind fun _ => (stopsAt_ofParts rest).map _

theorem stopsAt_ofListedParts : ∀ parts : List (List Inline ⊕ List (Block (List Inline))),
    StopsAt (Block.listedGaps parts) (ofListedParts parts)
  | [] => stopsAt_ok _
  | .inl term :: rest => (stopsAt_ofInlines term).bind fun _ => (stopsAt_ofParts rest).map _
  | .inr _ :: rest => stopsAt_ofListedParts rest

end

end Node

/-! ### Front matter -/

namespace Metadata

open Yaml (Value)

/-- Whether a field that is there and not empty holds a number that is too long to be shown. -/
def isLongField (name : String) (entries : List (Value × Value)) : Bool :=
  (Value.entry? name entries).any fun value => !value.isMissing && value.holdsLong

/-- A number that is too long to be shown is met in the title, in an author, or in the date; the
date is not looked at if there is no list of authors. -/
def HasLongNumber (entries : List (Value × Value)) : Prop :=
  isLongField "title" entries = true ∨ ∃ items, authorItems (authorsValue entries) = .ok items ∧
    (items.any Value.holdsLong = true ∨ isLongField "date" entries = true)

end Metadata

/-- Why front matter with the given content gives no metadata: it has no value, a value that is not
missing and no mapping, or a mapping in which a point in time stands for the authors or a number is
too long to be shown. -/
inductive FrontMatterError.Afflicts (content : List Char) : FrontMatterError → Prop
  | noValue {cause : Yaml.Fault} :
      Yaml.load content = .error cause → Afflicts content (.noValue content cause)
  | notMapping {value : Yaml.Value} :
      Yaml.load content = .ok value → (∀ entries, value ≠ .map entries) →
      value.isMissing = false → Afflicts content .notMapping
  | notIterable {entries : List (Yaml.Value × Yaml.Value)} {stamp : Yaml.Timestamp} :
      Yaml.load content = .ok (.map entries) → Metadata.isLongField "title" entries = false →
      Metadata.authorsValue entries = .stamp stamp → Afflicts content (.notIterable stamp.typeName)
  | longNumber {entries : List (Yaml.Value × Yaml.Value)} :
      Yaml.load content = .ok (.map entries) → Metadata.HasLongNumber entries →
      Afflicts content .longNumber

namespace Metadata

open Yaml (Value)

/-- The error of a number that is too long, if there is one. -/
def longNumbers (isLong : Bool) : List FrontMatterError := if isLong then [.longNumber] else []

theorem exists_shown? {value : Value} (h : value.holdsLong = false) :
    ∃ text, value.shown? = some text := by
  unfold Value.shown?
  rw [h, if_neg Bool.false_ne_true]
  split <;> exact ⟨_, rfl⟩

theorem stopsAt_valueText (value : Value) :
    StopsAt (longNumbers value.holdsLong) (valueText value) := by
  unfold valueText
  cases hlong : value.holdsLong with
  | true =>
      have hnone : value.shown? = none := by
        unfold Value.shown?
        exact if_pos hlong
      rw [hnone]
      exact stopsAt_error _
  | false =>
      obtain ⟨text, htext⟩ := exists_shown? hlong
      rw [htext]
      exact stopsAt_ok _

theorem stopsAt_fieldText (name : String) (entries : List (Value × Value)) :
    StopsAt (longNumbers (isLongField name entries)) (fieldText (Value.entry? name entries)) := by
  unfold isLongField fieldText
  cases Value.entry? name entries with
  | none => exact stopsAt_ok _
  | some value =>
      dsimp only [Option.any_some]
      cases value.isMissing with
      | true => exact stopsAt_ok _
      | false => exact stopsAt_valueText value

theorem authorItems_eq_error_iff {value : Value} {cause : FrontMatterError} :
    authorItems value = .error cause ↔
      ∃ stamp, value = .stamp stamp ∧ cause = .notIterable stamp.typeName := by
  cases value with
  | stamp stamp =>
      constructor
      · intro h
        cases h
        exact ⟨stamp, rfl, rfl⟩
      · rintro ⟨other, hvalue, rfl⟩
        cases hvalue
        rfl
  | _ =>
      constructor
      · intro h
        cases h
      · rintro ⟨stamp, hvalue, _⟩
        cases hvalue

theorem head?_longNumbers_append (isLong : Bool) (rest : List FrontMatterError)
    (cause : FrontMatterError) : (longNumbers isLong ++ rest).head? = some cause ↔
      isLong = true ∧ cause = .longNumber ∨ isLong = false ∧ rest.head? = some cause := by
  cases isLong <;> simp [longNumbers, eq_comm]

theorem head?_flatMap_longNumbers (items : List Value) (rest : List FrontMatterError)
    (cause : FrontMatterError) :
    ((items.flatMap fun item => longNumbers item.holdsLong) ++ rest).head? = some cause ↔
      items.any Value.holdsLong = true ∧ cause = .longNumber ∨
        items.any Value.holdsLong = false ∧ rest.head? = some cause := by
  induction items with
  | nil => simp
  | cons item items ih =>
      rw [List.flatMap_cons, List.append_assoc, head?_longNumbers_append, ih, List.any_cons]
      cases item.holdsLong <;> simp

/-- What is wrong with the authors of a mapping, and then with its date. -/
def faultsFromAuthors (entries : List (Value × Value)) : List FrontMatterError :=
  match authorItems (authorsValue entries) with
  | .ok items =>
    (items.flatMap fun item => longNumbers item.holdsLong) ++
      longNumbers (isLongField "date" entries)
  | .error cause => [cause]

theorem stopsAt_ofEntries (entries : List (Value × Value)) :
    StopsAt (longNumbers (isLongField "title" entries) ++ faultsFromAuthors entries)
      (ofEntries entries) := by
  refine (stopsAt_fieldText "title" entries).bind fun title => ?_
  unfold faultsFromAuthors
  cases authorItems (authorsValue entries) with
  | error cause => exact stopsAt_error _
  | ok items =>
      exact (StopsAt.mapM stopsAt_valueText items).bind fun _ =>
        (stopsAt_fieldText "date" entries).map _

/-- A mapping that gives no metadata, and why. -/
theorem ofEntries_eq_error_iff {entries : List (Value × Value)} {cause : FrontMatterError} :
    ofEntries entries = .error cause ↔
      (isLongField "title" entries = false ∧ ∃ stamp, authorsValue entries = .stamp stamp ∧
          cause = .notIterable stamp.typeName) ∨
        HasLongNumber entries ∧ cause = .longNumber := by
  rw [(stopsAt_ofEntries entries).error_iff, head?_longNumbers_append]
  unfold HasLongNumber faultsFromAuthors
  cases hitems : authorItems (authorsValue entries) with
  | error other =>
      obtain ⟨stamp, hstamp, rfl⟩ := authorItems_eq_error_iff.mp hitems
      have hcause : ([FrontMatterError.notIterable stamp.typeName].head? = some cause) ↔
          ∃ other, authorsValue entries = .stamp other ∧ cause = .notIterable other.typeName := by
        rw [hstamp]
        constructor
        · intro h
          exact ⟨stamp, rfl, (Option.some.inj h).symm⟩
        · rintro ⟨other, hother, rfl⟩
          cases hother
          rfl
      rw [hcause, or_comm]
      simp
  | ok items =>
      have hstamp : ∀ stamp, authorsValue entries ≠ .stamp stamp := by
        intro stamp hstamp
        cases hitems.symm.trans (authorItems_eq_error_iff.mpr ⟨stamp, hstamp, rfl⟩)
      have hdate := head?_longNumbers_append (isLongField "date" entries) [] cause
      rw [List.append_nil] at hdate
      rw [head?_flatMap_longNumbers, hdate]
      have hothers : ∀ P : List Value → Prop,
          (∃ others, (Except.ok items : Except FrontMatterError _) = .ok others ∧ P others) ↔
            P items := by
        intro P
        constructor
        · rintro ⟨others, hothers, hP⟩
          cases hothers
          exact hP
        · exact fun hP => ⟨items, rfl, hP⟩
      rw [hothers]
      generalize isLongField "title" entries = titleIsLong
      generalize items.any Value.holdsLong = authorIsLong
      generalize isLongField "date" entries = dateIsLong
      cases titleIsLong <;> cases authorIsLong <;> cases dateIsLong <;> simp [hstamp]

/-- Front matter that gives no metadata, and why. -/
theorem ofFrontMatter_eq_error_iff {content : List Char} {cause : FrontMatterError} :
    ofFrontMatter content = .error cause ↔ cause.Afflicts content := by
  unfold ofFrontMatter
  constructor
  · intro h
    split at h
    · rename_i fault hload
      cases h
      exact .noValue hload
    · rename_i entries hload
      obtain ⟨hshort, stamp, hstamp, rfl⟩ | ⟨hlong, rfl⟩ := ofEntries_eq_error_iff.mp h
      · exact .notIterable hload hshort hstamp
      · exact .longNumber hload hlong
    · rename_i value hmap hload
      split at h
      · cases h
      · rename_i hmissing
        cases h
        exact .notMapping hload hmap (by simpa using hmissing)
  · intro h
    cases h with
    | noValue hload => rw [hload]
    | notMapping hload hmap hmissing =>
        rw [hload]
        split
        · rename_i hother
          cases hother
        · rename_i entries hother
          exact absurd (Except.ok.inj hother) (hmap entries)
        · rename_i value _ hother
          cases hother
          rw [hmissing]
          rfl
    | notIterable hload hshort hstamp =>
        rw [hload]
        exact ofEntries_eq_error_iff.mpr (.inl ⟨hshort, _, hstamp, rfl⟩)
    | longNumber hload hlong =>
        rw [hload]
        exact ofEntries_eq_error_iff.mpr (.inr ⟨hlong, rfl⟩)

end Metadata

/-! ### Sources -/

namespace Document

/-- What keeps a metadata text from being inline content. -/
def textHindrances (text : List Char) : List ReadError :=
  if text.isEmpty then []
  else match Markdown.parseInline text with
    | .ok inlines => (Inline.allGaps inlines).map .noCounterpart
    | .error fault => [.inline fault]

/-- What keeps blocks with the given metadata from being a document. -/
def contentHindrances (metadata : Metadata) (blocks : List (Block (List Inline))) :
    List ReadError :=
  (Block.allGaps blocks).map .noCounterpart ++
    (textHindrances metadata.title ++
      (metadata.authors.flatMap textHindrances ++ textHindrances metadata.date))

/-- What keeps parsed blocks from being a document, given the metadata of the title block. -/
def parsedHindrances (fromTitle : Metadata) : List (Block (List Inline)) → List ReadError
  | .frontMatter content :: blocks =>
    match Metadata.ofFrontMatter content with
    | .ok metadata => contentHindrances metadata blocks
    | .error cause => [.frontMatter cause]
  | blocks => contentHindrances fromTitle blocks

/-- What keeps a source from being a document. -/
def hindrances (source : List Char) : List ReadError :=
  let (fromTitle, body) := TitleBlock.split source
  match Markdown.parse? body with
  | some parsed => parsedHindrances fromTitle.spelled parsed
  | none => [.inline .unbalanced]

theorem stopsAt_readText (text : List Char) : StopsAt (textHindrances text) (readText text) := by
  unfold textHindrances readText
  split
  · exact stopsAt_ok _
  · cases Markdown.parseInline text with
    | error fault => exact stopsAt_error _
    | ok inlines => exact (Node.stopsAt_ofInlines inlines).mapError _

/-- The document of blocks with the given metadata. -/
def ofContent (metadata : Metadata) (content : List (Block (List Inline))) :
    Except ReadError Document := do
  let blocks ← readBlocks content
  let title ← readText metadata.title
  let authors ← metadata.authors.mapM readText
  let date ← readText metadata.date
  .ok { title, authors, date, blocks }

theorem stopsAt_ofContent (metadata : Metadata) (content : List (Block (List Inline))) :
    StopsAt (contentHindrances metadata content) (ofContent metadata content) :=
  ((Node.stopsAt_ofBlocks content).mapError _).bind fun _ =>
    (stopsAt_readText metadata.title).bind fun _ =>
      (StopsAt.mapM stopsAt_readText metadata.authors).bind fun _ =>
        (stopsAt_readText metadata.date).map _

theorem stopsAt_parsed (fromTitle : Metadata) (parsed : List (Block (List Inline))) :
    StopsAt (parsedHindrances fromTitle parsed)
      (readMetadata fromTitle parsed >>= fun (metadata, content) =>
        ofContent metadata content) := by
  cases parsed with
  | nil => exact stopsAt_ofContent fromTitle []
  | cons block blocks =>
      cases block with
      | frontMatter content =>
          simp only [parsedHindrances, readMetadata]
          cases Metadata.ofFrontMatter content with
          | error cause => exact stopsAt_error _
          | ok metadata => exact stopsAt_ofContent metadata blocks
      | _ => exact stopsAt_ofContent fromTitle _

/-- Reading stops at the first hindrance. -/
theorem stopsAt_read (source : List Char) : StopsAt (hindrances source) (read source) := by
  unfold hindrances read
  dsimp only
  cases Markdown.parse? (TitleBlock.split source).2 with
  | none => exact stopsAt_error _
  | some parsed => exact stopsAt_parsed (TitleBlock.split source).1.spelled parsed

/-! ### What is reported of front matter -/

theorem frontMatter_notMem_textHindrances (text : List Char) (cause : FrontMatterError) :
    ReadError.frontMatter cause ∉ textHindrances text := by
  unfold textHindrances
  split
  · exact List.not_mem_nil
  · split
    · intro h
      obtain ⟨gap, _, hgap⟩ := List.mem_map.mp h
      cases hgap
    · intro h
      cases List.mem_singleton.mp h

theorem frontMatter_notMem_contentHindrances (metadata : Metadata)
    (blocks : List (Block (List Inline))) (cause : FrontMatterError) :
    ReadError.frontMatter cause ∉ contentHindrances metadata blocks := by
  unfold contentHindrances
  simp only [List.mem_append, not_or]
  refine ⟨?blocks, frontMatter_notMem_textHindrances _ _, ?authors,
    frontMatter_notMem_textHindrances _ _⟩
  case blocks =>
    intro h
    obtain ⟨gap, _, hgap⟩ := List.mem_map.mp h
    cases hgap
  case authors =>
    intro h
    obtain ⟨author, _, hauthor⟩ := List.mem_flatMap.mp h
    exact frontMatter_notMem_textHindrances author cause hauthor

/-- Front matter is to blame if the body starts with it and it gives no metadata. -/
theorem head?_hindrances_eq_frontMatter_iff {source : List Char} {cause : FrontMatterError} :
    (hindrances source).head? = some (.frontMatter cause) ↔
      ∃ content blocks, Markdown.parse? (TitleBlock.split source).2 =
        some (.frontMatter content :: blocks) ∧ cause.Afflicts content := by
  have hcontent : ∀ metadata blocks,
      (contentHindrances metadata blocks).head? ≠ some (.frontMatter cause) :=
    fun metadata blocks h =>
      frontMatter_notMem_contentHindrances metadata blocks cause (List.mem_of_mem_head? h)
  constructor
  · intro h
    unfold hindrances at h
    dsimp only at h
    split at h
    · rename_i parsed hparsed
      unfold parsedHindrances at h
      split at h
      · rename_i content blocks
        split at h
        · exact absurd h (hcontent _ _)
        · rename_i other hother
          cases h
          exact ⟨content, blocks, hparsed, Metadata.ofFrontMatter_eq_error_iff.mp hother⟩
      · exact absurd h (hcontent _ _)
    · cases h
  · rintro ⟨content, blocks, hparsed, hcause⟩
    have herror := Metadata.ofFrontMatter_eq_error_iff.mpr hcause
    simp only [hindrances, hparsed, parsedHindrances, herror, List.head?_cons]

end Document

/-- The faults of YAML that are reported as those of a source; what is wrong with a number or a
point in time goes by other kinds. -/
theorem Yaml.Fault.kind_eq_readerError_iff {fault : Yaml.Fault} :
    fault.kind = "ReaderError" ↔ fault = .malformed := by
  cases fault <;> simp [Yaml.Fault.kind]

/-- The errors of reading that are reported as those of a source. -/
theorem ReadError.kind_eq_readerError_iff {cause : ReadError} :
    cause.kind = "ReaderError" ↔
      (∃ content, cause = .frontMatter (.noValue content .malformed)) ∨
        cause = .frontMatter .notMapping ∨ ∃ gap, cause = .noCounterpart gap := by
  cases cause with
  | frontMatter cause =>
      cases cause with
      | noValue content fault => simp [ReadError.kind, Yaml.Fault.kind_eq_readerError_iff]
      | notMapping => simp [ReadError.kind]
      | notIterable typeName => simp [ReadError.kind]
      | longNumber => simp [ReadError.kind]
  | noCounterpart gap => simp [ReadError.kind]
  | inline fault => cases fault <;> simp [ReadError.kind]

namespace Document

/-- A source is a document exactly if nothing keeps it from being one, and the first hindrance is
what is reported of any other.  Front matter is reported exactly if the body starts with it and it
is no YAML, is neither missing nor a mapping, or is a mapping with a point in time for its authors
or a number that is too long to be shown.  The report is that of a malformed source exactly if the
body starts with front matter that is not well formed or neither missing nor a mapping, or if
something without a counterpart comes first. -/
theorem read_iff (source : List Char) :
    ((∃ document, read source = .ok document) ↔ hindrances source = []) ∧
      (∀ cause, read source = .error cause ↔ (hindrances source).head? = some cause) ∧
      (∀ cause, read source = .error (.frontMatter cause) ↔
        ∃ content blocks, Markdown.parse? (TitleBlock.split source).2 =
          some (.frontMatter content :: blocks) ∧ cause.Afflicts content) ∧
      ((∃ cause, read source = .error cause ∧ cause.kind = "ReaderError") ↔
        (∃ content blocks, Markdown.parse? (TitleBlock.split source).2 =
            some (.frontMatter content :: blocks) ∧
          (FrontMatterError.Afflicts content (.noValue content .malformed) ∨
            FrontMatterError.Afflicts content .notMapping)) ∨
        ∃ gap, (hindrances source).head? = some (.noCounterpart gap)) := by
  have hread := stopsAt_read source
  have hfrontMatter : ∀ cause, read source = .error (.frontMatter cause) ↔
      ∃ content blocks, Markdown.parse? (TitleBlock.split source).2 =
        some (.frontMatter content :: blocks) ∧ cause.Afflicts content := by
    intro cause
    rw [hread.error_iff, head?_hindrances_eq_frontMatter_iff]
  refine ⟨hread.isOk_iff, hread.error_iff, hfrontMatter, ?_⟩
  constructor
  · rintro ⟨cause, herror, hkind⟩
    obtain ⟨content, rfl⟩ | rfl | ⟨gap, rfl⟩ := ReadError.kind_eq_readerError_iff.mp hkind
    · obtain ⟨found, blocks, hparsed, hcause⟩ := (hfrontMatter _).mp herror
      cases hcause with
      | noValue hload => exact .inl ⟨content, blocks, hparsed, .inl (.noValue hload)⟩
    · obtain ⟨content, blocks, hparsed, hcause⟩ := (hfrontMatter _).mp herror
      exact .inl ⟨content, blocks, hparsed, .inr hcause⟩
    · exact .inr ⟨gap, (hread.error_iff _).mp herror⟩
  · rintro (⟨content, blocks, hparsed, hcause | hcause⟩ | ⟨gap, hgap⟩)
    · exact ⟨_, (hfrontMatter _).mpr ⟨content, blocks, hparsed, hcause⟩, rfl⟩
    · exact ⟨_, (hfrontMatter _).mpr ⟨content, blocks, hparsed, hcause⟩, rfl⟩
    · exact ⟨_, (hread.error_iff _).mpr hgap, rfl⟩

/-! ### A date for an author -/

/-- Whether YAML is a mapping with a point in time for its only value. -/
def isStamped (key value : List Char) : Except Yaml.Fault (Option Yaml.Node) → Bool
  | .ok (some (.mapping .map [(.scalar .str name, .scalar .timestamp stamp)])) =>
    name == key && stamp == value
  | _ => false

theorem eq_of_isStamped {key value : List Char} {node : Except Yaml.Fault (Option Yaml.Node)}
    (h : isStamped key value node = true) :
    node = .ok (some (.mapping .map [(.scalar .str key, .scalar .timestamp value)])) := by
  unfold isStamped at h
  split at h
  · obtain ⟨hkey, hvalue⟩ := Bool.and_eq_true_iff.mp h
    rw [eq_of_beq hkey, eq_of_beq hvalue]
  · cases h

/-- Whether blocks are front matter and nothing else. -/
def isFrontMatter (content : List Char) : Option (List (Markdown.Block (List Markdown.Inline))) →
    Bool
  | some [.frontMatter text] => text == content
  | _ => false

theorem eq_of_isFrontMatter {content : List Char}
    {blocks : Option (List (Markdown.Block (List Markdown.Inline)))}
    (h : isFrontMatter content blocks = true) : blocks = some [.frontMatter content] := by
  unfold isFrontMatter at h
  split at h
  · rw [eq_of_beq h]
  · cases h

theorem ofText_date_as_author : Yaml.Node.ofText "author: 2024-01-01".toList =
    .ok (some (.mapping .map
      [(.scalar .str "author".toList, .scalar .timestamp "2024-01-01".toList)])) :=
  eq_of_isStamped (by decide +kernel)

theorem load_date_as_author : Yaml.load "author: 2024-01-01".toList =
    .ok (.map [(.text "author".toList, .stamp ⟨⟨2024, 1, 1⟩, none⟩)]) := by
  have hvalue : (Yaml.Node.mapping .map
      [(.scalar .str "author".toList, .scalar .timestamp "2024-01-01".toList)]).merged.value 0 =
        (.map [(.text "author".toList, .stamp ⟨⟨2024, 1, 1⟩, none⟩)], none) := by cbv
  unfold Yaml.load
  rw [ofText_date_as_author]
  dsimp only [bind, Except.bind]
  rw [hvalue]

theorem parse?_date_as_author : Markdown.parse? "---\nauthor: 2024-01-01\n---\n".toList =
    some [.frontMatter "author: 2024-01-01".toList] :=
  eq_of_isFrontMatter (by decide +kernel)

/-- A date for an author: the front matter is a mapping, and the source is no document. -/
theorem read_of_date_as_author :
    (∃ entries, Yaml.load "author: 2024-01-01".toList = .ok (.map entries)) ∧
      Markdown.parse? "---\nauthor: 2024-01-01\n---\n".toList =
        some [.frontMatter "author: 2024-01-01".toList] ∧
      read "---\nauthor: 2024-01-01\n---\n".toList =
        .error (.frontMatter (.notIterable "datetime.date")) ∧
      (ReadError.frontMatter (.notIterable "datetime.date")).kind = "TypeError" := by
  have hsplit : TitleBlock.split "---\nauthor: 2024-01-01\n---\n".toList =
      ({}, "---\nauthor: 2024-01-01\n---\n".toList) := by decide +kernel
  refine ⟨⟨_, load_date_as_author⟩, parse?_date_as_author, ?_, rfl⟩
  rw [(stopsAt_read _).error_iff, head?_hindrances_eq_frontMatter_iff, hsplit]
  exact ⟨_, [], parse?_date_as_author, .notIterable load_date_as_author (by decide) rfl⟩

end Document

end LiveDeck
