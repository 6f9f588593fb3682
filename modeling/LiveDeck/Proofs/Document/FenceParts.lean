import LiveDeck.Document.FenceInfo
import LiveDeck.Proofs.Metadata.WrittenBlocks
import LiveDeck.Proofs.Text.Words

/-! # Writing fence attributes

The attributes of a fence are written as parts between braces: an identifier after `#`, classes after
`.` or bare, and pairs whose value may be quoted.  `FenceItem` holds a part as it is meant, and
`FenceItem.text` is the word that is written for it; `IsWritable` says what its texts have to be like
for that.  Kinds of words overlap at first sight (`.a=b` is a class, `#x=y` an identifier, a value
may hold an equals sign): each word is read as what it was written for (`ofWord_text`), because the
mark in front is looked at first and the first equals sign only then.

Main statement (`Attr.ofFenceInfo_written`): parts in any order and with any blanks are read back,
and so is what `Attr.written` writes. -/

namespace LiveDeck

open Text (isBlank strip words trimBy dropEndWhile SetApart IsWord)

/-! ### Parts of a fence information -/

/-- A part between the braces as it is meant. -/
inductive FenceItem where
  | identifier (name : List Char)
  | dotted (name : List Char)
  | bare (name : List Char)
  | pair (key value : List Char) (quoted : Bool)
  deriving DecidableEq, Repr

namespace FenceItem

/-- A part as a word. -/
def text : FenceItem → List Char
  | .identifier name => '#' :: name
  | .dotted name => '.' :: name
  | .bare name => name
  | .pair key value quoted =>
    key ++ '=' :: (if quoted then '"' :: (value ++ ['"']) else value)

/-- The identifier that a part gives. -/
def identifier? : FenceItem → Option String
  | .identifier name => some (String.ofList name)
  | _ => none

/-- The class that a part gives. -/
def class? : FenceItem → Option String
  | .dotted name => some (String.ofList name)
  | .bare name => some (String.ofList name)
  | _ => none

/-- The pair that a part gives. -/
def pair? : FenceItem → Option (String × String)
  | .pair key value _ => some (String.ofList key, String.ofList value)
  | _ => none

/-- The text has no mark of another kind in front and no equals sign. -/
def IsPlain (name : List Char) : Prop :=
  name.head? ≠ some '#' ∧ name.head? ≠ some '.' ∧ '=' ∉ name

/-- The text has no double quote at either end. -/
def IsUnquoted (value : List Char) : Prop :=
  value.head? ≠ some '"' ∧ value.getLast? ≠ some '"'

/-- What can be written as a word and read back: no blanks, and no text that looks like another
kind of part. -/
def IsWritable : FenceItem → Prop
  | .identifier name => ∀ c ∈ name, isBlank c = false
  | .dotted name => ∀ c ∈ name, isBlank c = false
  | .bare name => name ≠ [] ∧ IsPlain name ∧ ∀ c ∈ name, isBlank c = false
  | .pair key value _ => IsPlain key ∧ IsUnquoted value ∧
    (∀ c ∈ key, isBlank c = false) ∧ ∀ c ∈ value, isBlank c = false

instance (name : List Char) : Decidable (IsPlain name) := inferInstanceAs (Decidable (_ ∧ _ ∧ _))

instance (value : List Char) : Decidable (IsUnquoted value) := inferInstanceAs (Decidable (_ ∧ _))

instance : DecidablePred IsWritable
  | .identifier name => List.decidableBAll (fun c => isBlank c = false) name
  | .dotted name => List.decidableBAll (fun c => isBlank c = false) name
  | .bare name =>
    haveI := List.decidableBAll (fun c => isBlank c = false) name
    inferInstanceAs (Decidable (name ≠ [] ∧ IsPlain name ∧ ∀ c ∈ name, isBlank c = false))
  | .pair key value _ =>
    haveI := List.decidableBAll (fun c => isBlank c = false)
    inferInstanceAs (Decidable (IsPlain key ∧ IsUnquoted value ∧
      (∀ c ∈ key, isBlank c = false) ∧ ∀ c ∈ value, isBlank c = false))

theorem isWord_text {item : FenceItem} (h : item.IsWritable) : IsWord item.text := by
  cases item with
  | identifier name =>
      constructor
      · simp [text]
      · exact List.forall_mem_cons.mpr ⟨by decide, h⟩
  | dotted name =>
      constructor
      · simp [text]
      · exact List.forall_mem_cons.mpr ⟨by decide, h⟩
  | bare name => exact ⟨h.1, h.2.2⟩
  | pair key value quoted =>
      obtain ⟨_, _, hkey, hvalue⟩ := h
      have hquote : isBlank '"' = false := by decide
      constructor
      · simp [text]
      · refine List.forall_mem_append.mpr ⟨hkey, List.forall_mem_cons.mpr ⟨by decide, ?_⟩⟩
        cases quoted with
        | false => exact hvalue
        | true =>
            refine List.forall_mem_cons.mpr ⟨hquote, List.forall_mem_append.mpr ⟨hvalue, ?_⟩⟩
            exact List.forall_mem_singleton.mpr hquote

/-! ### Reading a word -/

theorem unquote_eq_self {value : List Char} (h : IsUnquoted value) :
    FencePart.unquote value = value := by
  obtain ⟨hfirst, hlast⟩ := h
  apply Text.trimBy_eq_self
  · cases hvalue : value.head? with
    | none => rfl
    | some c => simp_all
  · cases hvalue : value.getLast? with
    | none => rfl
    | some c => simp_all

theorem unquote_quoted {value : List Char} (h : IsUnquoted value) :
    FencePart.unquote ('"' :: (value ++ ['"'])) = value := by
  have hend : ∀ c ∈ ['"'], (c == '"') = true := List.forall_mem_singleton.mpr rfl
  have hdrop : ('"' :: (value ++ ['"'])).dropWhile (· == '"') =
      (value ++ ['"']).dropWhile (· == '"') := List.dropWhile_cons_of_pos (by decide)
  cases value with
  | nil => decide
  | cons c value =>
      have hc : (c == '"') = false := by
        rw [beq_eq_false_iff_ne]
        rintro rfl
        exact h.1 rfl
      have hsame := unquote_eq_self h
      rw [FencePart.unquote, trimBy] at hsame ⊢
      rw [hdrop, List.cons_append, List.dropWhile_cons_of_neg (by simp [hc]), ← List.cons_append,
        Text.dropEndWhile_append hend]
      rwa [List.dropWhile_cons_of_neg (by simp [hc])] at hsame

theorem ofWord_of_head? {word : List Char} (hhash : word.head? ≠ some '#')
    (hdot : word.head? ≠ some '.') :
    FencePart.ofWord word = match word.dropWhile (· != '=') with
      | _ :: value => .pair (word.takeWhile (· != '=')) (FencePart.unquote value)
      | [] => .cssClass word := by
  unfold FencePart.ofWord
  split
  · exact absurd rfl hhash
  · exact absurd rfl hdot
  · rfl

/-- The part that a word is read as. -/
def read : FenceItem → FencePart
  | .identifier name => .identifier name
  | .dotted name => .cssClass name
  | .bare name => .cssClass name
  | .pair key value _ => .pair key value

/-- Every word is read as what it was written for. -/
theorem ofWord_text {item : FenceItem} (h : item.IsWritable) :
    FencePart.ofWord item.text = item.read := by
  cases item with
  | identifier name => rfl
  | dotted name => rfl
  | bare name =>
      obtain ⟨_, ⟨hhash, hdot, hequals⟩, _⟩ := h
      have hall : ∀ c ∈ name, (c != '=') = true := by
        intro c hc
        rw [bne_iff_ne]
        rintro rfl
        exact hequals hc
      have hdrop : name.dropWhile (· != '=') = [] := List.dropWhile_eq_nil_iff.mpr hall
      rw [text, ofWord_of_head? hhash hdot, hdrop]
      rfl
  | pair key value quoted =>
      obtain ⟨⟨hhash, hdot, hequals⟩, hvalue, _⟩ := h
      have hall : ∀ c ∈ key, (c != '=') = true := by
        intro c hc
        rw [bne_iff_ne]
        rintro rfl
        exact hequals hc
      have hhead : ∀ mark rest, mark ≠ '=' → key.head? ≠ some mark →
          (key ++ '=' :: rest).head? ≠ some mark := by
        intro mark rest hmark hkey
        cases key with
        | nil => exact fun h => hmark (Option.some.inj h).symm
        | cons c key => exact hkey
      have hunquote : FencePart.unquote (if quoted then '"' :: (value ++ ['"']) else value) =
          value := by
        cases quoted with
        | false => exact unquote_eq_self hvalue
        | true => exact unquote_quoted hvalue
      rw [text, ofWord_of_head? (hhead '#' _ (by decide) hhash) (hhead '.' _ (by decide) hdot),
        List.dropWhile_append_of_pos hall, List.dropWhile_cons_of_neg (by decide),
        List.takeWhile_append_of_pos hall, List.takeWhile_cons_of_neg (by decide), List.append_nil]
      exact congrArg (FencePart.pair key) hunquote

end FenceItem

/-! ### Reading the parts -/

namespace Attr

/-- Adding one part after another: the last identifier counts, classes and pairs come in order. -/
theorem foldl_addPart (attr : Attr) (items : List FenceItem) :
    (items.map FenceItem.read).foldl addPart attr =
      { identifier := (items.filterMap FenceItem.identifier?).getLast?.getD attr.identifier
        classes := attr.classes ++ items.filterMap FenceItem.class?
        attributes := attr.attributes ++ items.filterMap FenceItem.pair? } := by
  induction items generalizing attr with
  | nil => simp
  | cons item items ih =>
      rw [List.map_cons, List.foldl_cons, ih]
      cases item <;> simp [FenceItem.read, addPart, FenceItem.identifier?, FenceItem.class?,
        FenceItem.pair?, List.filterMap_cons, List.getLast?_cons]

theorem inBraces?_braces (inside : List Char) :
    inBraces? ('\x7b' :: (inside ++ ['\x7d'])) = some inside := by
  have hlast : (inside ++ ['\x7d']).getLast? = some '\x7d' := List.getLast?_concat
  rw [inBraces?, if_pos hlast, List.dropLast_concat]

theorem strip_braces {before after : List Char} (hbefore : ∀ c ∈ before, isBlank c = true)
    (hafter : ∀ c ∈ after, isBlank c = true) (inside : List Char) :
    strip (before ++ '\x7b' :: (inside ++ '\x7d' :: after)) = '\x7b' :: (inside ++ ['\x7d']) := by
  have hsplit : '\x7b' :: (inside ++ '\x7d' :: after) = '\x7b' :: (inside ++ ['\x7d']) ++ after := by
    simp
  have hlast : ('\x7b' :: (inside ++ ['\x7d'])).getLast? = some '\x7d' := by
    rw [← List.cons_append, List.getLast?_concat]
  rw [Text.strip_append_of_blank hbefore, hsplit, Text.strip_append hafter]
  apply Text.strip_eq_self
  · rfl
  · rw [hlast]
    rfl

/-- The parts that are written for attributes; an empty identifier is left out. -/
def items (attr : Attr) : List FenceItem :=
  (if attr.identifier = "" then [] else [.identifier attr.identifier.toList]) ++
    attr.classes.map (fun name => .dotted name.toList) ++
    attr.attributes.map (fun pair => .pair pair.1.toList pair.2.toList true)

/-- Attributes as a fence information. -/
def written (attr : Attr) : List Char :=
  '\x7b' :: ([' '].intercalate (attr.items.map FenceItem.text) ++ ['\x7d'])

/-- Attributes that are made of what can be written: no blanks anywhere, keys that do not look like
another kind of part, and values without double quotes at their ends. -/
def IsWritable (attr : Attr) : Prop := ∀ item ∈ attr.items, item.IsWritable

instance : DecidablePred IsWritable := fun attr =>
  inferInstanceAs (Decidable (∀ item ∈ attr.items, item.IsWritable))

theorem filterMap_items (attr : Attr) :
    (attr.items.filterMap FenceItem.identifier?).getLast?.getD "" = attr.identifier ∧
      attr.items.filterMap FenceItem.class? = attr.classes ∧
      attr.items.filterMap FenceItem.pair? = attr.attributes := by
  have hnone : ∀ {α β : Type} (l : List α), l.filterMap (fun _ => (none : Option β)) = [] :=
    fun l => List.filterMap_eq_nil_iff.mpr fun _ _ => rfl
  have hkept : ∀ {α : Type} (l : List α), l.filterMap (fun a => some a) = l :=
    fun l => List.filterMap_some
  by_cases hempty : attr.identifier = ""
  · simp only [items, if_pos hempty, List.nil_append, List.filterMap_append, List.filterMap_map,
      Function.comp_def, FenceItem.identifier?, FenceItem.class?, FenceItem.pair?, hnone, hkept,
      String.ofList_toList, List.append_nil, and_true]
    exact hempty.symm
  · simp only [items, if_neg hempty, List.cons_append, List.nil_append, List.filterMap_cons,
      List.filterMap_append, List.filterMap_map, Function.comp_def, FenceItem.identifier?,
      FenceItem.class?, FenceItem.pair?, hnone, hkept, String.ofList_toList, List.append_nil,
      and_true]
    rfl

/-- Parts between braces are read back, whatever their order and the blanks between them, around
them and around the braces: the last identifier, the classes in order, the pairs in order with their
values out of their quotes.  So are attributes that are written part by part. -/
theorem ofFenceInfo_written :
    (∀ (items : List FenceItem) (before inside after : List Char),
      (∀ item ∈ items, item.IsWritable) → (∀ c ∈ before, isBlank c = true) →
      (∀ c ∈ after, isBlank c = true) → SetApart (items.map FenceItem.text) inside →
      ofFenceInfo (before ++ '\x7b' :: (inside ++ '\x7d' :: after)) =
        { identifier := (items.filterMap FenceItem.identifier?).getLast?.getD ""
          classes := items.filterMap FenceItem.class?
          attributes := items.filterMap FenceItem.pair? }) ∧
    ∀ attr : Attr, attr.IsWritable → ofFenceInfo attr.written = attr := by
  have hread : ∀ (items : List FenceItem) (before inside after : List Char),
      (∀ item ∈ items, item.IsWritable) → (∀ c ∈ before, isBlank c = true) →
      (∀ c ∈ after, isBlank c = true) → SetApart (items.map FenceItem.text) inside →
      ofFenceInfo (before ++ '\x7b' :: (inside ++ '\x7d' :: after)) =
        { identifier := (items.filterMap FenceItem.identifier?).getLast?.getD ""
          classes := items.filterMap FenceItem.class?
          attributes := items.filterMap FenceItem.pair? } := by
    intro items before inside after hitems hbefore hafter hinside
    have hwords : words inside = items.map FenceItem.text := by
      apply Text.words_of_setApart hinside
      intro word hword
      obtain ⟨item, hitem, rfl⟩ := List.mem_map.mp hword
      exact FenceItem.isWord_text (hitems item hitem)
    have hparts : (items.map FenceItem.text).map FencePart.ofWord = items.map FenceItem.read := by
      rw [List.map_map]
      exact List.map_congr_left fun item hitem => FenceItem.ofWord_text (hitems item hitem)
    have hall := foldl_addPart {} items
    simp only [ofFenceInfo, strip_braces hbefore hafter, inBraces?_braces, hwords, hparts, ofParts]
    simpa using hall
  refine ⟨hread, ?_⟩
  intro attr hwritable
  have hback := hread attr.items [] ([' '].intercalate (attr.items.map FenceItem.text)) []
    hwritable (List.forall_mem_nil _) (List.forall_mem_nil _) (Text.setApart_intercalate _)
  obtain ⟨hidentifier, hclasses, hattributes⟩ := attr.filterMap_items
  rw [hidentifier, hclasses, hattributes] at hback
  exact hback

/-- Kinds that overlap, in a mixed order, with a tab and an ideographic space among the blanks. -/
theorem ofFenceInfo_written_of_overlapping_kinds :
    let items : List FenceItem := [.bare "c++".toList, .dotted "a=b".toList,
      .pair "k".toList "v=\x7d\"w".toList true, .identifier "x=y".toList, .pair [] [] false,
      .identifier "#.z".toList]
    let inside : List Char := "\tc++  .a=b\u3000k=\"v=\x7d\"w\" #x=y = ##.z".toList
    let attr : Attr := ⟨"#.z", ["c++", "a=b"], [("k", "v=\x7d\"w"), ("", "")]⟩
    (∀ item ∈ items, item.IsWritable) ∧ SetApart (items.map FenceItem.text) inside ∧
      ofFenceInfo ([' '] ++ '\x7b' :: (inside ++ '\x7d' :: ['\n'])) = attr ∧
      attr.IsWritable ∧ ofFenceInfo attr.written = attr := by
  intro items inside attr
  have hitems : ∀ item ∈ items, item.IsWritable := by decide
  have hwritable : attr.IsWritable := by decide
  have hinside : SetApart (items.map FenceItem.text) inside := by
    have hwords : items.map FenceItem.text = ["c++".toList, ".a=b".toList,
        "k=\"v=\x7d\"w\"".toList, "#x=y".toList, "=".toList, "##.z".toList] := by decide
    have hsplit : inside = '\t' :: ("c++".toList ++ ' ' :: ' ' :: (".a=b".toList ++
        '\u3000' :: ("k=\"v=\x7d\"w\"".toList ++ ' ' :: ("#x=y".toList ++
          ' ' :: ("=".toList ++ ' ' :: "##.z".toList))))) := by decide
    rw [hwords, hsplit]
    refine .blank rfl (.next _ rfl (.blank rfl (.next _ rfl (.next _ rfl ?_))))
    exact .next _ rfl (.next _ rfl (.last _))
  have hbefore : ∀ c ∈ [' '], isBlank c = true := List.forall_mem_singleton.mpr rfl
  have hafter : ∀ c ∈ ['\n'], isBlank c = true := List.forall_mem_singleton.mpr rfl
  have hread := ofFenceInfo_written.1 items [' '] inside ['\n'] hitems hbefore hafter hinside
  refine ⟨hitems, hinside, ?_, hwritable, ofFenceInfo_written.2 attr hwritable⟩
  rw [hread]
  decide

end Attr

end LiveDeck
