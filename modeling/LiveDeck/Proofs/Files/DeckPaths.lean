import LiveDeck.Proofs.CommandLine.Plans

/-! # Where decks lie

The deck of a source lies directly in a directory, under the last name of the source up to its first
dot.  `Path.IsLastName` says of a written path what its last name is, and `IsStem` what stands
before the first dot of a name; neither needs the names to be read first.

Every path that has been read is proper: its names are not empty, no single dots, and hold no slash
(`Path.isProper_ofText`).  A proper path is read back from its text (`Path.ofText_text`), so a deck
whose path is written out and read again is still its own deck.  Main statement: `deckIn_ofText`. -/

namespace LiveDeck

namespace Path

/-! ### Names -/

/-- What can be a name of a path. -/
structure IsComponent (name : String) : Prop where
  ne_empty : name ≠ ""
  ne_dot : name ≠ "."
  slash_notMem : '/' ∉ name.toList

/-- All names of a path can be names. -/
def IsProper (path : Path) : Prop := ∀ name ∈ path.names, IsComponent name

theorem isName_iff {part : List Char} : isName part = true ↔ part ≠ [] ∧ part ≠ ['.'] := by
  simp [isName]

theorem IsComponent.isName {name : String} (h : IsComponent name) :
    Path.isName name.toList = true := by
  rw [isName_iff]
  constructor
  · intro hnil
    exact h.ne_empty (String.toList_inj.mp hnil)
  · intro hdot
    exact h.ne_dot (String.toList_inj.mp hdot)

theorem slash_notMem_of_mem_splitOn {text part : List Char} (h : part ∈ text.splitOn '/') :
    '/' ∉ part := by
  induction text generalizing part with
  | nil =>
      rw [List.splitOn_nil, List.mem_singleton] at h
      rw [h]
      exact List.not_mem_nil
  | cons c text ih =>
      obtain ⟨first, others, hparts⟩ := List.exists_cons_of_ne_nil (List.splitOn_ne_nil '/' text)
      rw [List.splitOn_cons_eq_if_modifyHead, hparts] at h
      rw [hparts] at ih
      split at h
      · rcases List.mem_cons.mp h with rfl | h
        · exact List.not_mem_nil
        · exact ih h
      · rename_i hc
        rw [List.modifyHead_cons] at h
        rcases List.mem_cons.mp h with rfl | h
        · intro hmem
          rcases List.mem_cons.mp hmem with rfl | hmem
          · exact hc (beq_self_eq_true _)
          · exact ih List.mem_cons_self hmem
        · exact ih (List.mem_cons_of_mem first h)

theorem isProper_ofText (text : String) : (ofText text).IsProper := by
  intro name hname
  obtain ⟨part, hpart, rfl⟩ := List.mem_map.mp hname
  obtain ⟨hmem, hname⟩ := List.mem_filter.mp hpart
  obtain ⟨hne, hdot⟩ := isName_iff.mp hname
  constructor
  · intro h
    have hlist := congrArg String.toList h
    rw [String.toList_ofList] at hlist
    exact hne hlist
  · intro h
    have hlist := congrArg String.toList h
    rw [String.toList_ofList] at hlist
    exact hdot hlist
  · rw [String.toList_ofList]
    exact slash_notMem_of_mem_splitOn hmem

/-! ### Paths that are written and read -/

theorem namesOf_append_slash (before after : List Char) :
    namesOf (before ++ '/' :: after) = namesOf before ++ namesOf after := by
  unfold namesOf
  rw [List.splitOn_append_cons_self, List.filter_append, List.map_append]

theorem namesOf_cons_slash (text : List Char) : namesOf ('/' :: text) = namesOf text :=
  namesOf_append_slash [] text

/-- Names with slashes between them are read back. -/
theorem namesOf_intercalate {names : List String} (h : ∀ name ∈ names, IsComponent name) :
    namesOf (['/'].intercalate (names.map String.toList)) = names := by
  cases names with
  | nil => rfl
  | cons first others =>
      have hslash : ∀ part ∈ (first :: others).map String.toList, '/' ∉ part := by
        intro part hpart
        obtain ⟨name, hname, rfl⟩ := List.mem_map.mp hpart
        exact (h name hname).slash_notMem
      have hkept : ((first :: others).map String.toList).filter isName =
          (first :: others).map String.toList := by
        rw [List.filter_eq_self]
        intro part hpart
        obtain ⟨name, hname, rfl⟩ := List.mem_map.mp hpart
        exact (h name hname).isName
      unfold namesOf
      rw [List.splitOn_intercalate '/' hslash (List.cons_ne_nil _ _), hkept, List.map_map]
      simp [Function.comp_def, String.ofList_toList]

theorem head?_intercalate_ne {names : List String} (h : ∀ name ∈ names, IsComponent name) :
    (['/'].intercalate (names.map String.toList)).head? ≠ some '/' := by
  cases names with
  | nil => nofun
  | cons first others =>
      have hfirst := h first List.mem_cons_self
      obtain ⟨c, rest, hchars⟩ := List.exists_cons_of_ne_nil (isName_iff.mp hfirst.isName).1
      have hc : c ≠ '/' := by
        intro heq
        apply hfirst.slash_notMem
        rw [hchars, heq]
        exact List.mem_cons_self
      have hhead : (['/'].intercalate ((first :: others).map String.toList)).head? = some c := by
        cases others with
        | nil => simp [List.intercalate_singleton, hchars]
        | cons second others => simp [List.intercalate_cons_cons, hchars]
      rw [hhead]
      simpa using hc

theorem anchorOf_of_head? {text : List Char} (h : text.head? ≠ some '/') :
    anchorOf text = .here ∧ anchorOf ('/' :: text) = .root ∧
      anchorOf ('/' :: '/' :: text) = .doubleRoot := by
  cases text with
  | nil => exact ⟨rfl, rfl, rfl⟩
  | cons c rest =>
      have hc : c ≠ '/' := by simpa using h
      refine ⟨?_, ?_, ?_⟩ <;> simp [anchorOf, hc]

theorem ofText_eq_of_toList {text : String} {chars : List Char} (h : text.toList = chars) :
    ofText text = ⟨anchorOf chars, namesOf chars⟩ := by
  rw [ofText, h]

/-- A proper path is read back from its text. -/
theorem ofText_text {path : Path} (h : path.IsProper) : ofText path.text = path := by
  obtain ⟨anchor, names⟩ := path
  have hnames := namesOf_intercalate h
  obtain ⟨hhere, hroot, hdouble⟩ := anchorOf_of_head? (head?_intercalate_ne h)
  have hbody : ("/".intercalate names).toList = ['/'].intercalate (names.map String.toList) :=
    String.toList_intercalate
  cases anchor with
  | here =>
      by_cases hnil : names = []
      · subst hnil
        rfl
      · have htext : text ⟨.here, names⟩ = "" ++ "/".intercalate names := by
          simp [text, hnil, Anchor.text]
        rw [ofText_eq_of_toList (by rw [htext, String.empty_append, hbody]), hhere, hnames]
  | root =>
      have htext : (text ⟨.root, names⟩).toList =
          '/' :: ['/'].intercalate (names.map String.toList) := by
        simp [text, Anchor.text, hbody]
      rw [ofText_eq_of_toList htext, hroot, namesOf_cons_slash, hnames]
  | doubleRoot =>
      have htext : (text ⟨.doubleRoot, names⟩).toList =
          '/' :: '/' :: ['/'].intercalate (names.map String.toList) := by
        simp [text, Anchor.text, hbody]
      rw [ofText_eq_of_toList htext, hdouble, namesOf_cons_slash, namesOf_cons_slash, hnames]

/-! ### The last name -/

/-- The last name of a written path: the last part between slashes that is neither empty nor a
single dot, and nothing if there is no such part. -/
inductive IsLastName (source : String) : String → Prop
  | none : (∀ part ∈ source.toList.splitOn '/', part = [] ∨ part = ['.']) → IsLastName source ""
  | last {name : String} {before after : List (List Char)} :
      source.toList.splitOn '/' = before ++ name.toList :: after → IsComponent name →
      (∀ part ∈ after, part = [] ∨ part = ['.']) → IsLastName source name

theorem isName_eq_false_iff {part : List Char} :
    isName part = false ↔ part = [] ∨ part = ['.'] := by
  rw [← Bool.not_eq_true, isName_iff]
  tauto

theorem exists_last_isName (parts : List (List Char)) :
    (∀ part ∈ parts, isName part = false) ∨
      ∃ before part after, parts = before ++ part :: after ∧ isName part = true ∧
        ∀ part ∈ after, isName part = false := by
  induction parts with
  | nil => exact .inl (List.forall_mem_nil _)
  | cons first parts ih =>
      rcases ih with hnone | ⟨before, part, after, rfl, hpart, hafter⟩
      · cases hfirst : isName first with
        | true => exact .inr ⟨[], first, parts, rfl, hfirst, hnone⟩
        | false => exact .inl (List.forall_mem_cons.mpr ⟨hfirst, hnone⟩)
      · exact .inr ⟨first :: before, part, after, rfl, hpart, hafter⟩

theorem filter_isName_eq_nil {parts : List (List Char)} (h : ∀ part ∈ parts, isName part = false) :
    parts.filter isName = [] :=
  List.filter_eq_nil_iff.mpr fun part hpart => by simp [h part hpart]

/-- A path that has been read ends with the last name of what was written. -/
theorem isLastName_iff {source name : String} : IsLastName source name ↔
    (ofText source).name = name := by
  constructor
  · rintro (hnone | ⟨hparts, hname, hafter⟩)
    · have hnil : (source.toList.splitOn '/').filter isName = [] :=
        filter_isName_eq_nil fun part hpart => isName_eq_false_iff.mpr (hnone part hpart)
      rw [Path.name, ofText, namesOf, hnil]
      rfl
    · have hnil := filter_isName_eq_nil fun part hpart => isName_eq_false_iff.mpr (hafter part hpart)
      rw [Path.name, ofText, namesOf, hparts, List.filter_append,
        List.filter_cons_of_pos hname.isName, hnil]
      simp [String.ofList_toList]
  · rintro rfl
    rcases exists_last_isName (source.toList.splitOn '/') with
      hnone | ⟨before, part, after, hparts, hpart, hafter⟩
    · have hname : (ofText source).name = "" := by
        rw [Path.name, ofText, namesOf, filter_isName_eq_nil hnone]
        rfl
      rw [hname]
      exact .none fun part hpart => isName_eq_false_iff.mp (hnone part hpart)
    · have hnames : (ofText source).names =
          (before.filter isName).map String.ofList ++ [String.ofList part] := by
        rw [ofText, namesOf, hparts, List.filter_append, List.filter_cons_of_pos hpart,
          filter_isName_eq_nil hafter, List.map_append]
        rfl
      have hname : (ofText source).name = String.ofList part := by
        rw [Path.name, hnames, List.getLastD_concat]
      have hmem : String.ofList part ∈ (ofText source).names := by
        rw [hnames]
        exact List.mem_append_right _ (List.mem_singleton_self _)
      rw [hname]
      rw [← String.toList_ofList (l := part)] at hparts
      exact .last hparts (isProper_ofText source _ hmem) fun part hpart =>
        isName_eq_false_iff.mp (hafter part hpart)

theorem name_ofText_append (directory : String) {source : String} (h : (ofText source).name ≠ "") :
    (ofText (directory ++ "/" ++ source)).name = (ofText source).name := by
  have hchars : (directory ++ "/" ++ source).toList = directory.toList ++ '/' :: source.toList := by
    simp
  have hnames : (ofText (directory ++ "/" ++ source)).names =
      namesOf directory.toList ++ (ofText source).names := by
    rw [ofText, hchars, namesOf_append_slash, ofText]
  have hne : (ofText source).names ≠ [] := by
    intro hnil
    apply h
    rw [Path.name, hnil]
    rfl
  rw [Path.name, Path.name, hnames, List.getLastD_eq_getLast?, List.getLastD_eq_getLast?,
    List.getLast?_append_of_ne_nil _ hne]

theorem IsProper.slash_notMem_name {path : Path} (h : path.IsProper) : '/' ∉ path.name.toList := by
  by_cases hnil : path.names = []
  · rw [Path.name, hnil]
    exact List.not_mem_nil
  · have hlast : path.name = path.names.getLast hnil := by
      rw [Path.name, List.getLastD_eq_getLast?, List.getLast?_eq_some_getLast hnil]
      rfl
    rw [hlast]
    exact (h _ (List.getLast_mem hnil)).slash_notMem

end Path

/-! ### Stems -/

/-- What stands before the first dot of a name, or all of it. -/
structure IsStem (name stem : String) : Prop where
  dot_notMem : '.' ∉ stem.toList
  exists_rest : ∃ rest, name.toList = stem.toList ++ rest ∧ (rest = [] ∨ rest.head? = some '.')

theorem isStem_stem (name : String) : IsStem name (stem name) := by
  have hchars : (stem name).toList = name.toList.takeWhile (· != '.') := String.toList_ofList
  constructor
  · intro hdot
    rw [hchars] at hdot
    have hne := List.mem_takeWhile_imp hdot
    simp at hne
  · refine ⟨name.toList.dropWhile (· != '.'), ?_, ?_⟩
    · rw [hchars, List.takeWhile_append_dropWhile]
    · have hhead := List.head?_dropWhile_not (· != '.') name.toList
      cases hrest : name.toList.dropWhile (· != '.') with
      | nil => exact .inl rfl
      | cons c rest =>
          rw [hrest] at hhead
          refine .inr ?_
          simpa using hhead

theorem IsStem.eq_stem {name start : String} (h : IsStem name start) : start = stem name := by
  obtain ⟨hdot, rest, hname, hrest⟩ := h
  have hstart : ∀ c ∈ start.toList, (c != '.') = true := by
    intro c hc
    have hne : c ≠ '.' := fun heq => hdot (heq ▸ hc)
    simpa using hne
  have htake : rest.takeWhile (· != '.') = [] := by
    rcases hrest with rfl | hhead
    · rfl
    · cases rest with
      | nil => rfl
      | cons c rest =>
          have hc : c = '.' := Option.some.inj hhead
          simp [hc]
  rw [stem, hname, List.takeWhile_append_of_pos hstart, htake, List.append_nil, String.ofList_toList]

theorem stem_deckName (name : String) : stem (stem name ++ ".html") = stem name := by
  have hstem : IsStem (stem name ++ ".html") (stem name) :=
    ⟨(isStem_stem name).dot_notMem, ".html".toList, String.toList_append, .inr rfl⟩
  exact hstem.eq_stem.symm

theorem slash_notMem_stem {name : String} (h : '/' ∉ name.toList) :
    '/' ∉ (stem name).toList := by
  obtain ⟨rest, hname, _⟩ := (isStem_stem name).exists_rest
  intro hslash
  apply h
  rw [hname]
  exact List.mem_append_left rest hslash

/-! ### Decks -/

theorem isComponent_deckName {name : String} (h : '/' ∉ name.toList) :
    Path.IsComponent (stem name ++ ".html") := by
  have hlength : ".html".length ≤ (stem name ++ ".html").length := by
    rw [String.length_append]
    omega
  constructor
  · intro hempty
    rw [hempty] at hlength
    exact absurd hlength (by decide)
  · intro hdot
    rw [hdot] at hlength
    exact absurd hlength (by decide)
  · rw [String.toList_append, List.mem_append]
    rintro (hslash | hslash)
    · exact slash_notMem_stem h hslash
    · exact absurd hslash (by decide)

namespace Path

theorem IsProper.deckIn {directory source : Path} (hdirectory : directory.IsProper)
    (hsource : source.IsProper) : (directory.deckIn source).IsProper := by
  intro name hname
  rcases List.mem_append.mp hname with hname | hname
  · exact hdirectory name hname
  · rw [List.mem_singleton.mp hname]
    exact isComponent_deckName hsource.slash_notMem_name

/-- The deck of a deck is the deck itself. -/
theorem deckIn_deckIn (directory source : Path) :
    directory.deckIn (directory.deckIn source) = directory.deckIn source := by
  have hname : (directory.deckIn source).name = stem source.name ++ ".html" := name_child _ _
  rw [deckIn, hname, stem_deckName]
  rfl

/-- The deck of a source, whatever is written for it, lies directly in the directory, and its name
is the stem of the last name that is written, without dots and slashes, followed by `.html`.  All
sources with that last name have the same deck, whichever directories come before it, and the deck
is its own deck, also if its path is written out and read again. -/
theorem deckIn_ofText (directory : Path) (source : String) :
    let name := (ofText source).name
    let deck := directory.deckIn (.ofText source)
    (IsLastName source name ∧ IsStem name (stem name) ∧ '/' ∉ (stem name).toList) ∧
    (deck.parent = directory ∧ deck.name = stem name ++ ".html" ∧ IsComponent deck.name ∧
      ∀ here, deck.target here = directory.target here ++ [deck.name]) ∧
    ((∀ other, IsLastName other name → directory.deckIn (.ofText other) = deck) ∧
      ∀ start, name ≠ "" → directory.deckIn (.ofText (start ++ "/" ++ source)) = deck) ∧
    directory.deckIn deck = deck ∧
    (directory.IsProper → ofText deck.text = deck ∧ directory.deckIn (.ofText deck.text) = deck) := by
  intro name deck
  have hsource := isProper_ofText source
  have hslash : '/' ∉ name.toList := hsource.slash_notMem_name
  have hname : deck.name = stem name ++ ".html" := name_child _ _
  refine ⟨⟨isLastName_iff.mpr rfl, isStem_stem name, slash_notMem_stem hslash⟩,
    ⟨parent_child _ _, hname, ?component, ?target⟩, ⟨?other, ?start⟩, deckIn_deckIn directory _,
    ?written⟩
  case component =>
    rw [hname]
    exact isComponent_deckName hslash
  case target =>
    intro here
    rw [hname]
    exact target_child (ne_dotDot_of_deckName _) here directory
  case other =>
    intro other hother
    rw [deckIn, isLastName_iff.mp hother]
    rfl
  case start =>
    intro start hne
    rw [deckIn, name_ofText_append start hne]
    rfl
  case written =>
    intro hdirectory
    have hread : ofText deck.text = deck := ofText_text (hdirectory.deckIn hsource)
    refine ⟨hread, ?_⟩
    rw [hread]
    exact deckIn_deckIn directory _

/-- Dots and slashes at the end of a source, and nothing but dots in its last name. -/
example : ((ofText "/work").deckIn (.ofText "a/../talk.v2.md/./")).text = "/work/talk.html" ∧
    ((ofText "/work").deckIn (.ofText "../..")).text = "/work/.html" := by
  constructor <;> cbv

end Path

end LiveDeck
