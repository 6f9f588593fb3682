import LiveDeck.Proofs.Page.HeadTitle

/-! # Attributes are read back with their values

`startTag?` reads a start tag as others read it: its name up to the first blank, then attributes and
nothing else, each value up to the next double quote and with its references replaced
(`decodeValue`).  `firstStylesheet?` looks through a page for the first link to a stylesheet.

A printed tag is read back as it was made, whatever its values and whatever follows
(`startTag?_printTag`).  In a page the link to the stylesheet of highlighted code is the first one
behind the title, and the first one of all unless one begins in the title; the title is escaped, so
that this can only be in what is taken over as it stands. -/

namespace LiveDeck

open Html (Regular AllRegular tagNames allTagNames printTag)

namespace Markup

/-! ### Start tags -/

/-- A value with its references replaced. -/
def decodeValue : List Char → List Char
  | '&' :: 'a' :: 'm' :: 'p' :: ';' :: s => '&' :: decodeValue s
  | '&' :: 'l' :: 't' :: ';' :: s => '<' :: decodeValue s
  | '&' :: 'g' :: 't' :: ';' :: s => '>' :: decodeValue s
  | '&' :: 'q' :: 'u' :: 'o' :: 't' :: ';' :: s => '"' :: decodeValue s
  | '&' :: '#' :: 'x' :: '2' :: '7' :: ';' :: s => '\'' :: decodeValue s
  | c :: s => c :: decodeValue s
  | [] => []

/-- The attribute at the beginning, and what comes after it. -/
def attribute? : List Char → Option ((String × String) × List Char)
  | ' ' :: s =>
    match upTo? '=' s with
    | some (name, '"' :: s) =>
      (upTo? '"' s).map fun (value, rest) =>
        ((String.ofList name, String.ofList (decodeValue value)), rest)
    | _ => none
  | _ => none

theorem length_of_attribute? {s rest : List Char} {pair : String × String}
    (h : attribute? s = some (pair, rest)) : rest.length < s.length := by
  unfold attribute? at h
  split at h
  · split at h
    · rename_i name s hname
      obtain ⟨⟨value, rest'⟩, hvalue, hpair⟩ := Option.map_eq_some_iff.mp h
      cases hpair
      have h₁ := length_of_upTo? hname
      have h₂ := length_of_upTo? hvalue
      rw [List.length_cons] at h₁ ⊢
      omega
    · cases h
  · cases h

/-- The attributes that a text is made of, if it is made of attributes. -/
def attributes? (s : List Char) : Option (List (String × String)) :=
  if s.isEmpty then some []
  else
    match _h : attribute? s with
    | some (pair, rest) => (attributes? rest).map (pair :: ·)
    | none => none
termination_by s.length
decreasing_by exact length_of_attribute? _h

/-- A start tag. -/
structure StartTag where
  name : String
  attributes : List (String × String)
  deriving DecidableEq, Repr

/-- The start tag at the beginning, and what comes after it. -/
def startTag? : List Char → Option (StartTag × List Char)
  | '<' :: s =>
    match upTo? '>' s with
    | some (content, rest) =>
      let name := content.takeWhile (· != ' ')
      (attributes? (content.drop name.length)).map fun attributes =>
        (⟨String.ofList name, attributes⟩, rest)
    | none => none
  | _ => none

/-- Whether a start tag is a link to a stylesheet. -/
def StartTag.isStylesheet (tag : StartTag) : Bool :=
  tag.name == "link" && tag.attributes.lookup "rel" == some "stylesheet"

/-- The attributes of the first link to a stylesheet. -/
def firstStylesheet? : List Char → Option (List (String × String))
  | [] => none
  | c :: s =>
    match startTag? (c :: s) with
    | some (tag, _) => if tag.isStylesheet then some tag.attributes else firstStylesheet? s
    | none => firstStylesheet? s

/-! ### Printed tags -/

theorem decodeValue_cons_of_ne {c : Char} (h : c ≠ '&') (s : List Char) :
    decodeValue (c :: s) = c :: decodeValue s := by
  rw [decodeValue]
  all_goals
    intro rest hc
    exact absurd hc h

theorem decodeValue_valueReference (c : Char) (rest : List Char) :
    decodeValue (Text.valueReference c ++ rest) = c :: decodeValue rest := by
  unfold Text.valueReference
  split
  · rfl
  · rfl
  · unfold Text.contentReference
    split
    · rfl
    · rfl
    · rfl
    · rename_i hamp _ _
      exact decodeValue_cons_of_ne (fun h => hamp h) rest

theorem decodeValue_escapeValue (s : String) :
    decodeValue (Text.escapeValue s).toList = s.toList := by
  rw [Text.toList_escapeValue]
  induction s.toList with
  | nil => rfl
  | cons c s ih => rw [List.flatMap_cons, decodeValue_valueReference, ih]

theorem attribute?_printed {pair : String × String} (hname : isName pair.1 = true)
    (rest : List Char) :
    attribute? ((Html.printAttribute pair).toList ++ rest) = some (pair, rest) := by
  have hequals : '=' ∉ pair.1.toList := not_mem_of_isName hname (by decide)
  have hquote : '"' ∉ (Text.escapeValue pair.2).toList :=
    Text.not_mem_escapeValue (Or.inr (Or.inr rfl)) pair.2
  have hprinted : (Html.printAttribute pair).toList ++ rest = ' ' :: (pair.1.toList ++
      '=' :: '"' :: ((Text.escapeValue pair.2).toList ++ '"' :: rest)) := by
    rw [toList_printAttribute]
    simp
  rw [hprinted, attribute?, upTo?_append hequals]
  simp only [upTo?_append hquote, Option.map_some, decodeValue_escapeValue, String.ofList_toList]

theorem attributes?_printed {attributes : List (String × String)}
    (hnames : ∀ pair ∈ attributes, isName pair.1 = true) :
    attributes? (attributes.flatMap fun pair => (Html.printAttribute pair).toList) =
      some attributes := by
  induction attributes with
  | nil => rw [attributes?]; rfl
  | cons pair attributes ih =>
      obtain ⟨hname, hothers⟩ := List.forall_mem_cons.mp hnames
      have hread := attribute?_printed hname
        (attributes.flatMap fun pair => (Html.printAttribute pair).toList)
      rw [List.flatMap_cons, attributes?, if_neg (by simp [toList_printAttribute])]
      split
      · rename_i pair' rest' h'
        cases hread.symm.trans h'
        rw [ih hothers]
        rfl
      · rename_i h'
        cases hread.symm.trans h'

/-- A printed start tag is read back, before whatever follows. -/
theorem startTag?_printTag {tag : String} {attributes : List (String × String)}
    (htag : isName tag = true) (hnames : ∀ pair ∈ attributes, isName pair.1 = true)
    (rest : List Char) :
    startTag? ((printTag tag attributes).toList ++ rest) = some (⟨tag, attributes⟩, rest) := by
  have hgt : '>' ∉ tagContent tag attributes := not_mem_tagContent (Or.inr rfl) htag hnames
  have hprinted : (printTag tag attributes).toList ++ rest =
      '<' :: (tagContent tag attributes ++ '>' :: rest) := by
    rw [toList_printTag]
    simp
  have hdrop : (tagContent tag attributes).drop tag.toList.length =
      attributes.flatMap fun pair => (Html.printAttribute pair).toList := List.drop_left
  rw [hprinted, startTag?, upTo?_append hgt]
  simp only [takeWhile_tagContent htag, hdrop, attributes?_printed hnames, Option.map_some,
    String.ofList_toList]

theorem startTag?_element {tag : String} {attributes : List (String × String)}
    (htag : isName tag = true) (hnames : ∀ pair ∈ attributes, isName pair.1 = true)
    (children : List Html) :
    startTag? (Html.printAll [.element tag attributes children]).toList =
      some (⟨tag, attributes⟩, (Html.printAll children ++ ("</" ++ tag ++ ">")).toList) := by
  have hprinted : Html.printAll [.element tag attributes children] =
      printTag tag attributes ++ (Html.printAll children ++ ("</" ++ tag ++ ">")) := by
    simp only [Html.printAll, Html.print, String.append_assoc, String.append_empty]
  rw [hprinted, String.toList_append]
  exact startTag?_printTag htag hnames _

theorem startTag?_void {tag : String} {attributes : List (String × String)}
    (htag : isName tag = true) (hnames : ∀ pair ∈ attributes, isName pair.1 = true) :
    startTag? (Html.printAll [.void tag attributes]).toList = some (⟨tag, attributes⟩, []) := by
  have hprinted : (Html.printAll [.void tag attributes]).toList =
      (printTag tag attributes).toList ++ [] := by
    simp only [Html.printAll, Html.print, String.append_empty, List.append_nil]
  rw [hprinted]
  exact startTag?_printTag htag hnames []

/-! ### Links to stylesheets -/

/-- No link to a stylesheet begins in the text, whatever follows it. -/
def OpensNoStylesheet (s : List Char) : Prop :=
  ∀ rest, firstStylesheet? (s ++ rest) = firstStylesheet? rest

theorem OpensNoStylesheet.append {s t : List Char} (hs : OpensNoStylesheet s)
    (ht : OpensNoStylesheet t) : OpensNoStylesheet (s ++ t) := by
  intro rest
  rw [List.append_assoc, hs, ht]

theorem startTag?_cons_of_ne {c : Char} (h : c ≠ '<') (s : List Char) :
    startTag? (c :: s) = none := by
  unfold startTag?
  split
  · rename_i hcons
    cases hcons
    exact absurd rfl h
  · rfl

theorem opensNoStylesheet_of_not_mem {s : List Char} (h : '<' ∉ s) : OpensNoStylesheet s := by
  induction s with
  | nil => exact fun rest => rfl
  | cons c s ih =>
      rw [List.mem_cons, not_or] at h
      intro rest
      rw [List.cons_append, firstStylesheet?, startTag?_cons_of_ne (Ne.symm h.1)]
      exact ih h.2 rest

theorem opensNoStylesheet_tag {content : List Char} (hlt : '<' ∉ content) (hgt : '>' ∉ content)
    (hname : content.takeWhile (· != ' ') ≠ "link".toList) :
    OpensNoStylesheet ('<' :: (content ++ ['>'])) := by
  intro rest
  have hinside : OpensNoStylesheet (content ++ ['>']) :=
    opensNoStylesheet_of_not_mem (by simpa using hlt)
  have hne : String.ofList (content.takeWhile (· != ' ')) ≠ "link" := by
    intro h
    exact hname (by rw [← h, String.toList_ofList])
  have hother : ∀ attributes, (StartTag.mk (String.ofList (content.takeWhile (· != ' ')))
      attributes).isStylesheet = false := by
    intro attributes
    rw [StartTag.isStylesheet, beq_eq_false_iff_ne.mpr hne, Bool.false_and]
  have hread : startTag? ('<' :: (content ++ '>' :: rest)) =
      (attributes? (content.drop (content.takeWhile (· != ' ')).length)).map fun attributes =>
        (⟨String.ofList (content.takeWhile (· != ' ')), attributes⟩, rest) := by
    rw [startTag?, upTo?_append hgt]
  have hskip : firstStylesheet? ('<' :: (content ++ '>' :: rest)) =
      firstStylesheet? (content ++ '>' :: rest) := by
    rw [firstStylesheet?, hread]
    cases attributes? (content.drop (content.takeWhile (· != ' ')).length) with
    | none => rfl
    | some attributes => exact if_neg (by simp [hother])
  have happend : ∀ s : List Char, s ++ ['>'] ++ rest = s ++ '>' :: rest := by simp
  rw [List.cons_append, happend, hskip, ← happend]
  exact hinside rest

theorem opensNoStylesheet_printTag {tag : String} {attributes : List (String × String)}
    (htag : isName tag = true) (hne : tag ≠ "link")
    (hnames : ∀ pair ∈ attributes, isName pair.1 = true) :
    OpensNoStylesheet (printTag tag attributes).toList := by
  rw [toList_printTag]
  refine opensNoStylesheet_tag (not_mem_tagContent (Or.inl rfl) htag hnames)
    (not_mem_tagContent (Or.inr rfl) htag hnames) ?_
  rw [takeWhile_tagContent htag]
  exact fun h => hne (String.toList_inj.mp h)

theorem opensNoStylesheet_endTag {tag : String} (htag : isName tag = true) :
    OpensNoStylesheet ("</" ++ tag ++ ">").toList := by
  have hprinted : ("</" ++ tag ++ ">").toList = '<' :: ('/' :: tag.toList ++ ['>']) := by simp
  have hlt : '<' ∉ tag.toList := not_mem_of_isName htag (by decide)
  have hgt : '>' ∉ tag.toList := not_mem_of_isName htag (by decide)
  rw [hprinted]
  refine opensNoStylesheet_tag (by simp [hlt]) (by simp [hgt]) ?_
  rw [List.takeWhile_cons_of_pos (by decide)]
  exact fun h => absurd (List.head_eq_of_cons_eq h) (by decide)

theorem firstStylesheet?_printTag (url : String) (rest : List Char) :
    firstStylesheet? ((printTag "link" [("rel", "stylesheet"), ("href", url)]).toList ++ rest) =
      some [("rel", "stylesheet"), ("href", url)] := by
  have hnames : ∀ pair ∈ [("rel", "stylesheet"), ("href", url)], isName pair.1 = true :=
    isName_of_all (show ["rel", "href"].all isName = true by decide) rfl
  have hread := startTag?_printTag (show isName "link" = true by decide) hnames rest
  rw [toList_printTag, List.cons_append] at hread ⊢
  rw [firstStylesheet?, hread]
  rfl

theorem closedUnderPrinting_opensNoStylesheet :
    Html.ClosedUnderPrinting (fun text => OpensNoStylesheet text.toList) (· ≠ "link")
      OpensNoStylesheet where
  append := fun _ _ hs ht => hs.append ht
  plain := fun _ h => opensNoStylesheet_of_not_mem h
  verbatim := fun _ h => h
  startTag := fun _ _ htag hne hnames => opensNoStylesheet_printTag htag hne hnames
  endTag := fun _ htag _ => opensNoStylesheet_endTag htag

end Markup

open Markup

/-! ### Pages -/

theorem exists_printPage_eq_link (title : List Html) (stylesheet : String) (body : List Html) :
    ∃ rest, printPage (.element "html" [] (headHtml title stylesheet :: body)) =
      "<!DOCTYPE html>\n<html><head><title>" ++ Html.printAll title ++ "</title>" ++
        (printTag "meta" [("charset", "utf-8")] ++ (printTag "script" [("src", slidesScript)] ++
          ("</" ++ "script" ++ ">" ++
            (printTag "link" [("rel", "stylesheet"), ("href", stylesheet)] ++ rest)))) := by
  have hstart : "<!DOCTYPE html>\n<html><head><title>" = "<!DOCTYPE html>\n" ++
      (printTag "html" [] ++ (printTag "head" [] ++ printTag "title" [])) := by rfl
  have hend : "</title>" = "</" ++ ("title" ++ ">") := by rfl
  have hpage : ∀ root, printPage root = "<!DOCTYPE html>\n" ++ root.print := fun _ => rfl
  simp only [hpage, headHtml, Html.print, Html.printAll, hstart, hend, String.append_assoc]
  exact ⟨_, rfl⟩

/-- Behind the title of a page, the link to its stylesheet is the first one. -/
theorem exists_printPage_eq_of_firstStylesheet? (title : List Html) (stylesheet : String)
    (body : List Html) :
    ∃ rest, printPage (.element "html" [] (headHtml title stylesheet :: body)) =
        "<!DOCTYPE html>\n<html><head><title>" ++ Html.printAll title ++ "</title>" ++ rest ∧
      firstStylesheet? rest.toList = some [("rel", "stylesheet"), ("href", stylesheet)] := by
  obtain ⟨rest, hpage⟩ := exists_printPage_eq_link title stylesheet body
  refine ⟨_, hpage, ?_⟩
  have hmeta : OpensNoStylesheet (printTag "meta" [("charset", "utf-8")]).toList :=
    opensNoStylesheet_printTag (by decide) (by decide)
      (isName_of_all (show ["charset"].all isName = true by decide) rfl)
  have hscript : OpensNoStylesheet (printTag "script" [("src", slidesScript)]).toList :=
    opensNoStylesheet_printTag (by decide) (by decide)
      (isName_of_all (show ["src"].all isName = true by decide) rfl)
  have hend : OpensNoStylesheet ("</" ++ "script" ++ ">").toList :=
    opensNoStylesheet_endTag (by decide)
  simp only [String.toList_append] at hend ⊢
  rw [hmeta, hscript, hend]
  exact firstStylesheet?_printTag stylesheet rest.toList

theorem opensNoStylesheet_pageStart :
    OpensNoStylesheet "<!DOCTYPE html>\n<html><head><title>".toList := by
  have hstart : "<!DOCTYPE html>\n<html><head><title>".toList =
      '<' :: ("!DOCTYPE html".toList ++ ['>']) ++ (['\n'] ++ ((printTag "html" []).toList ++
        ((printTag "head" []).toList ++ (printTag "title" []).toList))) := by rfl
  have htag : ∀ {tag}, isName tag = true → tag ≠ "link" →
      OpensNoStylesheet (printTag tag []).toList := fun hname hne =>
    opensNoStylesheet_printTag hname hne (List.forall_mem_nil _)
  have hdoctype := opensNoStylesheet_tag (show '<' ∉ "!DOCTYPE html".toList by decide) (by decide)
    (by decide)
  have hlineFeed : OpensNoStylesheet ['\n'] := opensNoStylesheet_of_not_mem (by decide)
  rw [hstart]
  refine hdoctype.append (hlineFeed.append ((htag ?_ ?_).append ((htag ?_ ?_).append (htag ?_ ?_))))
  all_goals decide

/-- Rendered content opens no link to a stylesheet if what it takes over as it stands does not. -/
theorem opensNoStylesheet_printAll {content : Content} {html : List Html} (h : Shows content html)
    (hverbatim : ∀ node ∈ content.rendered,
      node.Verbatim fun text => OpensNoStylesheet text.toList) :
    OpensNoStylesheet (Html.printAll html).toList := by
  have htags : ∀ tag ∈ allTagNames html, tag ≠ "link" := by
    rintro tag htag rfl
    exact absurd (ofContent_of_shows h "link" htag) (by decide)
  exact closedUnderPrinting_opensNoStylesheet.printAll (allRegular_of_shows h hverbatim) htags

/-- If no link to a stylesheet begins in the title, that to the stylesheet of a page is the
first. -/
theorem firstStylesheet?_printPage {title : List Html}
    (htitle : OpensNoStylesheet (Html.printAll title).toList) (stylesheet : String)
    (body : List Html) :
    firstStylesheet? (printPage (.element "html" [] (headHtml title stylesheet :: body))).toList =
      some [("rel", "stylesheet"), ("href", stylesheet)] := by
  obtain ⟨rest, hpage, hfirst⟩ := exists_printPage_eq_of_firstStylesheet? title stylesheet body
  have hend : OpensNoStylesheet "</title>".toList := @opensNoStylesheet_endTag "title" (by decide)
  rw [hpage, String.toList_append, String.toList_append, String.toList_append, List.append_assoc,
    List.append_assoc, opensNoStylesheet_pageStart, htitle, hend, hfirst]

/-- Attributes are read back with the very values they were made of: those of a link, those of an
image whose description is text, and no others.  A page starts with its title, and behind that the
link to its stylesheet is the first one, with the very name of the stylesheet; it is the first one
of all if none begins in a text that the title takes over as it stands. -/
theorem startTag?_of_link_image_page :
    (∀ inlines url title html, Node.inlineHtml (.link inlines url title) = .ok html →
      ∃ children, Node.inlinesHtml inlines = .ok children ∧
        startTag? (Html.printAll html).toList =
          some (⟨"a", [("href", url), ("title", title)]⟩,
            (Html.printAll children ++ "</a>").toList)) ∧
    (∀ inlines url title,
      (∃ alt html, Node.plainTexts inlines = .ok alt ∧
        Node.inlineHtml (.image inlines url title) = .ok html ∧
        startTag? (Html.printAll html).toList =
          some (⟨"img", [("src", url), ("alt", alt), ("title", title), ("class", "centered")]⟩,
            [])) ∨
      ∃ cause, Node.plainTexts inlines = .error cause ∧
        Node.inlineHtml (.image inlines url title) = .error (.noInlines cause)) ∧
    ∀ (doc : Document) (stylesheet page : String), doc.page stylesheet = .ok page →
      ∃ title rest, doc.headTitle = .ok title ∧
        page = "<!DOCTYPE html>\n<html><head><title>" ++ title ++ "</title>" ++ rest ∧
        firstStylesheet? rest.toList = some [("rel", "stylesheet"), ("href", stylesheet)] ∧
        ((∀ node ∈ Node.allRendered (Node.allOnOneLine doc.title),
            node.Verbatim fun text => OpensNoStylesheet text.toList) →
          firstStylesheet? page.toList = some [("rel", "stylesheet"), ("href", stylesheet)]) := by
  refine ⟨?link, ?image, ?page⟩
  case link =>
    intro inlines url title html h
    obtain ⟨children, hchildren, h⟩ := bind_eq_ok.mp h
    cases h
    have hnames : ∀ pair ∈ [("href", url), ("title", title)], isName pair.1 = true :=
      isName_of_all (show ["href", "title"].all isName = true by decide) rfl
    exact ⟨children, hchildren, startTag?_element (by decide) hnames children⟩
  case image =>
    intro inlines url title
    rw [Node.inlineHtml]
    cases halt : Node.plainTexts inlines with
    | error cause => exact .inr ⟨cause, rfl, rfl⟩
    | ok alt =>
        have hnames := isName_imageHtml url alt title
        exact .inl ⟨alt, _, rfl, rfl, startTag?_void (by decide) hnames⟩
  case page =>
    intro doc stylesheet page h
    obtain ⟨root, hroot, h⟩ := bind_eq_ok.mp h
    cases h
    unfold Document.html at hroot
    obtain ⟨html, htitle, hroot⟩ := bind_eq_ok.mp hroot
    obtain ⟨authors, _, hroot⟩ := bind_eq_ok.mp hroot
    obtain ⟨title, _, hroot⟩ := bind_eq_ok.mp hroot
    obtain ⟨date, _, hroot⟩ := bind_eq_ok.mp hroot
    obtain ⟨articles, _, hroot⟩ := bind_eq_ok.mp hroot
    cases hroot
    obtain ⟨rest, hpage, hfirst⟩ := exists_printPage_eq_of_firstStylesheet? html stylesheet [_]
    refine ⟨_, rest, bind_eq_ok.mpr ⟨html, htitle, rfl⟩, hpage, hfirst, ?_⟩
    intro hverbatim
    have hshows : Shows (.inlines (Node.allOnOneLine doc.title)) html := shows_iff.mpr htitle
    exact firstStylesheet?_printPage (opensNoStylesheet_printAll hshows hverbatim) stylesheet [_]

/-- Values that look like the end of a value, of a tag and of a page, and like references. -/
theorem startTag?_of_markup_in_values :
    let doc : Document := ⟨[.str "<link rel=\"stylesheet\">", .rawInline "html" "<i>"], [], [], []⟩
    ∃ link page, Node.inlineHtml (.link [.str "a"] "\" b=\"&quot;" "'></a>&amp;amp;") = .ok link ∧
      startTag? (Html.printAll link).toList =
        some (⟨"a", [("href", "\" b=\"&quot;"), ("title", "'></a>&amp;amp;")]⟩, "a</a>".toList) ∧
      doc.page "\"><link rel=\"stylesheet\" href=\"&lt;" = .ok page ∧
      firstStylesheet? page.toList =
        some [("rel", "stylesheet"), ("href", "\"><link rel=\"stylesheet\" href=\"&lt;")] := by
  intro doc
  obtain ⟨hlinks, _, hpages⟩ := startTag?_of_link_image_page
  obtain ⟨link, hlink⟩ : ∃ link,
      Node.inlineHtml (.link [.str "a"] "\" b=\"&quot;" "'></a>&amp;amp;") = .ok link := ⟨_, rfl⟩
  obtain ⟨children, hchildren, htag⟩ := hlinks _ _ _ _ hlink
  cases hchildren
  obtain ⟨page, hpage⟩ : ∃ page,
      doc.page "\"><link rel=\"stylesheet\" href=\"&lt;" = .ok page := ⟨_, rfl⟩
  obtain ⟨title, rest, _, _, _, hfirst⟩ := hpages doc _ page hpage
  have hmarkup : OpensNoStylesheet "<i>".toList :=
    opensNoStylesheet_tag (show '<' ∉ "i".toList by decide) (by decide) (by decide)
  have hnodes : Node.allRendered (Node.allOnOneLine doc.title) =
      [.str "<link rel=\"stylesheet\">", .rawInline "html" "<i>"] := by rfl
  refine ⟨link, page, hlink, htag, hpage, hfirst ?_⟩
  rw [hnodes]
  simpa [Node.Verbatim] using hmarkup

/-- Raw markup in a title can end it and link to another stylesheet. -/
theorem firstStylesheet?_of_link_in_title :
    let doc : Document := ⟨[.rawInline "html" "</title>",
      .rawInline "html" "<link rel=\"stylesheet\" href=\"x\">"], [], [], []⟩
    ∃ page, doc.page "syntax.css" = .ok page ∧
      firstStylesheet? page.toList = some [("rel", "stylesheet"), ("href", "x")] := by
  intro doc
  let title : List Html :=
    [.verbatim "</title>", .verbatim "<link rel=\"stylesheet\" href=\"x\">"]
  obtain ⟨body, hroot⟩ : ∃ body, doc.html "syntax.css" =
      .ok (.element "html" [] (headHtml title "syntax.css" :: body)) := ⟨_, rfl⟩
  obtain ⟨rest, hpage⟩ := exists_printPage_eq_link title "syntax.css" body
  have hlink : Html.printAll title =
      "</title>" ++ printTag "link" [("rel", "stylesheet"), ("href", "x")] := by rfl
  have hend : OpensNoStylesheet "</title>".toList := @opensNoStylesheet_endTag "title" (by decide)
  refine ⟨_, bind_eq_ok.mpr ⟨_, hroot, rfl⟩, ?_⟩
  rw [hpage, hlink]
  simp only [String.append_assoc, String.toList_append] at hend ⊢
  rw [opensNoStylesheet_pageStart, hend]
  exact firstStylesheet?_printTag "x" _

end LiveDeck
