import LiveDeck.Proofs.Deck.Exits
import LiveDeck.Proofs.Page.HeadTitle
import LiveDeck.Proofs.Text.CodePoints

/-! # Pages with and without bytes

A page has bytes if no text in its markup holds a null character (`Html.encodeSpelled_printPage`),
and the first of them is an angle bracket (`Job.head?_of_isDeck`).  It has none if its title begins
with a surrogate (`Document.encodeSpelled_page_of_title`).  So a source may ask for a page that
cannot be written, and a tick that does ask for it empties the deck
(`Job.tick_of_surrogateSource`). -/

namespace LiveDeck

open Text (CodePoint Surrogate)

/-! ### Markup without null characters -/

/-- Whether a text has no null character. -/
def isNullFree (text : String) : Bool := !text.toList.contains '\x00'

theorem notMem_of_isNullFree {text : String} (h : isNullFree text = true) :
    '\x00' ∉ text.toList := by
  simpa [isNullFree] using h

namespace Html

/-- Whether no attribute has a null character. -/
def haveNoNull (attributes : List (String × String)) : Bool :=
  attributes.all fun pair => isNullFree pair.1 && isNullFree pair.2

mutual

/-- Whether no text in a tree has a null character. -/
def hasNoNull : Html → Bool
  | .text content => isNullFree content
  | .hardSpace => true
  | .verbatim markup => isNullFree markup
  | .element tag attributes children =>
    isNullFree tag && haveNoNull attributes && allHaveNoNull children
  | .void tag attributes => isNullFree tag && haveNoNull attributes

/-- Whether no text in trees has a null character. -/
def allHaveNoNull : List Html → Bool
  | [] => true
  | piece :: rest => hasNoNull piece && allHaveNoNull rest

end

theorem notMem_contentReference {c : Char} (h : '\x00' ≠ c) :
    '\x00' ∉ Text.contentReference c := by
  unfold Text.contentReference
  split
  · decide
  · decide
  · decide
  · simpa using h

theorem notMem_valueReference {c : Char} (h : '\x00' ≠ c) : '\x00' ∉ Text.valueReference c := by
  unfold Text.valueReference
  split
  · decide
  · decide
  · exact notMem_contentReference h

theorem notMem_substitute {f : Char → List Char} (hf : ∀ {c}, '\x00' ≠ c → '\x00' ∉ f c)
    {text : String} (h : isNullFree text = true) :
    '\x00' ∉ (Text.substitute f text).toList := by
  unfold Text.substitute
  rw [String.toList_ofList, List.mem_flatMap]
  rintro ⟨c, hc, hmem⟩
  exact hf (fun heq => notMem_of_isNullFree h (heq ▸ hc)) hmem

theorem notMem_printAttribute {pair : String × String}
    (h : (isNullFree pair.1 && isNullFree pair.2) = true) :
    '\x00' ∉ (printAttribute pair).toList := by
  obtain ⟨hkey, hvalue⟩ := Bool.and_eq_true_iff.mp h
  simp [printAttribute, notMem_of_isNullFree hkey, Text.escapeValue,
    notMem_substitute notMem_valueReference hvalue]

theorem notMem_printTag {tag : String} {attributes : List (String × String)}
    (htag : isNullFree tag = true) (h : haveNoNull attributes = true) :
    '\x00' ∉ (printTag tag attributes).toList := by
  have hattributes : ∀ pair ∈ attributes, '\x00' ∉ (printAttribute pair).toList :=
    fun pair hpair => notMem_printAttribute (List.all_eq_true.mp h pair hpair)
  simpa [printTag, notMem_of_isNullFree htag] using hattributes

mutual

theorem notMem_print : ∀ {html : Html}, html.hasNoNull = true → '\x00' ∉ html.print.toList
  | .text _, h => notMem_substitute notMem_contentReference h
  | .hardSpace, _ => by
      rw [print]
      decide
  | .verbatim _, h => notMem_of_isNullFree h
  | .element tag attributes children, h => by
      rw [hasNoNull, Bool.and_eq_true, Bool.and_eq_true] at h
      obtain ⟨⟨htag, hattributes⟩, hchildren⟩ := h
      simp [print, notMem_printTag htag hattributes, notMem_printAll hchildren,
        notMem_of_isNullFree htag]
  | .void tag attributes, h => by
      rw [hasNoNull, Bool.and_eq_true] at h
      exact notMem_printTag h.1 h.2

theorem notMem_printAll : ∀ {html : List Html}, allHaveNoNull html = true →
    '\x00' ∉ (printAll html).toList
  | [], _ => by
      rw [printAll]
      decide
  | piece :: rest, h => by
      rw [allHaveNoNull, Bool.and_eq_true] at h
      simp [printAll, notMem_print h.1, notMem_printAll h.2]

end

/-- Markup without null characters has the bytes of its characters. -/
theorem encodeSpelled_printPage {root : Html} (h : root.hasNoNull = true) :
    Utf8.encodeSpelled (printPage root).toList = .ok (Utf8.encode (printPage root).toList) := by
  have hstart : '\x00' ∉ "<!DOCTYPE html>\n".toList := by decide
  have hpage : (printPage root).toList = "<!DOCTYPE html>\n".toList ++ root.print.toList :=
    String.toList_append
  refine Utf8.encodeSpelled_of_notMem fun hmem => ?_
  rw [hpage] at hmem
  exact (List.mem_append.mp hmem).elim hstart (notMem_print h)

end Html

/-- Every deck begins with an angle bracket. -/
theorem Job.head?_of_isDeck {job : Job} {text : List Char} {bytes : List UInt8}
    (h : job.IsDeck text bytes) : bytes.head? = some 60 := by
  obtain ⟨html, ⟨doc, _, hrender⟩, hencode⟩ := h
  unfold Document.render at hrender
  cases hpage : doc.page job.styleSheet.name with
  | error cause =>
      rw [hpage] at hrender
      cases cause with
      | unsupported _ => cases hrender
      | noInlines _ => cases hrender
  | ok page =>
      rw [hpage] at hrender
      cases hrender
      obtain ⟨root, _, hroot⟩ := bind_eq_ok.mp hpage
      cases hroot
      have hstart : "<!DOCTYPE html>\n".toList = '<' :: "!DOCTYPE html>\n".toList := by rfl
      have htext : (printPage root).toList =
          '<' :: ("!DOCTYPE html>\n".toList ++ root.print.toList) := by
        unfold printPage
        rw [String.toList_append, hstart, List.cons_append]
      rw [htext] at hencode
      obtain ⟨chars, hpoints, rfl⟩ := Utf8.encodeSpelled_eq_ok_iff.mp hencode
      rw [Text.codePoints_cons_of_ne (by decide)] at hpoints
      cases chars with
      | nil => cases hpoints
      | cons c chars =>
          cases (List.cons.inj hpoints).1
          rfl

/-! ### Titles with surrogates -/

/-- A page whose title begins with a surrogate has no bytes. -/
theorem Document.encodeSpelled_page_of_title {doc : Document} {stylesheet page title : String}
    {s : Surrogate} {others : List Char} (h : doc.page stylesheet = .ok page)
    (htitle : doc.headTitle = .ok title)
    (hstart : title.toList = (CodePoint.surrogate s).spelling ++ others) :
    ∃ fault, Utf8.encodeSpelled page.toList = .error fault := by
  obtain ⟨found, rest, hfound, hpage, _⟩ := hasBreak_headTitle h
  obtain rfl := Except.ok.inj (htitle.symm.trans hfound)
  have hnull : '\x00' ∉ "<!DOCTYPE html>\n<html><head><title>".toList := by decide
  have htext : page.toList = "<!DOCTYPE html>\n<html><head><title>".toList ++
      (CodePoint.surrogate s).spelling ++ (others ++ ("</title>".toList ++ rest.toList)) := by
    rw [hpage, String.toList_append, String.toList_append, String.toList_append, hstart]
    simp only [List.append_assoc]
  rw [htext]
  exact ⟨_, Utf8.encodeSpelled_of_surrogate hnull s _⟩

/-- A source with a surrogate for its title. -/
def surrogateSource : List Char := "---\ntitle: \"\\ud800\"\n---\n".toList

/-- The document of that source. -/
def surrogateDocument : Document := { title := [.str (String.ofList ['\x00', '𠀀'])] }

/-- Whether reading gave a document of a title alone, which is the given text. -/
def isTitled (title : String) : Except ReadError Document → Bool
  | .ok ⟨[.str text], [], [], []⟩ => text == title
  | _ => false

theorem eq_of_isTitled {title : String} {result : Except ReadError Document}
    (h : isTitled title result = true) : result = .ok { title := [.str title] } := by
  unfold isTitled at h
  split at h
  · rw [eq_of_beq h]
  · cases h

theorem Document.read_surrogateSource : read surrogateSource = .ok surrogateDocument :=
  eq_of_isTitled (by decide +kernel)

namespace Job

theorem rendering_of_page {job : Job} {text : List Char} {doc : Document} {html : String}
    (hread : Document.read text = .ok doc) (hpage : doc.page job.styleSheet.name = .ok html) :
    job.rendering text = .ok (.page html) := by
  simp only [rendering, hread, Document.render, hpage]

/-- The source has a page, which has no bytes. -/
theorem rendering_surrogateSource (job : Job) :
    ∃ html fault, job.rendering surrogateSource = .ok (.page html) ∧
      Utf8.encodeSpelled html.toList = .error fault := by
  obtain ⟨html, hpage⟩ : ∃ html, surrogateDocument.page job.styleSheet.name = .ok html := ⟨_, rfl⟩
  have htitle : surrogateDocument.headTitle = .ok (String.ofList ['\x00', '𠀀']) := by rfl
  obtain ⟨fault, hfault⟩ := Document.encodeSpelled_page_of_title hpage htitle
    (show _ = (CodePoint.surrogate 0).spelling ++ [] by decide)
  exact ⟨html, fault, rendering_of_page Document.read_surrogateSource hpage, hfault⟩

theorem tick_of_surrogateSource {job : Job} {files ready emptied : Files}
    {last? : Option (List Char)} {isNew : Bool}
    (hensure : files.ensureStyleSheet job.styleSheet job.style = .ok (isNew, ready))
    (htext : ready.readText job.source = .ok surrogateSource) (hnew : last? ≠ some surrogateSource)
    (hwrite : ready.write job.deck [] = .ok emptied) :
    (∃ fault, (job.tick files last?).outcome = .error (.unencodable fault)) ∧
      (job.tick files last?).files = emptied ∧ (job.tick files last?).last? = last? := by
  obtain ⟨html, fault, hpage, hencode⟩ := job.rendering_surrogateSource
  obtain ⟨houtcome, hfiles, hlast⟩ :=
    tick_of_unencodable hensure htext hnew hpage hencode hwrite
  exact ⟨⟨fault, houtcome⟩, hfiles, hlast⟩

/-- A directory with that source, a deck of an earlier day, and a stylesheet. -/
def surrogateFiles : Files := ⟨["d"], [([], .directory), (["d"], .directory),
  (["d", "a.md"], .file (Utf8.encode surrogateSource)), (["d", "a.html"], .file [60, 62]),
  (["d", "syntax.css"], .file [])]⟩

/-- The job of that source. -/
def surrogateJob : Job := .beside ⟨.here, ["a.md"]⟩ ⟨.root, ["d", "a.html"]⟩ "default"

theorem ensureStyleSheet_surrogateFiles :
    surrogateFiles.ensureStyleSheet surrogateJob.styleSheet surrogateJob.style =
      .ok (false, surrogateFiles) := by cbv

theorem readText_surrogateFiles :
    surrogateFiles.readText surrogateJob.source = .ok surrogateSource := by cbv

theorem tick_surrogateFiles {last? : Option (List Char)} (hnew : last? ≠ some surrogateSource) :
    (∃ fault, (surrogateJob.tick surrogateFiles last?).outcome = .error (.unencodable fault)) ∧
      (surrogateJob.tick surrogateFiles last?).files =
        surrogateFiles.put ["d", "a.html"] (.file []) ∧
      (surrogateJob.tick surrogateFiles last?).last? = last? :=
  tick_of_surrogateSource ensureStyleSheet_surrogateFiles readText_surrogateFiles hnew (by cbv)

theorem rendering_rule (job : Job) (h : isNullFree job.styleSheet.name = true) :
    ∃ html bytes, job.rendering "***".toList = .ok (.page html) ∧
      Utf8.encodeSpelled html.toList = .ok bytes := by
  have hread : Document.read "***".toList = .ok { blocks := [.horizontalRule] } := by cbv
  let root : Html := .element "html" [] [headHtml [] job.styleSheet.name,
    .element "body" [("style", "display: none")] [.element "section" [("class", templateClass)]
      [titleSlideHtml [] [] [], .element "article" [] [.void "hr" []]]]]
  have hroot : root.hasNoNull = true := by
    simp only [root, headHtml, titleSlideHtml, Html.hasNoNull, Html.allHaveNoNull,
      Html.haveNoNull, List.all_cons, List.all_nil, h, Bool.and_true]
    decide +kernel
  exact ⟨printPage root, _, rendering_of_page hread rfl, Html.encodeSpelled_printPage hroot⟩

theorem tick_of_rule {job : Job} {files ready : Files} {last? : Option (List Char)} {isNew : Bool}
    (hname : isNullFree job.styleSheet.name = true)
    (hensure : files.ensureStyleSheet job.styleSheet job.style = .ok (isNew, ready))
    (htext : ready.readText job.source = .ok "***".toList) (hnew : last? ≠ some "***".toList)
    (hwrite : ∀ bytes, ∃ written, ready.write job.deck bytes = .ok written) :
    (job.tick files last?).outcome = .ok .updated ∧
      (∃ bytes, ready.write job.deck bytes = .ok (job.tick files last?).files) ∧
      (job.tick files last?).last? = some "***".toList := by
  obtain ⟨html, bytes, hpage, hencode⟩ := job.rendering_rule hname
  obtain ⟨written, hwritten⟩ := hwrite bytes
  obtain ⟨houtcome, hfiles, hlast⟩ := tick_of_page hensure htext hnew hpage hencode hwritten
  exact ⟨houtcome, ⟨bytes, by rw [hwritten, hfiles]⟩, hlast⟩

end Job

end LiveDeck
