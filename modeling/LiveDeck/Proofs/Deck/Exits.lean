import LiveDeck.Deck.Tick
import LiveDeck.Proofs.Files.Targets

/-! # How a tick ends

A tick makes its stylesheet ready, reads the text of the source (`Job.textRead`), and opens the
deck only if the text is new and has a page (`Job.IsPage`).  `tick_cases` lists all its exits, so
that what a tick keeps is read off four cases: no stylesheet, a deck that is not opened
(`Job.Kept`), a new deck (`Job.Updated`), and a deck that is opened for a page without bytes and
left empty (`Job.Emptied`). -/

namespace LiveDeck

namespace Job

/-- The text that a tick reads: what the source says once the stylesheet is there. -/
def textRead (job : Job) (files : Files) : Except TickFault (List Char) :=
  match files.ensureStyleSheet job.styleSheet job.style with
  | .error fault => .error fault
  | .ok (_, ready) => ready.readText job.source

/-- The text is a document, and the document has the page. -/
def IsPage (job : Job) (text : List Char) (html : String) : Prop :=
  ∃ doc, Document.read text = .ok doc ∧ doc.render job.styleSheet.name = .ok (.page html)

/-- The text has a page with the given bytes. -/
def IsDeck (job : Job) (text : List Char) (bytes : List UInt8) : Prop :=
  ∃ html, job.IsPage text html ∧ Utf8.encodeSpelled html.toList = .ok bytes

/-- The text has a page without bytes. -/
def IsUnencodable (job : Job) (text : List Char) (fault : Utf8.Unencodable) : Prop :=
  ∃ html, job.IsPage text html ∧ Utf8.encodeSpelled html.toList = .error fault

/-- The place of the deck. -/
def deckPlace (job : Job) (files : Files) : Place := job.deck.target files.here

/-- The place of the stylesheet. -/
def styleSheetPlace (job : Job) (files : Files) : Place := job.styleSheet.target files.here

theorem deckPlace_of_here {job : Job} {before after : Files} (h : after.here = before.here) :
    job.deckPlace after = job.deckPlace before := by
  unfold deckPlace
  rw [h]

theorem isPage_of_rendering {job : Job} {text : List Char} {html : String}
    (h : job.rendering text = .ok (.page html)) : job.IsPage text html := by
  unfold rendering at h
  split at h
  · cases h
  · rename_i doc hread
    split at h
    · cases h
    · rename_i rendering hrender
      rw [Except.ok.inj h] at hrender
      exact ⟨doc, hread, hrender⟩

theorem rendering_of_isPage {job : Job} {text : List Char} {html : String}
    (h : job.IsPage text html) : job.rendering text = .ok (.page html) := by
  obtain ⟨doc, hread, hrender⟩ := h
  unfold rendering
  rw [hread]
  simp only [hrender]

end Job

theorem Files.ensureStyleSheet_eq_ok {files ready : Files} {path : Path} {style : String}
    {isNew : Bool} (h : files.ensureStyleSheet path style = .ok (isNew, ready)) :
    (files.holds path = true ∧ isNew = false ∧ ready = files) ∨
      (files.holds path = false ∧ isNew = true ∧ ∃ css, Code.styleSheet style = .ok css ∧
        files.write path (Utf8.encode css.toList) = .ok ready) := by
  unfold ensureStyleSheet at h
  split at h
  · rename_i hholds
    cases h
    exact Or.inl ⟨hholds, rfl, rfl⟩
  · rename_i hholds
    right
    split at h
    · cases h
    · rename_i css hcss
      split at h
      · cases h
      · rename_i written hwrite
        cases h
        exact ⟨by simpa using hholds, rfl, css, hcss, hwrite⟩

/-- Making the stylesheet ready changes nothing but the place of the stylesheet. -/
theorem Files.sameAt_ensureStyleSheet {files ready : Files} {path : Path} {style : String}
    {isNew : Bool} {place : Place} (hne : place ≠ path.target files.here)
    (h : files.ensureStyleSheet path style = .ok (isNew, ready)) : SameAt place files ready := by
  rcases ensureStyleSheet_eq_ok h with ⟨_, _, rfl⟩ | ⟨_, _, css, _, hwrite⟩
  · exact SameAt.refl place _
  · exact sameAt_write hne hwrite

/-! ### Faults before the deck is opened

Only a page that is written may turn out to have no bytes. -/

section faults

variable {files : Files} {path : Path} {fault : TickFault}

theorem Files.ne_unencodable_of_ensureStyleSheet {style : String}
    (h : files.ensureStyleSheet path style = .error fault) (cause : Utf8.Unencodable) :
    fault ≠ .unencodable cause := by
  unfold ensureStyleSheet at h
  split at h
  · cases h
  · split at h
    · cases h
      nofun
    · split at h
      · cases h
        nofun
      · cases h

theorem Files.ne_unencodable_of_readText (h : files.readText path = .error fault)
    (cause : Utf8.Unencodable) : fault ≠ .unencodable cause := by
  unfold readText at h
  split at h
  · cases h
    nofun
  · split at h
    · cases h
      nofun
    · cases h

theorem Job.ne_unencodable_of_rendering {job : Job} {text : List Char}
    (h : job.rendering text = .error fault) (cause : Utf8.Unencodable) :
    fault ≠ .unencodable cause := by
  unfold rendering at h
  split at h
  · cases h
    nofun
  · split at h
    · cases h
      nofun
    · cases h

end faults

namespace Job

variable {job : Job} {files : Files} {last? : Option (List Char)}

/-- A tick whose stylesheet cannot be made ready leaves everything to the next one. -/
theorem tick_of_ensureStyleSheet_error {fault : TickFault}
    (h : files.ensureStyleSheet job.styleSheet job.style = .error fault) :
    job.tick files last? = ⟨files, last?, [], .error fault⟩ := by
  unfold tick
  rw [h]

/-- Once the stylesheet is ready, a tick is what becomes of the source, and perhaps one more
record. -/
theorem tick_of_ensureStyleSheet (last? : Option (List Char)) {ready : Files}
    {isNew : Bool}
    (h : files.ensureStyleSheet job.styleSheet job.style = .ok (isNew, ready)) :
    (job.tick files last?).files = (job.refresh ready last?).files ∧
      (job.tick files last?).last? = (job.refresh ready last?).last? ∧
      (job.tick files last?).outcome = (job.refresh ready last?).outcome := by
  unfold tick
  rw [h]
  cases isNew with
  | false => exact ⟨rfl, rfl, rfl⟩
  | true => exact ⟨rfl, rfl, rfl⟩

/-- A tick that does not open the deck leaves the files and the remembered text to the next one; if
the text is the remembered one, that is no failure. -/
structure Kept (files : Files) (last? : Option (List Char)) (text? : Except TickFault (List Char))
    (tick : Tick) : Prop where
  files_eq : tick.files = files
  last_eq : tick.last? = last?
  not_updated : tick.outcome ≠ .ok .updated
  not_emptied : ∀ fault, tick.outcome ≠ .error (.unencodable fault)
  unchanged : tick.outcome = .ok .unchanged → ∃ text, text? = .ok text ∧ last? = some text

/-- A tick that writes a deck: the text is new, the deck is its page, and it is remembered. -/
structure Updated (job : Job) (files : Files) (last? : Option (List Char))
    (text? : Except TickFault (List Char)) (tick : Tick) (text : List Char) (bytes : List UInt8) :
    Prop where
  text_eq : text? = .ok text
  isNew : last? ≠ some text
  isDeck : job.IsDeck text bytes
  written : files.write job.deck bytes = .ok tick.files
  last_eq : tick.last? = some text
  outcome_eq : tick.outcome = .ok .updated

/-- A tick that empties a deck: the text is new and its page has no bytes. -/
structure Emptied (job : Job) (files : Files) (last? : Option (List Char))
    (text? : Except TickFault (List Char)) (tick : Tick) (text : List Char)
    (fault : Utf8.Unencodable) : Prop where
  text_eq : text? = .ok text
  isNew : last? ≠ some text
  isUnencodable : job.IsUnencodable text fault
  written : files.write job.deck [] = .ok tick.files
  last_eq : tick.last? = last?
  outcome_eq : tick.outcome = .error (.unencodable fault)

/-- What a tick comes to once its stylesheet is ready. -/
inductive Exit (job : Job) (files : Files) (last? : Option (List Char))
    (text? : Except TickFault (List Char)) (tick : Tick) : Prop
  | kept : Kept files last? text? tick → Exit job files last? text? tick
  | updated {text : List Char} {bytes : List UInt8} :
      job.Updated files last? text? tick text bytes → Exit job files last? text? tick
  | emptied {text : List Char} {fault : Utf8.Unencodable} :
      job.Emptied files last? text? tick text fault → Exit job files last? text? tick

theorem kept_of_fault {text? : Except TickFault (List Char)} {fault : TickFault}
    (h : ∀ cause, fault ≠ .unencodable cause) :
    Kept files last? text? ⟨files, last?, [], .error fault⟩ where
  files_eq := rfl
  last_eq := rfl
  not_updated := nofun
  not_emptied := fun cause heq => h cause (Except.error.inj heq)
  unchanged := nofun

theorem exit_refresh (job : Job) (files : Files) (last? : Option (List Char)) :
    job.Exit files last? (files.readText job.source) (job.refresh files last?) := by
  unfold refresh
  split
  · rename_i fault htext
    exact .kept (kept_of_fault (Files.ne_unencodable_of_readText htext))
  · rename_i text htext
    split
    · rename_i hlast
      exact .kept ⟨rfl, rfl, by simp, by simp, fun _ => ⟨text, htext, hlast⟩⟩
    · rename_i hlast
      split
      · rename_i fault hrendering
        exact .kept (kept_of_fault (ne_unencodable_of_rendering hrendering))
      · exact .kept ⟨rfl, rfl, by simp, by simp, by simp⟩
      · rename_i html hrendering
        have hpage := isPage_of_rendering hrendering
        split
        · rename_i fault hencode
          split
          · exact .kept (kept_of_fault nofun)
          · rename_i emptied hwrite
            exact .emptied ⟨htext, hlast, ⟨html, hpage, hencode⟩, hwrite, rfl, rfl⟩
        · rename_i bytes hencode
          split
          · exact .kept (kept_of_fault nofun)
          · rename_i written hwrite
            exact .updated ⟨htext, hlast, ⟨html, hpage, hencode⟩, hwrite, rfl, rfl⟩

theorem Exit.of_eq {text? : Except TickFault (List Char)} {tick other : Tick}
    (h : job.Exit files last? text? tick) (hfiles : other.files = tick.files)
    (hlast : other.last? = tick.last?) (houtcome : other.outcome = tick.outcome) :
    job.Exit files last? text? other := by
  cases other
  cases tick
  cases hfiles
  cases hlast
  cases houtcome
  cases h with
  | kept h => exact .kept ⟨h.files_eq, h.last_eq, h.not_updated, h.not_emptied, h.unchanged⟩
  | updated h =>
      exact .updated ⟨h.text_eq, h.isNew, h.isDeck, h.written, h.last_eq, h.outcome_eq⟩
  | emptied h =>
      exact .emptied ⟨h.text_eq, h.isNew, h.isUnencodable, h.written, h.last_eq, h.outcome_eq⟩

/-- Every way in which a tick can end. -/
theorem tick_cases (job : Job) (files : Files) (last? : Option (List Char)) :
    Kept files last? (job.textRead files) (job.tick files last?) ∨
      ∃ isNew ready, files.ensureStyleSheet job.styleSheet job.style = .ok (isNew, ready) ∧
        job.Exit ready last? (job.textRead files) (job.tick files last?) := by
  unfold textRead
  cases hensure : files.ensureStyleSheet job.styleSheet job.style with
  | error fault =>
      rw [tick_of_ensureStyleSheet_error hensure]
      exact .inl (kept_of_fault (Files.ne_unencodable_of_ensureStyleSheet hensure))
  | ok result =>
      obtain ⟨isNew, ready⟩ := result
      obtain ⟨hfiles, hlast, houtcome⟩ := tick_of_ensureStyleSheet last? hensure
      exact .inr
        ⟨isNew, ready, rfl, (exit_refresh job ready last?).of_eq hfiles hlast houtcome⟩

/-- A tick whose text is new and has a page that can be written makes the deck. -/
theorem tick_of_page {job : Job} {files ready written : Files} {last? : Option (List Char)}
    {isNew : Bool} {text : List Char} {html : String} {bytes : List UInt8}
    (hensure : files.ensureStyleSheet job.styleSheet job.style = .ok (isNew, ready))
    (htext : ready.readText job.source = .ok text) (hnew : last? ≠ some text)
    (hpage : job.rendering text = .ok (.page html))
    (hencode : Utf8.encodeSpelled html.toList = .ok bytes)
    (hwrite : ready.write job.deck bytes = .ok written) :
    (job.tick files last?).outcome = .ok .updated ∧ (job.tick files last?).files = written ∧
      (job.tick files last?).last? = some text := by
  have hrefresh : job.refresh ready last? = ⟨written, some text, [updateRecord], .ok .updated⟩ := by
    unfold refresh
    rw [htext]
    simp only [hnew, if_false, hpage, hencode, hwrite]
  obtain ⟨hfiles, hlast, houtcome⟩ := tick_of_ensureStyleSheet last? hensure
  rw [hrefresh] at hfiles hlast houtcome
  exact ⟨houtcome, hfiles, hlast⟩

/-- A tick whose text is new and has a page without bytes empties the deck. -/
theorem tick_of_unencodable {job : Job} {files ready emptied : Files} {last? : Option (List Char)}
    {isNew : Bool} {text : List Char} {html : String} {fault : Utf8.Unencodable}
    (hensure : files.ensureStyleSheet job.styleSheet job.style = .ok (isNew, ready))
    (htext : ready.readText job.source = .ok text) (hnew : last? ≠ some text)
    (hpage : job.rendering text = .ok (.page html))
    (hencode : Utf8.encodeSpelled html.toList = .error fault)
    (hwrite : ready.write job.deck [] = .ok emptied) :
    (job.tick files last?).outcome = .error (.unencodable fault) ∧
      (job.tick files last?).files = emptied ∧ (job.tick files last?).last? = last? := by
  have hrefresh : job.refresh ready last? =
      ⟨emptied, last?, [], .error (.unencodable fault)⟩ := by
    unfold refresh
    rw [htext]
    simp only [hnew, if_false, hpage, hencode, hwrite]
  obtain ⟨hfiles, hlast, houtcome⟩ := tick_of_ensureStyleSheet last? hensure
  rw [hrefresh] at hfiles hlast houtcome
  exact ⟨houtcome, hfiles, hlast⟩

end Job

end LiveDeck
