import LiveDeck.Proofs.Deck.Exits
import LiveDeck.Proofs.Files.Directories

/-! # Repeated ticks

A tick that is repeated at once changes nothing more.  What can get in its way are the paths: the
stylesheet and the deck of the first tick might change where the paths of the second one lead.
They do not, because a write makes no directory and takes none away (`Files.sameDirectories_write`),
and paths that can be followed lead through directories only (`Files.place_eq_ok_iff`).  So the
stylesheet is there after the first tick (`Files.holds_of_ensureStyleSheet`), the second one does
what is left of the first, and if that wrote the deck, the source still says the text that is
remembered now (`Files.readText_of_write`).

Main statement (`tick_tick`): the files and the remembered text stay, a tick that was no failure is
followed by one that changes nothing, and a failure by the same failure. -/

namespace LiveDeck

namespace Files

variable {files before after : Files} {path other : Path}

/-! ### Texts and stylesheets -/

theorem readText_of_write {written : List UInt8} {text : List Char}
    (hapart : before.Apart path other) (htext : before.readText path = .ok text)
    (h : before.write other written = .ok after) : after.readText path = .ok text := by
  unfold readText at htext
  split at htext
  · cases htext
  · rename_i bytes hread
    unfold readText
    rw [read_of_write hapart hread h]
    exact htext

theorem ensureStyleSheet_of_holds (h : files.holds path = true) (style : String) :
    files.ensureStyleSheet path style = .ok (false, files) := by
  unfold ensureStyleSheet
  rw [if_pos h]

theorem sameDirectories_ensureStyleSheet {style : String} {isNew : Bool}
    (h : before.ensureStyleSheet path style = .ok (isNew, after)) : SameDirectories before after := by
  rcases ensureStyleSheet_eq_ok h with ⟨_, _, rfl⟩ | ⟨_, _, css, _, hwrite⟩
  · exact SameDirectories.refl _
  · exact sameDirectories_write hwrite

theorem holds_of_ensureStyleSheet {style : String} {isNew : Bool}
    (h : before.ensureStyleSheet path style = .ok (isNew, after)) : after.holds path = true := by
  rcases ensureStyleSheet_eq_ok h with ⟨hholds, _, rfl⟩ | ⟨_, _, css, _, hwrite⟩
  · exact hholds
  · exact holds_of_written hwrite

end Files

namespace Job

variable {job : Job} {files ready : Files} {last? : Option (List Char)}

/-! ### Ticks -/

theorem tick_of_holds (h : files.holds job.styleSheet = true) :
    job.tick files last? = job.refresh files last? := by
  unfold tick
  rw [Files.ensureStyleSheet_of_holds h]

theorem refresh_of_remembered {text : List Char} (h : files.readText job.source = .ok text) :
    job.refresh files (some text) = ⟨files, some text, [], .ok .unchanged⟩ := by
  unfold refresh
  rw [h]
  exact if_pos rfl

/-- A tick after one that wrote the deck has nothing to do: the stylesheet and the source are as the
first one left and found them. -/
theorem tick_of_updated {text? : Except TickFault (List Char)} {first : Tick} {text : List Char}
    {bytes : List UInt8} (hholds : ready.holds job.styleSheet = true)
    (hapart : ready.Apart job.source job.deck) (htext : ready.readText job.source = .ok text)
    (h : job.Updated ready last? text? first text bytes) :
    job.tick first.files first.last? = ⟨first.files, first.last?, [], .ok .unchanged⟩ := by
  rw [tick_of_holds (Files.holds_of_write hholds h.written), h.last_eq]
  exact refresh_of_remembered (Files.readText_of_write hapart htext h.written)

/-- A tick after one that emptied the deck empties it again: the source says the same text, whose
page still has no bytes. -/
theorem tick_of_emptied {text? : Except TickFault (List Char)} {first : Tick} {text : List Char}
    {fault : Utf8.Unencodable} (hholds : ready.holds job.styleSheet = true)
    (hapart : ready.Apart job.source job.deck) (htext : ready.readText job.source = .ok text)
    (h : job.Emptied ready last? text? first text fault) :
    job.tick first.files first.last? =
      ⟨first.files, first.last?, [], .error (.unencodable fault)⟩ := by
  obtain ⟨html, hpage, hencode⟩ := h.isUnencodable
  have hagain : first.files.write job.deck [] = .ok first.files := Files.write_again h.written
  rw [tick_of_holds (Files.holds_of_write hholds h.written), h.last_eq]
  unfold refresh
  rw [Files.readText_of_write hapart htext h.written]
  simp only [h.isNew, if_false, rendering_of_isPage hpage, hencode, hagain]

end Job

/-- Two ticks with nothing in between, of a source and a deck that are different files.  The second
one leaves the files and the remembered text as the first one did.  If the first one made the deck
or found it up to date, the second one finds it up to date; otherwise it fails as the first one did,
with the same refusal or the same fault. -/
theorem tick_tick {job : Job} {files : Files} (last? : Option (List Char))
    (hapart : files.Apart job.source job.deck) :
    let first := job.tick files last?
    let second := job.tick first.files first.last?
    second.files = first.files ∧ second.last? = first.last? ∧
      (first.outcome = .ok .updated ∨ first.outcome = .ok .unchanged →
        second.outcome = .ok .unchanged) ∧
      (first.outcome ≠ .ok .updated → first.outcome ≠ .ok .unchanged →
        second.outcome = first.outcome) := by
  intro first second
  cases hensure : files.ensureStyleSheet job.styleSheet job.style with
  | error fault =>
      have hfirst : first = ⟨files, last?, [], .error fault⟩ :=
        Job.tick_of_ensureStyleSheet_error hensure
      have hsecond : second = first := by
        show job.tick first.files first.last? = first
        rw [hfirst]
        exact Job.tick_of_ensureStyleSheet_error hensure
      rw [hsecond]
      refine ⟨rfl, rfl, ?_, fun _ _ => rfl⟩
      rw [hfirst]
      rintro (h | h)
      · cases h
      · cases h
  | ok result =>
      obtain ⟨isNew, ready⟩ := result
      have hholds := Files.holds_of_ensureStyleSheet hensure
      have hready := hapart.of_sameDirectories (Files.sameDirectories_ensureStyleSheet hensure)
      obtain ⟨hfiles, hlast, houtcome⟩ := Job.tick_of_ensureStyleSheet last? hensure
      have hsecond : second =
          job.tick (job.refresh ready last?).files (job.refresh ready last?).last? := by
        show job.tick (job.tick files last?).files (job.tick files last?).last? = _
        rw [hfiles, hlast]
      rw [hfiles, hlast, houtcome, hsecond]
      cases Job.exit_refresh job ready last? with
      | kept hkept =>
          rw [hkept.files_eq, hkept.last_eq, Job.tick_of_holds hholds]
          refine ⟨hkept.files_eq, hkept.last_eq, ?_, fun _ _ => rfl⟩
          rintro (h | h)
          · exact absurd h hkept.not_updated
          · exact h
      | updated hupdated =>
          rw [Job.tick_of_updated hholds hready hupdated.text_eq hupdated]
          exact ⟨rfl, rfl, fun _ => rfl, fun h => absurd hupdated.outcome_eq h⟩
      | emptied hemptied =>
          rw [Job.tick_of_emptied hholds hready hemptied.text_eq hemptied, hemptied.outcome_eq]
          refine ⟨rfl, rfl, ?_, fun _ _ => rfl⟩
          rintro (h | h)
          · cases h
          · cases h

/-- No stylesheet and no source: the first tick makes the stylesheet and fails, and so does the second
one, which finds the stylesheet. -/
theorem tick_tick_of_missing_source :
    let job : Job := ⟨⟨.here, ["a.md"]⟩, ⟨.here, ["a.html"]⟩, "bw", ⟨.here, ["syntax.css"]⟩⟩
    let files : Files := ⟨["d"], [([], .directory), (["d"], .directory)]⟩
    let first := job.tick files none
    let second := job.tick first.files first.last?
    files.Apart job.source job.deck ∧
      first.outcome = .error (.file ⟨.missing, "a.md"⟩) ∧ second.files = first.files ∧
      second.outcome = .error (.file ⟨.missing, "a.md"⟩) := by
  intro job files first second
  have hapart : files.Apart job.source job.deck := .of_target_ne (by decide)
  have houtcome : first.outcome = .error (.file ⟨.missing, "a.md"⟩) := by
    have hcss : Code.styleSheet job.style = .ok Code.plainStyle.css := rfl
    have hstyle : files.place job.styleSheet = .ok ["d", "syntax.css"] :=
      Files.place_of_name (by decide) (by decide) rfl
    have hsource : files.place job.source = .ok ["d", "a.md"] :=
      Files.place_of_name (by decide) (by decide) rfl
    have hholds : files.holds job.styleSheet = false := by
      unfold Files.holds
      rw [hstyle]
      rfl
    have hwrite : ∀ bytes, files.write job.styleSheet bytes =
        .ok (files.put ["d", "syntax.css"] (.file bytes)) :=
      fun bytes => Files.write_eq_ok_iff.mpr ⟨_, hstyle, by decide, rfl⟩
    have hensure : files.ensureStyleSheet job.styleSheet job.style = .ok (true,
        files.put ["d", "syntax.css"] (.file (Utf8.encode Code.plainStyle.css.toList))) := by
      unfold Files.ensureStyleSheet
      rw [hholds, hcss]
      simp only [hwrite, Bool.false_eq_true, if_false]
    have hmissing : ∀ bytes, (files.put ["d", "syntax.css"] (.file bytes)).readText job.source =
        .error (.file ⟨.missing, "a.md"⟩) := by
      intro bytes
      have hsame := Files.sameDirectories_write (hwrite bytes)
      unfold Files.readText Files.read
      rw [(Files.place_eq_ok_iff hsame).mpr hsource]
      rfl
    rw [(Job.tick_of_ensureStyleSheet none hensure).2.2, Job.refresh, hmissing]
  obtain ⟨hfiles, _, _, hretried⟩ := tick_tick none hapart
  refine ⟨hapart, houtcome, hfiles, ?_⟩
  rw [← houtcome]
  exact hretried (by rw [houtcome]; nofun) (by rw [houtcome]; nofun)

end LiveDeck
