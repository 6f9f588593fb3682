import Mathlib
import LiveDeck.Proofs.Deck.Unencodable

/-! # What a tick leaves alone

A tick goes through at most one tree between the one it finds and the one it leaves: the one in
which its stylesheet is ready (`Job.Ready`).  `tick_of_ready` says what it does from there: it
writes the deck and remembers the text of the source, or it does neither, or it empties the deck
for a page that has no bytes.  `tick_frame` is what follows for the files and the remembered text,
however the tick ends.  Deck and stylesheet have to be different files, that is, their paths have to
lead to different places.

A failure does not always leave the deck alone: `tick_empties_deck_of_surrogate` is a deck lost to a
surrogate in the title of its source. -/

namespace LiveDeck

theorem Files.SameAt.trans {place : Place} {before between after : Files}
    (h₁ : SameAt place before between) (h₂ : SameAt place between after) :
    SameAt place before after :=
  ⟨h₂.1.trans h₁.1, h₂.2.trans h₁.2⟩

theorem Files.find?_target_of_not_holds {files after : Files} {path : Path} {bytes : List UInt8}
    (hholds : files.holds path = false) (hwrite : files.write path bytes = .ok after) :
    files.find? (path.target files.here) = none := by
  unfold write at hwrite
  split at hwrite
  · cases hwrite
  · rename_i place hplace
    unfold holds at hholds
    rw [hplace] at hholds
    rw [← place_eq_ok hplace]
    have hempty : (files.find? place).isSome = false := hholds
    rwa [Option.isSome_eq_false_iff, Option.isNone_iff_eq_none] at hempty

namespace Job

/-- The files with the stylesheet in place: those that were there if something stood at its place
or its path leads nowhere, and otherwise those with the stylesheet of the style. -/
def Ready (job : Job) (files ready : Files) : Prop :=
  ready = files ∨
    files.find? (job.styleSheetPlace files) = none ∧
      ∃ css, Code.styleSheet job.style = .ok css ∧
        ready = files.put (job.styleSheetPlace files) (.file (Utf8.encode css.toList))

variable {job : Job} {files ready : Files} {last? : Option (List Char)}

theorem ready_of_ensureStyleSheet {isNew : Bool}
    (h : files.ensureStyleSheet job.styleSheet job.style = .ok (isNew, ready)) :
    job.Ready files ready := by
  rcases Files.ensureStyleSheet_eq_ok h with ⟨_, _, hready⟩ | ⟨hholds, _, css, hcss, hwrite⟩
  · exact Or.inl hready
  · have hnone := Files.find?_target_of_not_holds hholds hwrite
    exact Or.inr ⟨hnone, css, hcss, Files.write_eq_ok hwrite⟩

/-- Every tick starts from a tree with the stylesheet in place, unless it fails before; then it
leaves the tree as it is. -/
theorem tick_of_ready (job : Job) (files : Files) (last? : Option (List Char)) :
    ∃ ready, job.Ready files ready ∧
      job.Exit ready last? (job.textRead files) (job.tick files last?) := by
  rcases tick_cases job files last? with hkept | ⟨isNew, ready, hensure, hexit⟩
  · exact ⟨files, Or.inl rfl, .kept hkept⟩
  · exact ⟨ready, ready_of_ensureStyleSheet hensure, hexit⟩

theorem Ready.here_eq (h : job.Ready files ready) : ready.here = files.here := by
  rcases h with rfl | ⟨_, css, _, rfl⟩
  · rfl
  · rfl

theorem Ready.sameAt (h : job.Ready files ready) {place : Place}
    (hne : place ≠ job.styleSheetPlace files) : Files.SameAt place files ready := by
  rcases h with rfl | ⟨_, css, _, rfl⟩
  · exact Files.SameAt.refl place _
  · exact Files.sameAt_put hne _

theorem Ready.sameAt_styleSheetPlace (h : job.Ready files ready)
    (hsome : files.find? (job.styleSheetPlace files) ≠ none) :
    Files.SameAt (job.styleSheetPlace files) files ready := by
  rcases h with rfl | ⟨hnone, _⟩
  · exact Files.SameAt.refl _ _
  · exact absurd hnone hsome

theorem Ready.find?_styleSheetPlace (h : job.Ready files ready)
    (hnone : files.find? (job.styleSheetPlace files) = none) :
    ready.find? (job.styleSheetPlace files) = none ∨
      ∃ css, Code.styleSheet job.style = .ok css ∧
        ready.find? (job.styleSheetPlace files) = some (.file (Utf8.encode css.toList)) := by
  rcases h with rfl | ⟨_, css, hcss, rfl⟩
  · exact Or.inl hnone
  · refine Or.inr ⟨css, hcss, ?_⟩
    rw [Files.find?_put, if_pos rfl]

/-- After the stylesheet, the deck is all that a tick changes. -/
theorem sameAt_of_exit {text? : Except TickFault (List Char)} {tick : Tick} {place : Place}
    (hne : place ≠ job.deckPlace ready) (h : job.Exit ready last? text? tick) :
    Files.SameAt place ready tick.files := by
  cases h with
  | kept hkept =>
      rw [hkept.files_eq]
      exact Files.SameAt.refl place _
  | updated hupdated => exact Files.sameAt_write hne hupdated.written
  | emptied hemptied => exact Files.sameAt_write hne hemptied.written

end Job

/-- However a tick ends: unless it reports a new deck, the remembered text is as before, and so is
what stands at the place of the deck, except that the deck is empty after a tick whose text is new
and has a page without bytes.  If it does report a new deck, it remembers the text that it read,
which is a new one.  What stands at the place of the stylesheet stays, and if nothing does, nothing
or the stylesheet of the style stands there afterwards.  All other places are as before. -/
theorem tick_frame {job : Job} {files : Files} (last? : Option (List Char))
    (hne : job.deckPlace files ≠ job.styleSheetPlace files) :
    let tick := job.tick files last?
    (tick.outcome ≠ .ok .updated → tick.last? = last? ∧
      ((∀ fault, tick.outcome ≠ .error (.unencodable fault)) →
        Files.SameAt (job.deckPlace files) files tick.files)) ∧
    (∀ fault, tick.outcome = .error (.unencodable fault) →
      tick.files.find? (job.deckPlace files) = some (.file []) ∧
        ∃ text, job.textRead files = .ok text ∧ last? ≠ some text ∧
          job.IsUnencodable text fault) ∧
    (tick.outcome = .ok .updated →
      ∃ text, job.textRead files = .ok text ∧ tick.last? = some text ∧ last? ≠ some text) ∧
    (files.find? (job.styleSheetPlace files) ≠ none →
      Files.SameAt (job.styleSheetPlace files) files tick.files) ∧
    (files.find? (job.styleSheetPlace files) = none →
      tick.files.find? (job.styleSheetPlace files) = none ∨
        ∃ css, Code.styleSheet job.style = .ok css ∧
          tick.files.find? (job.styleSheetPlace files) = some (.file (Utf8.encode css.toList))) ∧
    ∀ place, place ≠ job.deckPlace files → place ≠ job.styleSheetPlace files →
      Files.SameAt place files tick.files := by
  intro tick
  obtain ⟨ready, hready, hexit⟩ := job.tick_of_ready files last?
  have hdeck : job.deckPlace ready = job.deckPlace files := Job.deckPlace_of_here hready.here_eq
  have hafter : ∀ place, place ≠ job.deckPlace files → Files.SameAt place ready tick.files := by
    intro place hplace
    rw [← hdeck] at hplace
    exact Job.sameAt_of_exit hplace hexit
  refine ⟨?kept, ?emptied, ?updated, ?present, ?absent, ?elsewhere⟩
  case kept =>
    intro hnot
    cases hexit with
    | kept hkept =>
        refine ⟨hkept.last_eq, fun _ => ?_⟩
        show Files.SameAt _ files (job.tick files last?).files
        rw [hkept.files_eq]
        exact hready.sameAt hne
    | updated hupdated => exact absurd hupdated.outcome_eq hnot
    | emptied hemptied =>
        exact ⟨hemptied.last_eq, fun hencodable => absurd hemptied.outcome_eq (hencodable _)⟩
  case emptied =>
    intro fault houtcome
    cases hexit with
    | kept hkept => exact absurd houtcome (hkept.not_emptied fault)
    | updated hupdated => cases hupdated.outcome_eq.symm.trans houtcome
    | emptied hemptied =>
        cases hemptied.outcome_eq.symm.trans houtcome
        refine ⟨?_, _, hemptied.text_eq, hemptied.isNew, hemptied.isUnencodable⟩
        rw [← hdeck]
        exact Files.find?_target_of_write hemptied.written
  case updated =>
    intro houtcome
    cases hexit with
    | kept hkept => exact absurd houtcome hkept.not_updated
    | updated hupdated => exact ⟨_, hupdated.text_eq, hupdated.last_eq, hupdated.isNew⟩
    | emptied hemptied => cases hemptied.outcome_eq.symm.trans houtcome
  case present =>
    intro hsome
    exact (hready.sameAt_styleSheetPlace hsome).trans (hafter _ hne.symm)
  case absent =>
    intro hnone
    rw [(hafter _ hne.symm).2]
    exact hready.find?_styleSheetPlace hnone
  case elsewhere =>
    intro place hplace hother
    exact (hready.sameAt hother).trans (hafter place hplace)

/-- A source that cannot be read keeps the deck, the stylesheet and the remembered text. -/
theorem tick_frame_of_missing_source :
    let job : Job := ⟨⟨.here, ["a.md"]⟩, ⟨.here, ["a.html"]⟩, "bw", ⟨.here, ["syntax.css"]⟩⟩
    let files : Files := ⟨["d"], [([], .directory), (["d"], .directory),
      (["d", "a.html"], .file [60, 62]), (["d", "syntax.css"], .file [])]⟩
    let tick := job.tick files (some "***".toList)
    job.deckPlace files ≠ job.styleSheetPlace files ∧
      tick.outcome = .error (.file ⟨.missing, "a.md"⟩) ∧
      tick.files.find? ["d", "a.html"] = some (.file [60, 62]) ∧
      tick.files.find? ["d", "syntax.css"] = some (.file []) ∧ tick.last? = some "***".toList := by
  intro job files tick
  have hne : job.deckPlace files ≠ job.styleSheetPlace files := by decide
  have houtcome : tick.outcome = .error (.file ⟨.missing, "a.md"⟩) := by
    show (job.tick files (some "***".toList)).outcome = _
    cbv
  have hnot : tick.outcome ≠ .ok .updated := by
    rw [houtcome]
    simp
  have hsome : files.find? (job.styleSheetPlace files) ≠ none := by decide
  have hencodable : ∀ fault, tick.outcome ≠ .error (.unencodable fault) := by
    intro fault hother
    cases houtcome.symm.trans hother
  obtain ⟨hkept, _, _, hexisting, _⟩ := tick_frame (some "***".toList) hne
  obtain ⟨hlast, hdeck⟩ := hkept hnot
  exact ⟨hne, houtcome, (hdeck hencodable).2, (hexisting hsome).2, hlast⟩

/-- A surrogate in the title: the tick fails, and the deck of an earlier day is empty. -/
theorem tick_empties_deck_of_surrogate :
    let tick := Job.surrogateJob.tick Job.surrogateFiles none
    Job.surrogateJob.deckPlace Job.surrogateFiles ≠
        Job.surrogateJob.styleSheetPlace Job.surrogateFiles ∧
      tick.outcome ≠ .ok .updated ∧
      Job.surrogateFiles.find? ["d", "a.html"] = some (.file [60, 62]) ∧
      tick.files.find? ["d", "a.html"] = some (.file []) := by
  intro tick
  obtain ⟨⟨fault, houtcome⟩, hfiles, _⟩ := Job.tick_surrogateFiles (Option.some_ne_none _).symm
  refine ⟨by decide, ?_, by decide, ?_⟩
  · show (Job.surrogateJob.tick Job.surrogateFiles none).outcome ≠ _
    rw [houtcome]
    nofun
  · show (Job.surrogateJob.tick Job.surrogateFiles none).files.find? _ = _
    rw [hfiles, Files.find?_put, if_pos rfl]

end LiveDeck
