import LiveDeck.Proofs.CommandLine.Plans
import LiveDeck.Proofs.Deck.Frame

/-! # What exit codes say about the files

Code 2 says that the command line was no good and that no file was touched.  For a source that is
rendered once, code 0 says that its deck is the page of the text that was read, and code 1 that
nothing has changed but that a missing stylesheet may be there, or else that the deck has been
emptied for a page without bytes.  A single tick remembers no text, so it never finds its source
unchanged (`Job.exits_of_first_tick`); `exit_run` is what follows for whole runs, and
`exit_one_of_lost_deck` a run that ends with code 1 and without its deck. -/

namespace LiveDeck

namespace Job

/-- The deck holds the page of the text that was read. -/
def HasPage (job : Job) (before after : Files) : Prop :=
  ∃ text bytes, job.textRead before = .ok text ∧ job.IsDeck text bytes ∧
    after.find? (job.deckPlace before) = some (.file bytes)

/-- A place does not differ, unless it is that of the stylesheet and nothing stood there. -/
def KeepsPlace (job : Job) (before after : Files) (place : Place) : Prop :=
  Files.SameAt place before after ∨ place = job.styleSheetPlace before ∧ before.find? place = none

/-- No place differs, unless it is that of the stylesheet and nothing stood there. -/
def KeepsFiles (job : Job) (before after : Files) : Prop :=
  ∀ place, job.KeepsPlace before after place

/-- The text that was read has a page without bytes: the deck is empty, and no other place
differs, unless it is that of the stylesheet and nothing stood there. -/
structure LosesDeck (job : Job) (before after : Files) (text : List Char)
    (fault : Utf8.Unencodable) : Prop where
  text_eq : job.textRead before = .ok text
  isUnencodable : job.IsUnencodable text fault
  empty : after.find? (job.deckPlace before) = some (.file [])
  keeps : ∀ place, place ≠ job.deckPlace before → job.KeepsPlace before after place

theorem Ready.keepsFiles {job : Job} {files ready : Files} (h : job.Ready files ready) :
    job.KeepsFiles files ready := by
  intro place
  by_cases hplace : place = job.styleSheetPlace files
  · subst hplace
    by_cases hnone : files.find? (job.styleSheetPlace files) = none
    · exact .inr ⟨rfl, hnone⟩
    · exact .inl (h.sameAt_styleSheetPlace hnone)
  · exact .inl (h.sameAt hplace)

theorem KeepsPlace.trans {job : Job} {files ready after : Files} {place : Place}
    (h : job.KeepsPlace files ready place) (hsame : Files.SameAt place ready after) :
    job.KeepsPlace files after place := by
  rcases h with hkept | hmissing
  · exact .inl (hkept.trans hsame)
  · exact .inr hmissing

/-- A tick that remembers no text makes the deck, or keeps the files, or loses the deck; its code
says whether it has made the deck. -/
theorem exits_of_first_tick (job : Job) (files : Files) :
    let tick := job.tick files none
    tick.outcome ≠ .ok .unchanged ∧
      ((CommandLine.verdict job tick).1 = 0 ∧ job.HasPage files tick.files ∨
        (CommandLine.verdict job tick).1 = 1 ∧ (job.KeepsFiles files tick.files ∨
          ∃ text fault, job.LosesDeck files tick.files text fault)) := by
  intro tick
  obtain ⟨ready, hready, hexit⟩ := job.tick_of_ready files none
  have hdeck : job.deckPlace ready = job.deckPlace files := deckPlace_of_here hready.here_eq
  cases hexit with
  | kept hkept =>
      have hnot : tick.outcome ≠ .ok .unchanged := by
        intro h
        obtain ⟨text, _, hlast⟩ := hkept.unchanged h
        cases hlast
      refine ⟨hnot, .inr ⟨?_, .inl ?_⟩⟩
      · unfold CommandLine.verdict
        split
        · rfl
        · rename_i outcome hrefused houtcome
          cases outcome with
          | updated => exact absurd houtcome hkept.not_updated
          | unchanged => exact absurd houtcome hnot
          | refused cause => exact absurd rfl (hrefused cause)
        · rfl
      · show job.KeepsFiles files (job.tick files none).files
        rw [hkept.files_eq]
        exact hready.keepsFiles
  | updated hupdated =>
      have houtcome : tick.outcome = .ok .updated := hupdated.outcome_eq
      refine ⟨by rw [houtcome]; nofun, .inl ⟨?_, _, _, hupdated.text_eq, hupdated.isDeck, ?_⟩⟩
      · unfold CommandLine.verdict
        rw [houtcome]
      · rw [← hdeck]
        exact Files.find?_target_of_write hupdated.written
  | @emptied text fault hemptied =>
      have houtcome : tick.outcome = .error (.unencodable fault) := hemptied.outcome_eq
      refine ⟨by rw [houtcome]; nofun, .inr ⟨?_, .inr ⟨text, fault, ?_⟩⟩⟩
      · unfold CommandLine.verdict
        rw [houtcome]
      · refine ⟨hemptied.text_eq, hemptied.isUnencodable, ?_, ?_⟩
        · rw [← hdeck]
          exact Files.find?_target_of_write hemptied.written
        · intro place hplace
          rw [← hdeck] at hplace
          exact (hready.keepsFiles place).trans (sameAt_of_exit hplace (.emptied hemptied))

end Job

namespace CommandLine

variable {env : Environment} {files : Files} {script : Script} {interruption : Nat}
  {words : List String}

/-- A source that is rendered once: code 0 if there is a page, and otherwise code 1. -/
theorem exit_of_once {job : Job} (script : Script) (interruption : Nat)
    (hplan : plan env (herePath? files) words = .ok (.once job)) :
    let session := run env files script interruption words
    (∃ fault, session.exit = .error (.logLevel fault)) ∨
      session.exit = .ok 0 ∧ job.HasPage files session.files ∨
      session.exit = .ok 1 ∧ (job.KeepsFiles files session.files ∨
        ∃ text fault, job.LosesDeck files session.files text fault) := by
  intro session
  obtain ⟨fault, hexit, _⟩ | ⟨cause, hother, _⟩ | ⟨found, loggers, hother, hrun⟩ :=
    run_cases env files script interruption words
  · exact .inl ⟨fault, hexit⟩
  · rw [hplan] at hother
    cases hother
  · rw [hplan] at hother
    cases hother
    have hcode : session.exit = .ok (verdict job (job.tick files none)).1 := by
      show (run env files script interruption words).exit = _
      rw [hrun]
      rfl
    have hfiles : session.files = (job.tick files none).files := by
      show (run env files script interruption words).files = _
      rw [hrun]
      rfl
    rw [hcode, hfiles]
    obtain ⟨_, ⟨hzero, hpage⟩ | ⟨hone, hkept⟩⟩ := job.exits_of_first_tick files
    · exact .inr (.inl ⟨by rw [hzero], hpage⟩)
    · exact .inr (.inr ⟨by rw [hone], hkept⟩)

/-- A run ends with code 2 only over a command line that is no good. -/
theorem misuse_of_exit_two (h : (run env files script interruption words).exit = .ok 2) :
    (run env files script interruption words).files = files ∧
      ∃ misuse, readArguments env words = .error misuse := by
  obtain ⟨fault, hexit, _⟩ | ⟨cause, _, hexit, _⟩ | ⟨found, loggers, hplan, hrun⟩ :=
    run_cases env files script interruption words
  · rw [hexit] at h
    cases h
  · rw [hexit] at h
    cases h
  cases found with
  | explain =>
      rw [hrun] at h
      cases h
  | reject misuse =>
      refine ⟨by rw [hrun]; rfl, misuse, ?_⟩
      obtain ⟨other, hread, hfound⟩ | ⟨_, hfound⟩ | ⟨arguments, _, _, _, hfound⟩ := plan_cases hplan
      · cases hfound
        exact hread
      · cases hfound
      · split at hfound <;> cases hfound
  | once job =>
      obtain ⟨fault, hexit⟩ | ⟨hexit, _⟩ | ⟨hexit, _⟩ := exit_of_once script interruption hplan
      · rw [hexit] at h
        cases h
      · rw [hexit] at h
        cases h
      · rw [hexit] at h
        cases h
  | watch job interval =>
      rw [hrun] at h
      cases h

theorem exit_of_misuse {misuse : Misuse} (h : readArguments env words = .error misuse) :
    let session := run env files script interruption words
    session.exit = .ok 2 ∨ ∃ fault, session.exit = .error (.logLevel fault) := by
  have hreject : plan env (herePath? files) words = .ok (.reject misuse) := by
    unfold plan
    rw [h]
  obtain ⟨fault, hexit, _⟩ | ⟨cause, hplan, _⟩ | ⟨found, loggers, hplan, hrun⟩ :=
    run_cases env files script interruption words
  · exact .inr ⟨fault, hexit⟩
  · rw [hreject] at hplan
    cases hplan
  · rw [hreject] at hplan
    cases hplan
    rw [hrun]
    exact .inl rfl

theorem deckPlace_ne_of_asks {arguments : Arguments} {here? : Option Path} {job : Job}
    (h : arguments.Asks env here? job) (hne : job.deck ≠ job.styleSheet) (files : Files) :
    job.deckPlace files ≠ job.styleSheetPlace files := by
  unfold Job.deckPlace Job.styleSheetPlace
  rw [h.styleSheet_eq] at hne ⊢
  exact Path.target_ne_styleSheetBeside hne files.here

/-- What the exit code of a run says.  Code 2 means a misuse and no change at all, and every misuse
ends so unless the level of the log is none: a pause that is zero or less and an unknown style are
misuses wherever they come from.  For a source that is rendered once, with a deck whose path is not
that of the stylesheet, the code is 0 or 1; code 0 means that the deck holds the page of the text
that was read, code 1 that the deck and everything else is as before but for a stylesheet that was
missing, or that the deck has been emptied because the page of the text that was read has no bytes.
The text never counts as unchanged. -/
theorem exit_run (env : Environment) (files : Files) (script : Script) (interruption : Nat)
    (words : List String) :
    let session := run env files script interruption words
    (session.exit = .ok 2 →
      session.files = files ∧ ∃ misuse, readArguments env words = .error misuse) ∧
    (∀ misuse, readArguments env words = .error misuse →
      session.exit = .ok 2 ∨ ∃ fault, session.exit = .error (.logLevel fault)) ∧
    (∀ arguments, readArguments env words = .ok (some arguments) →
      arguments.interval.isAtMostZero = false ∧ (Code.styles.lookup arguments.style).isSome) ∧
    ∀ job, plan env (herePath? files) words = .ok (.once job) → job.deck ≠ job.styleSheet →
      ((∃ fault, session.exit = .error (.logLevel fault)) ∨
        session.exit = .ok 0 ∨ session.exit = .ok 1) ∧
      (session.exit = .ok 0 →
        ∃ text doc html bytes, job.textRead files = .ok text ∧ Document.read text = .ok doc ∧
          doc.render "syntax.css" = .ok (.page html) ∧
          Utf8.encodeSpelled html.toList = .ok bytes ∧
          session.files.find? (job.deckPlace files) = some (.file bytes)) ∧
      (session.exit = .ok 1 →
        (Files.SameAt (job.deckPlace files) files session.files ∧
            job.KeepsFiles files session.files) ∨
          ∃ text fault, job.LosesDeck files session.files text fault) ∧
      (job.tick files none).outcome ≠ .ok .unchanged := by
  intro session
  refine ⟨misuse_of_exit_two, fun misuse hread => exit_of_misuse hread, ?_, ?_⟩
  · intro arguments hread
    have haccepted := isAccepted_of_readArguments hread
    exact ⟨haccepted.interval_pos, haccepted.style_known⟩
  intro job hplan hne
  obtain ⟨arguments, _, hasks⟩ := asks_of_plan_once hplan
  have hstyleSheet : job.styleSheet.name = "syntax.css" := by
    rw [hasks.styleSheet_eq]
    exact Path.name_child _ _
  have hplaces := deckPlace_ne_of_asks hasks hne files
  have hexit := exit_of_once script interruption hplan
  refine ⟨?code, ?zero, ?one, (job.exits_of_first_tick files).1⟩
  case code =>
    obtain hfault | ⟨hzero, _⟩ | ⟨hone, _⟩ := hexit
    · exact .inl hfault
    · exact .inr (.inl hzero)
    · exact .inr (.inr hone)
  case zero =>
    intro hzero
    obtain ⟨fault, hother⟩ | ⟨_, hpage⟩ | ⟨hother, _⟩ := hexit
    · cases hzero.symm.trans hother
    · obtain ⟨text, bytes, htext, ⟨html, ⟨doc, hread, hrender⟩, hencode⟩, hfound⟩ := hpage
      rw [hstyleSheet] at hrender
      exact ⟨text, doc, html, bytes, htext, hread, hrender, hencode, hfound⟩
    · cases hzero.symm.trans hother
  case one =>
    intro hone
    obtain ⟨fault, hother⟩ | ⟨hother, _⟩ | ⟨_, hkept | hlost⟩ := hexit
    · cases hone.symm.trans hother
    · cases hone.symm.trans hother
    · obtain hdeck | ⟨hdeck, _⟩ := hkept (job.deckPlace files)
      · exact .inl ⟨hdeck, hkept⟩
      · exact absurd hdeck hplaces
    · exact .inr hlost

/-- A source that is not there: the code is 1, and the deck of an earlier day stays. -/
theorem exit_run_of_missing_source :
    let env : Environment := ⟨none, none, none, ⟨none, []⟩⟩
    let files : Files := ⟨["d"], [([], .directory), (["d"], .directory),
      (["d", "a.html"], .file [60, 62]), (["d", "syntax.css"], .file [])]⟩
    let job : Job := .beside ⟨.here, ["a.md"]⟩ ⟨.root, ["d", "a.html"]⟩ "default"
    let session := run env files (fun _ files => files) 0 ["a.md", "--once"]
    plan env (herePath? files) ["a.md", "--once"] = .ok (.once job) ∧ job.deck ≠ job.styleSheet ∧
      session.exit = .ok 1 ∧ session.files.find? ["d", "a.html"] = some (.file [60, 62]) := by
  intro env files job session
  have hplan : plan env (herePath? files) ["a.md", "--once"] = .ok (.once job) :=
    plan_once ⟨.root, ["d"]⟩ (by cbv) (by decide) (by cbv) (by decide +kernel)
  have hne : job.deck ≠ job.styleSheet := by decide
  have hmissing : job.textRead files = .error (.file ⟨.missing, "a.md"⟩) := by cbv
  have hexit : session.exit = .ok 1 := by
    have houtcome : (job.tick files none).outcome = .error (.file ⟨.missing, "a.md"⟩) := by cbv
    obtain ⟨loggers, hrun⟩ := run_of_plan (fun _ files => files) 0 (by cbv) hplan
    show (run _ _ _ _ _).exit = _
    rw [hrun]
    show Except.ok (verdict job (job.tick files none)).1 = _
    unfold verdict
    rw [houtcome]
  obtain ⟨_, _, _, honce⟩ := exit_run env files (fun _ files => files) 0 ["a.md", "--once"]
  obtain ⟨_, _, hkept, _⟩ := honce job hplan hne
  refine ⟨hplan, hne, hexit, ?_⟩
  obtain ⟨hdeck, _⟩ | ⟨text, fault, hlost⟩ := hkept hexit
  · exact hdeck.2
  · cases hmissing.symm.trans hlost.text_eq

/-- A surrogate in the title: the code is 1, and the deck of an earlier day is empty. -/
theorem exit_one_of_lost_deck :
    let env : Environment := ⟨none, none, none, ⟨none, []⟩⟩
    let session := run env Job.surrogateFiles (fun _ files => files) 0 ["a.md", "--once"]
    plan env (herePath? Job.surrogateFiles) ["a.md", "--once"] = .ok (.once Job.surrogateJob) ∧
      Job.surrogateJob.deck ≠ Job.surrogateJob.styleSheet ∧ session.exit = .ok 1 ∧
      Job.surrogateFiles.find? ["d", "a.html"] = some (.file [60, 62]) ∧
      session.files.find? ["d", "a.html"] = some (.file []) := by
  intro env session
  have hplan : plan env (herePath? Job.surrogateFiles) ["a.md", "--once"] =
      .ok (.once Job.surrogateJob) :=
    plan_once ⟨.root, ["d"]⟩ (by cbv) (by decide) (by cbv) (by decide +kernel)
  obtain ⟨loggers, hrun⟩ := run_of_plan (fun _ files => files) 0 (by cbv) hplan
  obtain ⟨⟨fault, houtcome⟩, hfiles, _⟩ := Job.tick_surrogateFiles (Option.some_ne_none _).symm
  refine ⟨hplan, by decide, ?_, by decide, ?_⟩
  · show (run _ _ _ _ _).exit = _
    rw [hrun]
    show Except.ok (verdict Job.surrogateJob (Job.surrogateJob.tick Job.surrogateFiles none)).1 = _
    unfold verdict
    rw [houtcome]
  · show (run _ _ _ _ _).files.find? _ = _
    rw [hrun]
    show (Job.surrogateJob.tick Job.surrogateFiles none).files.find? _ = _
    rw [hfiles, Files.find?_put, if_pos rfl]

end CommandLine

end LiveDeck
