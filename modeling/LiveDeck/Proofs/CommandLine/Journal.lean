import LiveDeck.Proofs.CommandLine.Iteration
import LiveDeck.Proofs.CommandLine.Source
import LiveDeck.Proofs.Deck.Remembered
import LiveDeck.Proofs.Deck.Repeated

/-! # The log of a loop

What a loop logs is what its ticks log, one after another, and what a tick logs is decided by what
it does: one record if it makes the stylesheet, and one for a new deck, none for an unchanged text,
one for what goes wrong (`Job.records_tick`).  `Run.starts` lists a loop as it stands before each of
its ticks, and the log is read off it (`Run.records_ticks`).

A tick never writes the deck of the remembered text, and the text whose deck it writes is remembered
through all the ticks that write none (`Run.tick_cases`).  So the texts of two decks written one
after the other differ (`Run.isChain_writtenTexts`), and of a source that stays as it is at most one
deck is written (`Run.length_writtenTexts_le_one`).  Main statement: `journal_watch`.

A tick that writes no deck leaves the old one alone, unless its page has no bytes: then one record
tells what went wrong, and the deck is empty (`journal_of_lost_deck`). -/

namespace LiveDeck

open Log (Record)

/-- What the log says about the deck after a tick that ended so. -/
def deckRecords : Except TickFault Outcome → List Record
  | .ok .updated => [updateRecord]
  | .ok .unchanged => []
  | .ok (.refused cause) => [⟨.error, "render failed: " ++ cause.message⟩]
  | .error fault => [⟨.error, fault.kind ++ ": " ++ fault.message⟩]

theorem count_updateRecord_deckRecords {outcome : Except TickFault Outcome}
    (h : outcome ≠ .ok .updated) : (deckRecords outcome).count updateRecord = 0 := by
  unfold deckRecords
  split
  · exact absurd rfl h
  · rfl
  · exact List.count_eq_zero_of_not_mem (by simp [updateRecord])
  · exact List.count_eq_zero_of_not_mem (by simp [updateRecord])

theorem createRecord_ne_updateRecord (path : Path) : createRecord path ≠ updateRecord := by
  intro h
  have hmessage := congrArg (String.toList ∘ Record.message) h
  simp [createRecord, updateRecord] at hmessage

namespace Job

/-- What the log says about the stylesheet between two states of the files: that it is new, if it
is. -/
def styleSheetRecords (job : Job) (before after : Files) : List Record :=
  if before.find? (job.styleSheetPlace before) = none ∧
      after.find? (job.styleSheetPlace before) ≠ none then
    [createRecord job.styleSheet]
  else []

/-- What stands where the source leads to. -/
def atSource? (job : Job) (files : Files) : Option Entry := files.find? (job.sourcePlace files)

variable {job : Job} {files ready : Files} {last? : Option (List Char)}

theorem count_updateRecord_styleSheetRecords (job : Job) (before after : Files) :
    (job.styleSheetRecords before after).count updateRecord = 0 := by
  unfold styleSheetRecords
  split
  · rw [List.count_singleton, beq_eq_false_iff_ne.mpr (createRecord_ne_updateRecord _)]
    rfl
  · rfl

/-! ### Ticks -/

theorem styleSheetRecords_of_sameAt {before after : Files}
    (h : Files.SameAt (job.styleSheetPlace before) before after) :
    job.styleSheetRecords before after = [] := by
  refine if_neg ?_
  rintro ⟨hnone, hsome⟩
  exact hsome (h.2.trans hnone)

/-- Once the stylesheet is ready, what a tick logs is about the deck. -/
theorem records_refresh (job : Job) (files : Files) (last? : Option (List Char)) :
    (job.refresh files last?).records ++ (job.refresh files last?).complaint =
      deckRecords (job.refresh files last?).outcome := by
  unfold refresh
  split
  · rfl
  · split
    · rfl
    · split
      · rfl
      · rfl
      · split
        · split <;> rfl
        · split <;> rfl

/-- Apart from the deck, a tick with a stylesheet changes nothing. -/
theorem sameAt_refresh {place : Place} (hne : place ≠ job.deckPlace files) :
    Files.SameAt place files (job.refresh files last?).files :=
  sameAt_of_exit hne (exit_refresh job files last?)

theorem tick_of_new_styleSheet
    (h : files.ensureStyleSheet job.styleSheet job.style = .ok (true, ready)) :
    job.tick files last? = { job.refresh ready last? with
      records := createRecord job.styleSheet :: (job.refresh ready last?).records } := by
  unfold tick
  rw [h]

theorem styleSheetRecords_of_written {bytes : List UInt8}
    (hne : job.deckPlace files ≠ job.styleSheetPlace files)
    (hholds : files.holds job.styleSheet = false)
    (hwrite : files.write job.styleSheet bytes = .ok ready) :
    job.styleSheetRecords files (job.refresh ready last?).files =
      [createRecord job.styleSheet] := by
  have hdeck : job.deckPlace ready = job.deckPlace files :=
    deckPlace_of_here (by rw [Files.write_eq_ok hwrite]; rfl)
  have hsame : Files.SameAt (job.styleSheetPlace files) ready (job.refresh ready last?).files :=
    sameAt_refresh (by rw [hdeck]; exact hne.symm)
  refine if_pos ⟨Files.find?_target_of_not_holds hholds hwrite, ?_⟩
  rw [hsame.2, styleSheetPlace, Files.find?_target_of_write hwrite]
  nofun

/-- The log of a tick says what it did to the stylesheet, and then how it ended. -/
theorem records_tick (last? : Option (List Char))
    (hne : job.deckPlace files ≠ job.styleSheetPlace files) :
    (job.tick files last?).records ++ (job.tick files last?).complaint =
      job.styleSheetRecords files (job.tick files last?).files ++
        deckRecords (job.tick files last?).outcome := by
  cases hensure : files.ensureStyleSheet job.styleSheet job.style with
  | error fault =>
      rw [tick_of_ensureStyleSheet_error hensure,
        styleSheetRecords_of_sameAt (Files.SameAt.refl _ files)]
      rfl
  | ok result =>
      obtain ⟨isNew, ready⟩ := result
      rcases Files.ensureStyleSheet_eq_ok hensure with
        ⟨hholds, _, _⟩ | ⟨hholds, rfl, css, _, hwrite⟩
      · rw [tick_of_holds hholds, styleSheetRecords_of_sameAt (sameAt_refresh hne.symm)]
        exact records_refresh job files last?
      · rw [tick_of_new_styleSheet hensure]
        show createRecord job.styleSheet :: (job.refresh ready last?).records ++
          (job.refresh ready last?).complaint = _
        rw [styleSheetRecords_of_written hne hholds hwrite, List.cons_append, records_refresh]
        rfl

theorem Ready.atSource?_eq {tick : Tick} {text? : Except TickFault (List Char)}
    (hne : job.deckPlace files ≠ job.styleSheetPlace files) (hready : job.Ready files ready)
    (hexit : job.Exit ready last? text? tick)
    (hsame : job.atSource? tick.files = job.atSource? files) :
    job.atSource? ready = job.atSource? files := by
  have hdeck : job.deckPlace ready = job.deckPlace files := deckPlace_of_here hready.here_eq
  obtain ⟨hhere, hstyle⟩ : Files.SameAt (job.styleSheetPlace files) ready tick.files :=
    sameAt_of_exit (by rw [hdeck]; exact hne.symm) hexit
  unfold atSource? at hsame ⊢
  rw [sourcePlace_of_here (hhere.trans hready.here_eq)] at hsame
  rw [sourcePlace_of_here hready.here_eq]
  by_cases hplace : job.sourcePlace files = job.styleSheetPlace files
  · rw [hplace] at hsame ⊢
    exact hstyle.symm.trans hsame
  · exact (hready.sameAt hplace).2

/-- If a tick writes the deck and leaves the source as it was, the text that it read is what the
source says. -/
theorem exists_readText_of_updated {text : List Char}
    (hne : job.deckPlace files ≠ job.styleSheetPlace files)
    (houtcome : (job.tick files last?).outcome = .ok .updated)
    (htext : job.textRead files = .ok text)
    (hsame : job.atSource? (job.tick files last?).files = job.atSource? files) :
    ∃ ready : Files, job.atSource? ready = job.atSource? files ∧
      ready.readText job.source = .ok text := by
  rcases job.tick_cases files last? with hkept | ⟨isNew, ready, hensure, hexit⟩
  · exact absurd houtcome hkept.not_updated
  · refine ⟨ready, (ready_of_ensureStyleSheet hensure).atSource?_eq hne hexit hsame, ?_⟩
    unfold textRead at htext
    rwa [hensure] at htext

end Job

/-- The text of a file is decided by what stands where its path leads. -/
theorem Files.readText_unique {files other : Files} {path : Path} {text text' : List Char}
    (h : files.readText path = .ok text) (h' : other.readText path = .ok text')
    (hsame : files.find? (path.target files.here) = other.find? (path.target other.here)) :
    text = text' := by
  have hread : ∀ {files : Files} {text : List Char}, files.readText path = .ok text →
      ∃ bytes decoded, files.find? (path.target files.here) = some (.file bytes) ∧
        Utf8.decode bytes = .ok decoded ∧ text = Text.universal decoded := by
    intro files text h
    unfold readText at h
    split at h
    · cases h
    · rename_i bytes hbytes
      obtain ⟨place, hplace, hfound⟩ := read_eq_ok_iff.mp hbytes
      rw [place_eq_ok hplace] at hfound
      split at h
      · cases h
      · rename_i decoded hdecode
        cases h
        exact ⟨bytes, decoded, hfound, hdecode, rfl⟩
  obtain ⟨bytes, decoded, hfound, hdecode, rfl⟩ := hread h
  obtain ⟨bytes', decoded', hfound', hdecode', rfl⟩ := hread h'
  cases hfound.symm.trans (hsame.trans hfound')
  cases hdecode.symm.trans hdecode'
  rfl

namespace Run

/-! ### Loops -/

/-- A loop as it stands before each of a number of ticks. -/
def starts (job : Job) (script : Script) : Nat → Run → List Run
  | 0, _ => []
  | count + 1, run => run :: starts job script count ((run.tick job).pause script)

/-- What the next tick logs. -/
def entries (job : Job) (run : Run) : List Record :=
  job.styleSheetRecords run.files (run.tick job).files ++
    deckRecords (job.tick run.files run.last?).outcome

/-- The text whose deck the next tick writes, if it writes one. -/
def writtenText? (job : Job) (run : Run) : Option (List Char) :=
  match (job.tick run.files run.last?).outcome, job.textRead run.files with
  | .ok .updated, .ok text => some text
  | _, _ => none

/-- The texts whose decks a number of ticks write, one after another. -/
def writtenTexts (job : Job) (script : Script) (count : Nat) (run : Run) : List (List Char) :=
  (run.starts job script count).filterMap (writtenText? job)

variable {job : Job} {script : Script} {run : Run}

theorem length_starts (job : Job) (script : Script) (count : Nat) (run : Run) :
    (run.starts job script count).length = count := by
  induction count generalizing run with
  | zero => rfl
  | succ count ih => rw [starts, List.length_cons, ih]

theorem records_ticks (hne : ∀ files : Files, job.deckPlace files ≠ job.styleSheetPlace files)
    (count : Nat) (run : Run) :
    (run.ticks job script count).records =
      run.records ++ (run.starts job script count).flatMap (entries job) := by
  have hstep : ∀ run : Run, (run.tick job).records = run.records ++ run.entries job := by
    intro run
    show run.records ++ _ ++ _ = _
    rw [List.append_assoc, Job.records_tick run.last? (hne run.files)]
    rfl
  fun_induction ticks job script count run with
  | case1 run => rw [starts, List.flatMap_nil, List.append_nil]
  | case2 run => rw [hstep, starts, starts, List.flatMap_cons, List.flatMap_nil, List.append_nil]
  | case3 count run ih =>
      have hstarts : run.starts job script (count + 2) =
          run :: ((run.tick job).pause script).starts job script (count + 1) := rfl
      rw [ih, hstarts, List.flatMap_cons, ← List.append_assoc, ← hstep]
      rfl

/-- After a tick the deck is as before, or it is empty since the page of the text that was read has
no bytes. -/
def KeepsOrLosesDeck (job : Job) (run : Run) : Prop :=
  (∀ fault, (job.tick run.files run.last?).outcome ≠ .error (.unencodable fault)) ∧
      Files.SameAt (job.deckPlace run.files) run.files (run.tick job).files ∨
    ∃ text fault, (job.tick run.files run.last?).outcome = .error (.unencodable fault) ∧
      job.textRead run.files = .ok text ∧ job.IsUnencodable text fault ∧
      (run.tick job).files.find? (job.deckPlace run.files) = some (.file [])

theorem writtenText?_eq_none (h : (job.tick run.files run.last?).outcome ≠ .ok .updated) :
    run.writtenText? job = none := by
  unfold writtenText?
  split
  · exact absurd ‹_› h
  · rfl

/-- A tick writes the deck of the text that it read and remembers it, and that text was not the
remembered one; or it leaves the remembered text alone, and the deck unless that loses its page. -/
theorem tick_cases (hne : ∀ files : Files, job.deckPlace files ≠ job.styleSheetPlace files)
    (run : Run) :
    ((job.tick run.files run.last?).outcome = .ok .updated ∧ ∃ text,
      run.writtenText? job = some text ∧ job.textRead run.files = .ok text ∧
        job.Shows (run.tick job).files text ∧ (run.tick job).last? = some text ∧
        run.last? ≠ some text) ∨
      ((job.tick run.files run.last?).outcome ≠ .ok .updated ∧ run.writtenText? job = none ∧
        run.KeepsOrLosesDeck job ∧ (run.tick job).last? = run.last?) := by
  obtain ⟨ready, hready, hexit⟩ := job.tick_of_ready run.files run.last?
  cases hexit with
  | kept hkept =>
      refine .inr ⟨hkept.not_updated, writtenText?_eq_none hkept.not_updated,
        .inl ⟨hkept.not_emptied, ?_⟩, hkept.last_eq⟩
      show Files.SameAt _ run.files (job.tick run.files run.last?).files
      rw [hkept.files_eq]
      exact hready.sameAt (hne run.files)
  | @updated text bytes hupdated =>
      have hwritten : run.writtenText? job = some text := by
        unfold writtenText?
        rw [hupdated.outcome_eq, hupdated.text_eq]
      exact .inl ⟨hupdated.outcome_eq, text, hwritten, hupdated.text_eq,
        (shows_of_updated hready.here_eq hupdated).2, hupdated.last_eq, hupdated.isNew⟩
  | @emptied text fault hemptied =>
      have hnot : (job.tick run.files run.last?).outcome ≠ .ok .updated := by
        rw [hemptied.outcome_eq]
        nofun
      refine .inr ⟨hnot, writtenText?_eq_none hnot, .inr ⟨text, fault, hemptied.outcome_eq,
        hemptied.text_eq, hemptied.isUnencodable, ?_⟩, hemptied.last_eq⟩
      rw [← Job.deckPlace_of_here hready.here_eq]
      exact Files.find?_target_of_write hemptied.written

/-- One after another, the remembered text and those of the decks that are written differ. -/
theorem isChain_writtenTexts
    (hne : ∀ files : Files, job.deckPlace files ≠ job.styleSheetPlace files) (count : Nat)
    (run : Run) :
    (run.last?.toList ++ run.writtenTexts job script count).IsChain (· ≠ ·) := by
  induction count generalizing run with
  | zero =>
      show (run.last?.toList ++ []).IsChain (· ≠ ·)
      cases run.last? with
      | none => exact .nil
      | some old => exact .singleton old
  | succ count ih =>
      have hrest := ih ((run.tick job).pause script)
      have hlast : ((run.tick job).pause script).last? = (run.tick job).last? := rfl
      rw [hlast] at hrest
      unfold writtenTexts at hrest ⊢
      rw [starts]
      rcases run.tick_cases hne with
        ⟨_, text, hwritten, _, _, hremembered, hnew⟩ | ⟨_, hwritten, _, hremembered⟩
      · rw [hremembered] at hrest
        rw [List.filterMap_cons_some hwritten]
        cases hold : run.last? with
        | none => exact hrest
        | some old =>
            rw [hold] at hnew
            exact hrest.cons_cons fun h => hnew (congrArg some h)
      · rw [hremembered] at hrest
        rw [List.filterMap_cons_none hwritten]
        exact hrest

theorem count_updateRecord_entries
    (hne : ∀ files : Files, job.deckPlace files ≠ job.styleSheetPlace files) (run : Run) :
    (run.entries job).count updateRecord = (run.writtenText? job).toList.length := by
  unfold entries
  rw [List.count_append, job.count_updateRecord_styleSheetRecords, Nat.zero_add]
  rcases run.tick_cases hne with ⟨houtcome, text, hwritten, _⟩ | ⟨houtcome, hwritten, _⟩
  · rw [houtcome, hwritten]
    rfl
  · rw [hwritten]
    exact count_updateRecord_deckRecords houtcome

theorem count_updateRecord_flatMap_entries
    (hne : ∀ files : Files, job.deckPlace files ≠ job.styleSheetPlace files) (runs : List Run) :
    (runs.flatMap (entries job)).count updateRecord =
      (runs.filterMap (writtenText? job)).length := by
  induction runs with
  | nil => rfl
  | cons run runs ih =>
      rw [List.flatMap_cons, List.count_append, ih, count_updateRecord_entries hne,
        List.filterMap_cons]
      cases run.writtenText? job with
      | none => exact Nat.zero_add _
      | some text => exact Nat.add_comm _ _

/-- The source stays as it is: it is the same before and after every tick. -/
def KeepsSource (job : Job) (script : Script) (count : Nat) (run : Run) : Prop :=
  ∃ found?, ∀ before ∈ run.starts job script count,
    job.atSource? before.files = found? ∧ job.atSource? (before.tick job).files = found?

/-- Of a source that stays as it is at most one deck is written. -/
theorem length_writtenTexts_le_one
    (hne : ∀ files : Files, job.deckPlace files ≠ job.styleSheetPlace files) {count : Nat}
    (h : KeepsSource job script count run) : (run.writtenTexts job script count).length ≤ 1 := by
  obtain ⟨found?, hfound⟩ := h
  have hread : ∀ text ∈ run.writtenTexts job script count, ∃ ready : Files,
      job.atSource? ready = found? ∧ ready.readText job.source = .ok text := by
    intro text htext
    obtain ⟨before, hbefore, hwritten⟩ := List.mem_filterMap.mp htext
    obtain ⟨hfirst, hlast⟩ := hfound before hbefore
    rcases before.tick_cases hne with ⟨houtcome, other, hother, hread, _⟩ | ⟨_, hother, _⟩
    · cases hwritten.symm.trans hother
      obtain ⟨ready, hsame, htext⟩ :=
        Job.exists_readText_of_updated (hne _) houtcome hread (hlast.trans hfirst.symm)
      exact ⟨ready, hsame.trans hfirst, htext⟩
    · cases hwritten.symm.trans hother
  have hchain : (run.last?.toList ++ run.writtenTexts job script count).IsChain (· ≠ ·) :=
    isChain_writtenTexts hne count run
  have hchain := hchain.right_of_append
  cases hwritten : run.writtenTexts job script count with
  | nil => exact Nat.zero_le 1
  | cons first rest =>
      cases rest with
      | nil => exact Nat.le_refl 1
      | cons second rest =>
          rw [hwritten] at hread hchain
          obtain ⟨_, hfirst, htext⟩ := hread first (by simp)
          obtain ⟨_, hsecond, htext'⟩ := hread second (by simp)
          have heq := Files.readText_unique htext htext' (hfirst.trans hsecond.symm)
          exact absurd heq (List.isChain_cons_cons.mp hchain).1

/-- A source of its own is not changed by the loop, so that it stays as it is if nobody else
changes it. -/
theorem keepsSource_of_script
    (hdeck : ∀ files : Files, job.sourcePlace files ≠ job.deckPlace files)
    (hstyle : ∀ files : Files, job.sourcePlace files ≠ job.styleSheetPlace files)
    (hscript : ∀ pause files, job.atSource? (script pause files) = job.atSource? files)
    (count : Nat) (run : Run) : KeepsSource job script count run := by
  have htick : ∀ run : Run, job.atSource? (run.tick job).files = job.atSource? run.files := by
    intro run
    obtain ⟨ready, hready, hexit⟩ := job.tick_of_ready run.files run.last?
    have hne := hdeck ready
    rw [Job.sourcePlace_of_here hready.here_eq] at hne
    have hsame : Files.SameAt (job.sourcePlace run.files) run.files (run.tick job).files :=
      (hready.sameAt (hstyle run.files)).trans (Job.sameAt_of_exit hne hexit)
    unfold Job.atSource?
    rw [Job.sourcePlace_of_here hsame.1, hsame.2]
  have hstarts : ∀ (count : Nat) (run : Run), ∀ before ∈ run.starts job script count,
      job.atSource? before.files = job.atSource? run.files := by
    intro count
    induction count with
    | zero => exact fun run => List.forall_mem_nil _
    | succ count ih =>
        intro run before hbefore
        rcases List.mem_cons.mp hbefore with rfl | hbefore
        · rfl
        · exact (ih _ before hbefore).trans ((hscript _ _).trans (htick run))
  refine ⟨job.atSource? run.files, fun before hbefore => ?_⟩
  have hsame := hstarts count run before hbefore
  exact ⟨hsame, (htick before).trans hsame⟩

end Run

/-- The journal of a loop whose deck and stylesheet have different paths, whatever others do to the
files between its ticks, with a bound or interrupted.  What it logs is, tick by tick, the record of
the stylesheet if the tick made it, and what `deckRecords` says: one record of a new deck, nothing,
or one record of what went wrong.  A tick that reports a new deck has written it.  Any other leaves
the deck as it is, or else the deck is empty since the page of the text that was read has no bytes.
There are as many reports of a new deck as decks are written, the texts of two decks written one
after the other differ, and of a source that stays as it is at most one deck is written. -/
theorem journal_watch (source deck : Path) (style : String) (hne : deck ≠ deck.styleSheetBeside)
    (script : Script) (count : Nat) (files : Files) (last? : Option (List Char)) :
    let job := Job.beside source deck style
    let start := Run.start files last?
    let starts := start.starts job script count
    let journal := starts.flatMap fun before =>
      job.styleSheetRecords before.files (before.tick job).files ++
        deckRecords (job.tick before.files before.last?).outcome
    let texts := start.writtenTexts job script count
    starts.length = count ∧
      (start.watch job script count).records = journal ∧
      (start.untilInterrupted job script count).records = journal ∧
      (∀ before ∈ starts,
        ((job.tick before.files before.last?).outcome = .ok .updated ∧ ∃ text,
          before.writtenText? job = some text ∧ job.textRead before.files = .ok text ∧
            job.Shows (before.tick job).files text) ∨
          ((job.tick before.files before.last?).outcome ≠ .ok .updated ∧
            before.writtenText? job = none ∧ before.KeepsOrLosesDeck job)) ∧
      journal.count updateRecord = texts.length ∧ texts.IsChain (· ≠ ·) ∧
      (start.KeepsSource job script count → texts.length ≤ 1) := by
  intro job start starts journal texts
  have hplaces : ∀ files : Files, job.deckPlace files ≠ job.styleSheetPlace files :=
    fun files => Path.target_ne_styleSheetBeside hne files.here
  have hticks : (start.ticks job script count).records = journal :=
    Run.records_ticks hplaces count start
  refine ⟨Run.length_starts job script count start, hticks, ?interrupted, ?ticks,
    Run.count_updateRecord_flatMap_entries hplaces starts, ?chain,
    Run.length_writtenTexts_le_one hplaces⟩
  case interrupted =>
    cases count with
    | zero => rfl
    | succ count =>
        rw [Run.untilInterrupted_eq]
        exact hticks
  case ticks =>
    intro before _
    rcases before.tick_cases hplaces with
      ⟨houtcome, text, hwritten, htext, hshows, _⟩ | ⟨houtcome, hwritten, hdeck, _⟩
    · exact .inl ⟨houtcome, text, hwritten, htext, hshows⟩
    · exact .inr ⟨houtcome, hwritten, hdeck⟩
  case chain =>
    have hchain : (start.last?.toList ++ texts).IsChain (· ≠ ·) :=
      Run.isChain_writtenTexts hplaces count start
    exact hchain.right_of_append

/-- A source that nobody touches while it is looked at three times: one deck is written. -/
theorem journal_watch_of_untouched_source :
    let job := Job.beside ⟨.here, ["a.md"]⟩ ⟨.here, ["a.html"]⟩ "default"
    let files : Files := ⟨["d"], [([], .directory), (["d"], .directory),
      (["d", "syntax.css"], .file []), (["d", "a.md"], .file (Utf8.encode "***".toList))]⟩
    let script : Script := fun _ files => files
    let start := Run.start files none
    job.deck ≠ job.deck.styleSheetBeside ∧ start.KeepsSource job script 3 ∧
      (start.watch job script 3).records.count updateRecord = 1 := by
  intro job files script start
  have hne : job.deck ≠ job.deck.styleSheetBeside := by decide
  have hkeeps : start.KeepsSource job script 3 := by
    have htarget : ∀ (name : String) (here : Place), name ≠ ".." →
        Path.target here ⟨.here, [name]⟩ = here ++ [name] :=
      fun name here hname => Path.target_child hname here ⟨.here, []⟩
    refine Run.keepsSource_of_script ?_ ?_ (fun _ _ => rfl) 3 start
    · intro files
      show Path.target files.here ⟨.here, ["a.md"]⟩ ≠ Path.target files.here ⟨.here, ["a.html"]⟩
      simp [htarget]
    · intro files
      show Path.target files.here ⟨.here, ["a.md"]⟩ ≠ Path.target files.here ⟨.here, ["syntax.css"]⟩
      simp [htarget]
  have hremembered : (start.tick job).last? = some "***".toList := by
    have hensure : files.ensureStyleSheet job.styleSheet job.style = .ok (false, files) := by cbv
    obtain ⟨_, _, hlast⟩ :=
      Job.tick_of_rule (by decide) hensure (by cbv) (Option.some_ne_none _).symm fun bytes =>
        ⟨files.put ["d", "a.html"] (.file bytes), by cbv⟩
    exact hlast
  have hwritten : ∃ text, start.writtenText? job = some text := by
    rcases start.tick_cases (fun files => Path.target_ne_styleSheetBeside hne files.here) with
      ⟨_, text, hwritten, _⟩ | ⟨_, _, _, hlast⟩
    · exact ⟨text, hwritten⟩
    · cases hremembered.symm.trans hlast
  obtain ⟨_, hrecords, _, _, hcount, _, hone⟩ :=
    journal_watch ⟨.here, ["a.md"]⟩ ⟨.here, ["a.html"]⟩ "default" hne script 3 files none
  obtain ⟨text, hwritten⟩ := hwritten
  have hlength : (start.writtenTexts job script 3).length =
      (((start.tick job).pause script).writtenTexts job script 2).length + 1 := by
    unfold Run.writtenTexts
    rw [Run.starts, List.filterMap_cons_some hwritten, List.length_cons]
  have hle : (start.writtenTexts job script 3).length ≤ 1 := hone hkeeps
  have hupdates : (start.watch job script 3).records.count updateRecord =
      (start.writtenTexts job script 3).length :=
    (congrArg (List.count updateRecord) hrecords).trans hcount
  exact ⟨hne, hkeeps, by omega⟩

/-- A surrogate in the title: the one tick reports no deck but what went wrong, and the deck of an
earlier day is empty. -/
theorem journal_of_lost_deck :
    let job := Job.surrogateJob
    let run := (Run.start Job.surrogateFiles none).watch job (fun _ files => files) 1
    job.deck ≠ job.deck.styleSheetBeside ∧
      Job.surrogateFiles.find? ["d", "a.html"] = some (.file [60, 62]) ∧
      run.files.find? ["d", "a.html"] = some (.file []) ∧
      (∃ message, run.records = [⟨.error, message⟩]) ∧ run.records.count updateRecord = 0 := by
  intro job run
  have hne : job.deck ≠ job.deck.styleSheetBeside := by decide
  obtain ⟨⟨fault, houtcome⟩, hfiles, _⟩ := Job.tick_surrogateFiles (Option.some_ne_none _).symm
  have hempty : run.files.find? ["d", "a.html"] = some (.file []) := by
    show (Job.surrogateJob.tick Job.surrogateFiles none).files.find? _ = _
    rw [hfiles, Files.find?_put, if_pos rfl]
  have hrecords : run.records =
      [⟨.error, (TickFault.unencodable fault).kind ++ ": " ++ fault.message⟩] := by
    have hplaces : Job.surrogateJob.deckPlace Job.surrogateFiles ≠
        Job.surrogateJob.styleSheetPlace Job.surrogateFiles :=
      Path.target_ne_styleSheetBeside hne _
    have hstyle : ∀ after, Job.surrogateJob.styleSheetRecords Job.surrogateFiles after = [] :=
      fun after => if_neg fun h => absurd h.1 (by decide)
    show [] ++ (Job.surrogateJob.tick Job.surrogateFiles none).records ++
      (Job.surrogateJob.tick Job.surrogateFiles none).complaint = _
    rw [List.nil_append, Job.records_tick none hplaces, hstyle, houtcome]
    rfl
  refine ⟨hne, by decide, hempty, ⟨_, hrecords⟩, ?_⟩
  rw [hrecords]
  exact List.count_eq_zero_of_not_mem (by simp [updateRecord])

end LiveDeck
