import LiveDeck.Proofs.CommandLine.Plans
import LiveDeck.Proofs.Deck.Frame

/-! # What becomes of the source

A tick keeps whatever stands anywhere but at the place of the deck (`Job.sameAt_tick`), the source
included.  So from one tick of a watch to the next only others change it (`Run.pause_of_watch`), and
a run keeps a source that nobody else changes (`CommandLine.run_keeps_source`).  Others may do what
they like in a pause; only the current directory of the program is its own.

The deck must lie at another place than the source.  Nothing in the program sees to that: a source
in the current directory that is named like its own deck is written over
(`CommandLine.run_replaces_source_named_like_deck`).  In another directory or with another name it
is safe (`Job.deckPlace_eq_sourcePlace_iff`). -/

namespace LiveDeck

namespace Job

/-- The place of the source. -/
def sourcePlace (job : Job) (files : Files) : Place := job.source.target files.here

theorem sourcePlace_of_here {job : Job} {before after : Files} (h : after.here = before.here) :
    job.sourcePlace after = job.sourcePlace before := by
  unfold sourcePlace
  rw [h]

variable {job : Job} {files : Files} {last? : Option (List Char)} {place : Place}

/-! ### A tick -/

theorem here_tick (job : Job) (files : Files) (last? : Option (List Char)) :
    (job.tick files last?).files.here = files.here := by
  obtain ⟨ready, hready, hexit⟩ := job.tick_of_ready files last?
  cases hexit with
  | kept hkept => rw [hkept.files_eq, hready.here_eq]
  | updated hupdated =>
      rw [Files.write_eq_ok hupdated.written]
      exact hready.here_eq
  | emptied hemptied =>
      rw [Files.write_eq_ok hemptied.written]
      exact hready.here_eq

theorem sameAt_tick (last? : Option (List Char)) (hne : place ≠ job.deckPlace files)
    (hsome : files.find? place ≠ none) : Files.SameAt place files (job.tick files last?).files := by
  obtain ⟨ready, hready, hexit⟩ := job.tick_of_ready files last?
  have hdeck : place ≠ job.deckPlace ready := by
    rwa [deckPlace_of_here hready.here_eq]
  have hbefore : Files.SameAt place files ready := by
    by_cases hplace : place = job.styleSheetPlace files
    · subst hplace
      exact hready.sameAt_styleSheetPlace hsome
    · exact hready.sameAt hplace
  exact hbefore.trans (sameAt_of_exit hdeck hexit)

/-- A file anywhere but at the place of the deck stays as it is. -/
theorem find?_tick (last? : Option (List Char)) {bytes : List UInt8}
    (hne : place ≠ job.deckPlace files) (h : files.find? place = some (.file bytes)) :
    (job.tick files last?).files.find? place = some (.file bytes) := by
  rw [(sameAt_tick last? hne (by rw [h]; nofun)).2, h]

/-! ### Sources named like their decks -/

/-- The deck in a directory is the source only if the source lies in that directory and has the name
of a deck: its own up to its first dot, and `.html`. -/
theorem deckPlace_eq_sourcePlace_iff {directory : Path} (files : Files)
    (hdeck : job.deck = directory.deckIn job.source) (hnames : job.source.names ≠ [])
    (hup : job.source.name ≠ "..") :
    job.deckPlace files = job.sourcePlace files ↔
      job.source.parent.target files.here = directory.target files.here ∧
        job.source.name = stem job.source.name ++ ".html" := by
  have hplace : job.deckPlace files =
      directory.target files.here ++ [stem job.source.name ++ ".html"] := by
    rw [deckPlace, hdeck]
    exact Path.target_child (ne_dotDot_of_deckName job.source.name) _ _
  have hsource : job.sourcePlace files =
      job.source.parent.target files.here ++ [job.source.name] :=
    Path.target_of_name hnames hup files.here
  rw [hplace, hsource]
  constructor
  · intro heq
    obtain ⟨hparent, hlast⟩ := List.append_inj' heq rfl
    exact ⟨hparent.symm, (List.head_eq_of_cons_eq hlast).symm⟩
  · rintro ⟨hparent, hname⟩
    rw [hparent, ← hname]

end Job

/-! ### A watch -/

namespace Run

variable {job : Job} {script : Script}

theorem untilInterrupted_succ (job : Job) (script : Script) : ∀ (pauses : Nat) (run : Run),
    untilInterrupted job script (pauses + 1) run =
      ((untilInterrupted job script pauses run).tick job).pause script
  | 0, _ => rfl
  | pauses + 1, run => by
      rw [untilInterrupted, untilInterrupted_succ job script pauses, untilInterrupted]

theorem pauses_untilInterrupted (job : Job) (script : Script) : ∀ (pauses : Nat) (run : Run),
    (untilInterrupted job script pauses run).pauses = run.pauses + pauses
  | 0, _ => rfl
  | pauses + 1, run => by
      rw [untilInterrupted, pauses_untilInterrupted job script pauses]
      show run.pauses + 1 + pauses = _
      omega

theorem here_untilInterrupted (hhere : ∀ pause files, (script pause files).here = files.here) :
    ∀ (pauses : Nat) (run : Run),
      (untilInterrupted job script pauses run).files.here = run.files.here
  | 0, _ => rfl
  | pauses + 1, run => by
      rw [untilInterrupted, here_untilInterrupted hhere pauses]
      exact (hhere _ _).trans (job.here_tick run.files run.last?)

/-- From one look at the source to the next only others change it: what a pause begins with still
holds the bytes that the tick before it found. -/
theorem pause_of_watch {start : Run}
    (hhere : ∀ pause files, (script pause files).here = files.here)
    (hne : job.deckPlace start.files ≠ job.sourcePlace start.files) (pauses : Nat) :
    ∃ between, (untilInterrupted job script (pauses + 1) start).files =
        script (start.pauses + pauses) between ∧
      ∀ bytes, (untilInterrupted job script pauses start).files.find?
          (job.sourcePlace start.files) = some (.file bytes) →
        between.find? (job.sourcePlace start.files) = some (.file bytes) := by
  have hplace : job.sourcePlace start.files ≠
      job.deckPlace (untilInterrupted job script pauses start).files := by
    unfold Job.deckPlace
    rw [here_untilInterrupted hhere pauses start]
    exact hne.symm
  refine ⟨((untilInterrupted job script pauses start).tick job).files, ?_, ?_⟩
  · rw [untilInterrupted_succ, ← pauses_untilInterrupted job script pauses start]
    rfl
  · intro bytes hbytes
    exact job.find?_tick _ hplace hbytes

/-- A source that nobody else changes is kept through a whole watch. -/
theorem find?_untilInterrupted {start : Run} {bytes : List UInt8}
    (hhere : ∀ pause files, (script pause files).here = files.here)
    (hne : job.deckPlace start.files ≠ job.sourcePlace start.files)
    (hsource : start.files.find? (job.sourcePlace start.files) = some (.file bytes)) :
    ∀ {pauses : Nat}, (∀ pause < pauses, ∀ files : Files,
        files.find? (job.sourcePlace start.files) = some (.file bytes) →
          (script (start.pauses + pause) files).find? (job.sourcePlace start.files) =
            some (.file bytes)) →
      (untilInterrupted job script pauses start).files.find? (job.sourcePlace start.files) =
        some (.file bytes)
  | 0, _ => hsource
  | pauses + 1, hedits => by
      have ih := find?_untilInterrupted hhere hne hsource fun pause hpause =>
        hedits pause (Nat.lt_succ_of_lt hpause)
      obtain ⟨between, hfiles, hkept⟩ := pause_of_watch hhere hne pauses
      rw [hfiles]
      exact hedits pauses (Nat.lt_succ_self pauses) between (hkept bytes ih)

end Run

namespace CommandLine

variable {env : Environment} {files : Files} {script : Script} {words : List String} {job : Job}

/-! ### A run -/

/-- If the source and its deck lie at different places, a run keeps the bytes of the source unless
others change them in a pause; and in a watch, from one pause to the next, the bytes that the first
of them leaves are those that the second one finds.  A deck in the current directory lies at the
place of its source only if the source lies there too and has the name of a deck; a path without
names or with two dots at its end names a directory and no source. -/
theorem run_keeps_source (hhere : ∀ pause files, (script pause files).here = files.here)
    (hjob : plan env (herePath? files) words = .ok (.once job) ∨
      ∃ interval, plan env (herePath? files) words = .ok (.watch job interval)) :
    (job.deckPlace files ≠ job.sourcePlace files →
      (∀ interruption bytes, files.find? (job.sourcePlace files) = some (.file bytes) →
        (∀ pause < interruption, ∀ between : Files,
          between.find? (job.sourcePlace files) = some (.file bytes) →
            (script pause between).find? (job.sourcePlace files) = some (.file bytes)) →
        (run env files script interruption words).files.find? (job.sourcePlace files) =
          some (.file bytes)) ∧
      ∀ pauses, ∃ between,
        (Run.untilInterrupted job script (pauses + 1) (.start files none)).files =
          script pauses between ∧
        ∀ bytes, (Run.untilInterrupted job script pauses (.start files none)).files.find?
            (job.sourcePlace files) = some (.file bytes) →
          between.find? (job.sourcePlace files) = some (.file bytes)) ∧
    ∀ here, herePath? files = some here → job.deck = here.deckIn job.source →
      job.source.names ≠ [] → job.source.name ≠ ".." →
        (job.deckPlace files = job.sourcePlace files ↔
          job.source.parent.target files.here = here.target files.here ∧
            job.source.name = stem job.source.name ++ ".html") := by
  refine ⟨fun hne => ⟨?_, ?_⟩, fun here _ => job.deckPlace_eq_sourcePlace_iff files⟩
  · intro interruption bytes hsource hedits
    obtain ⟨fault, _, hfiles⟩ | ⟨cause, _, _, hfiles⟩ | ⟨found, loggers, hplan, hrun⟩ :=
      run_cases env files script interruption words
    · rw [hfiles, hsource]
    · rw [hfiles, hsource]
    · rw [hrun]
      obtain honce | ⟨interval, hwatch⟩ := hjob
      · rw [honce] at hplan
        cases hplan
        exact job.find?_tick none hne.symm hsource
      · rw [hwatch] at hplan
        cases hplan
        refine Run.find?_untilInterrupted hhere hne hsource ?_
        intro pause hpause between hbetween
        rw [show (Run.start files none).pauses + pause = pause from Nat.zero_add pause]
        exact hedits pause hpause between hbetween
  · intro pauses
    obtain ⟨between, hfiles, hkept⟩ :=
      @Run.pause_of_watch job script (.start files none) hhere hne pauses
    rw [show (Run.start files none).pauses + pauses = pauses from Nat.zero_add pauses] at hfiles
    exact ⟨between, hfiles, hkept⟩

/-- A watched source with a name of its own: somebody writes another file in every pause. -/
theorem run_keeps_source_of_edits_elsewhere :
    let env : Environment := ⟨none, none, none, ⟨none, []⟩⟩
    let files : Files := ⟨["d"], [([], .directory), (["d"], .directory),
      (["d", "a.md"], .file (Utf8.encode "***".toList))]⟩
    let script : Script := fun _ files => files.put ["d", "b.md"] (.file [])
    let job : Job := .beside ⟨.here, ["a.md"]⟩ ⟨.root, ["d", "a.html"]⟩ "default"
    plan env (herePath? files) ["a.md"] = .ok (.watch job env.interval) ∧
      job.deckPlace files ≠ job.sourcePlace files ∧
      ∀ interruption, (run env files script interruption ["a.md"]).files.find? ["d", "a.md"] =
        some (.file (Utf8.encode "***".toList)) := by
  intro env files script job
  have hhere : ∀ pause between, (script pause between).here = between.here := fun _ _ => rfl
  have hplan : plan env (herePath? files) ["a.md"] = .ok (.watch job env.interval) :=
    plan_watch ⟨.root, ["d"]⟩ (by cbv) (by decide) (by cbv) (by decide +kernel)
  obtain ⟨hkeeps, hdecks⟩ := run_keeps_source hhere (.inr ⟨_, hplan⟩)
  have hne : job.deckPlace files ≠ job.sourcePlace files := by
    intro heq
    have hnamed := (hdecks ⟨.root, ["d"]⟩ (by decide) (by decide) (by decide) (by decide)).mp heq
    exact absurd hnamed.2 (by decide)
  refine ⟨hplan, hne, fun interruption => ?_⟩
  refine (hkeeps hne).1 interruption _ (by decide) ?_
  intro pause _ between hbetween
  have hother : (["d", "a.md"] : Place) ≠ ["d", "b.md"] := by decide
  exact (Files.sameAt_put hother _).2.trans hbetween

/-- A source in the current directory that is named like its deck: its page takes its place. -/
theorem run_replaces_source_named_like_deck :
    let env : Environment := ⟨none, none, none, ⟨none, []⟩⟩
    let files : Files := ⟨["d"], [([], .directory), (["d"], .directory),
      (["d", "a.html"], .file (Utf8.encode "***".toList)), (["d", "syntax.css"], .file [])]⟩
    let job : Job := .beside ⟨.here, ["a.html"]⟩ ⟨.root, ["d", "a.html"]⟩ "default"
    plan env (herePath? files) ["a.html", "--once"] = .ok (.once job) ∧
      files.find? (job.sourcePlace files) = some (.file (Utf8.encode "***".toList)) ∧
      ∃ bytes, bytes ≠ Utf8.encode "***".toList ∧
        (run env files (fun _ files => files) 0 ["a.html", "--once"]).files.find?
          (job.sourcePlace files) = some (.file bytes) := by
  intro env files job
  have hplan : plan env (herePath? files) ["a.html", "--once"] = .ok (.once job) :=
    plan_once ⟨.root, ["d"]⟩ (by cbv) (by decide) (by cbv) (by decide +kernel)
  refine ⟨hplan, by decide, ?_⟩
  have hensure : files.ensureStyleSheet job.styleSheet job.style = .ok (false, files) := by cbv
  obtain ⟨loggers, hrun⟩ := run_of_plan (fun _ files => files) 0 (by cbv) hplan
  obtain ⟨html, bytes, hpage, hencode⟩ := job.rendering_rule (by decide)
  have hwrite : files.write job.deck bytes = .ok (files.put ["d", "a.html"] (.file bytes)) := by
    cbv
  obtain ⟨_, hfiles, _⟩ :=
    Job.tick_of_page hensure (by cbv) (Option.some_ne_none _).symm hpage hencode hwrite
  refine ⟨bytes, ?_, ?_⟩
  · intro hsame
    have hhead := Job.head?_of_isDeck ⟨html, Job.isPage_of_rendering hpage, hencode⟩
    rw [hsame] at hhead
    revert hhead
    decide
  · rw [hrun]
    show (job.tick files none).files.find? _ = _
    rw [hfiles, Files.find?_put, if_pos (by decide)]

end CommandLine

end LiveDeck
