import LiveDeck.Proofs.CommandLine.ExitCodes

/-! # How a run ends that renders once

The flag `--once` among the words before the separator decides what a run does, wherever it stands
and whatever else is written (`once_of_readArguments`): the run does not watch, and it comes to an
end.  It ends with an exit code unless a path of its arguments begins with a home directory that
cannot be found (`Arguments.LacksHome`) or its deck is to lie in a current directory that is gone
(`Arguments.LacksHere`); all that goes wrong later is caught and told by the code.  Main statement:
`exit_of_once_flag`. -/

namespace LiveDeck

namespace Path

/-- The path begins with a home directory that nobody knows, or that begins with a tilde itself. -/
def LacksHome (homes : Homes) (path : Path) : Prop :=
  path.anchor = .here ∧ ∃ first rest user, path.names = first :: rest ∧
    userOf? first = some user ∧ ∀ home, homes.find? user = some home → home.toList.head? = some '~'

theorem expandHome?_eq_none_iff {homes : Homes} {path : Path} :
    path.expandHome? homes = none ↔ path.LacksHome homes := by
  unfold expandHome? LacksHome
  split
  · rename_i first rest hanchor hnames
    cases huser : userOf? first with
    | none => simp [hnames, huser]
    | some user =>
        cases hhome : homes.find? user with
        | none => simp [hanchor, hnames, huser, hhome]
        | some home => simp [hanchor, hnames, huser, hhome]
  · rename_i hother
    constructor
    · nofun
    · rintro ⟨hanchor, first, rest, user, hnames, _⟩
      exact absurd hnames (hother first rest hanchor)

end Path

namespace CommandLine

variable {env : Environment} {files : Files} {words : List String}

/-! ### The flag -/

/-- The flag is read as a flag wherever it stands before the separator. -/
theorem flag_mem_of_wordsOf {found : List Word} (hwords : wordsOf words = .ok found)
    (h : "--once" ∈ words.takeWhile (· != "--")) : .flag .once none ∈ found := by
  fun_induction wordsOf words generalizing found with
  | case1 => cases h
  | case2 rest => cases h
  | case3 word rest hne first others hothers hfirst ih =>
      cases hwords
      rw [List.takeWhile_cons_of_pos (by simpa using hne)] at h
      rcases List.mem_cons.mp h with rfl | h
      · have honce : wordOf "--once" = .ok (.flag .once none) := by cbv
        cases honce.symm.trans hfirst
        exact List.mem_cons_self
      · exact List.mem_cons_of_mem _ (ih hothers h)
  | case4 => cases hwords
  | case5 => cases hwords

theorem once_of_setValue {draft result : Draft} {flag : Flag} {value : String}
    (h : draft.setValue flag value = .ok result) : result.once = draft.once := by
  unfold Draft.setValue at h
  split at h
  · cases h
    rfl
  · split at h
    · cases h
      rfl
    · cases h
  · cases h
    rfl
  · cases h
    rfl
  · cases h
    rfl

theorem flag_mem_tail {counts : Prop} {first : Word} {rest : List Word}
    (h : counts ∨ .flag .once none ∈ first :: rest) (hne : first ≠ .flag .once none) :
    counts ∨ .flag .once none ∈ rest :=
  h.imp_right (List.mem_of_ne_of_mem hne.symm)

/-- Once the flag has been read it counts, whatever follows. -/
theorem once_of_reads {draft result : Draft} {found : List Word} (hread : Reads draft found result)
    (h : draft.once = true ∨ .flag .once none ∈ found) : result.once = true := by
  induction hread with
  | done => exact h.resolve_right List.not_mem_nil
  | unknown _ ih => exact ih (flag_mem_tail h nofun)
  | extraSeparator _ _ ih | separator _ _ ih | extra _ _ ih => exact ih (flag_mem_tail h nofun)
  | sourceAndSeparator _ _ ih => exact ih (flag_mem_tail (flag_mem_tail h nofun) nofun)
  | source _ _ _ ih => exact ih (flag_mem_tail h nofun)
  | @option _ _ _ flag _ _ hvalue hnext _ ih =>
      have hne : Word.flag flag none ≠ .flag .once none := by
        rintro ⟨⟩
        cases hvalue
      rw [once_of_setValue hnext] at ih
      exact ih (flag_mem_tail (flag_mem_tail h hne) nofun)
  | once _ ih => exact ih (.inl rfl)
  | attached _ hnext _ ih =>
      rw [once_of_setValue hnext] at ih
      exact ih (flag_mem_tail h nofun)

theorem once_of_finish {draft : Draft} {arguments : Arguments}
    (h : draft.finish = .ok arguments) : arguments.once = draft.once := by
  obtain ⟨source, _, _, _, _, rfl⟩ := Draft.finish_eq_ok_iff.mp h
  rfl

/-- Arguments with the flag before the separator ask for one time. -/
theorem once_of_readArguments {arguments : Arguments}
    (hread : readArguments env words = .ok (some arguments))
    (h : "--once" ∈ words.takeWhile (· != "--")) : arguments.once = true := by
  obtain ⟨found, draft, hwords, hreads, hfinish⟩ := readArguments_eq_ok_some_iff.mp hread
  have honce := once_of_reads hreads (.inr (flag_mem_of_wordsOf hwords h))
  exact (once_of_finish hfinish).trans honce

/-! ### Missing directories -/

/-- The source or the deck that is asked for begins with a home directory that cannot be found. -/
def Arguments.LacksHome (arguments : Arguments) (env : Environment) : Prop :=
  (Path.ofText arguments.source).LacksHome env.homes ∨
    ∃ output, arguments.output? = some output ∧ output ≠ "" ∧
      (Path.ofText output).LacksHome env.homes

/-- No deck is asked for, and the current directory, in which it is to lie, is gone. -/
def Arguments.LacksHere (arguments : Arguments) (files : Files) : Prop :=
  arguments.output?.getD "" = "" ∧ files.find? files.here ≠ some .directory

theorem pathOf_cases (env : Environment) (argument : String) :
    (∃ path, pathOf env argument = .ok path) ∧ ¬ (Path.ofText argument).LacksHome env.homes ∨
      (∃ cause, pathOf env argument = .error (.home cause)) ∧
        (Path.ofText argument).LacksHome env.homes := by
  rw [← Path.expandHome?_eq_none_iff]
  unfold pathOf
  dsimp only
  cases (Path.ofText argument).expandHome? env.homes with
  | none => exact .inr ⟨⟨_, rfl⟩, rfl⟩
  | some expanded => exact .inl ⟨⟨_, rfl⟩, nofun⟩

theorem deckHere_cases (files : Files) (source : Path) :
    (∃ deck, deckHere (herePath? files) source = .ok deck) ∧
        files.find? files.here = some .directory ∨
      deckHere (herePath? files) source = .error .here ∧
        files.find? files.here ≠ some .directory := by
  unfold herePath?
  split
  · rename_i hhere
    exact .inl ⟨⟨_, rfl⟩, hhere⟩
  · rename_i hgone
    exact .inr ⟨rfl, hgone⟩

/-- Arguments whose source has a path: their deck has one too unless a directory is missing. -/
theorem deckOf_cases {arguments : Arguments} (files : Files) (source : Path)
    (hsource : ¬ (Path.ofText arguments.source).LacksHome env.homes) :
    let deck := deckOf env (herePath? files) source arguments.output?
    (∃ path, deck = .ok path) ∧ ¬ arguments.LacksHome env ∧ ¬ arguments.LacksHere files ∨
      (∃ cause, deck = .error (.home cause)) ∧ arguments.LacksHome env ∨
      deck = .error .here ∧ ¬ arguments.LacksHome env ∧ arguments.LacksHere files := by
  intro deck
  by_cases hempty : arguments.output?.getD "" = ""
  · have hdeck : deck = deckHere (herePath? files) source := by
      show deckOf env (herePath? files) source arguments.output? = _
      revert hempty
      cases arguments.output? with
      | none => exact fun _ => rfl
      | some output =>
          rintro rfl
          rfl
    have hfinds : ¬ arguments.LacksHome env := by
      rintro (hlacks | ⟨output, houtput, hne, _⟩)
      · exact hsource hlacks
      · rw [houtput] at hempty
        exact hne hempty
    rw [hdeck]
    obtain ⟨hpath, hhere⟩ | ⟨hgone, hhere⟩ := deckHere_cases files source
    · exact .inl ⟨hpath, hfinds, fun hlacks => hlacks.2 hhere⟩
    · exact .inr (.inr ⟨hgone, hfinds, hempty, hhere⟩)
  · have hhere : ¬ arguments.LacksHere files := fun hlacks => hempty hlacks.1
    obtain ⟨output, houtput, hne⟩ : ∃ output, arguments.output? = some output ∧ output ≠ "" := by
      revert hempty
      cases arguments.output? with
      | none => exact fun h => absurd rfl h
      | some output => exact fun h => ⟨output, rfl, h⟩
    have hdeck : deck = pathOf env output := by
      show deckOf env (herePath? files) source arguments.output? = _
      rw [houtput]
      simp [deckOf, hne]
    rw [hdeck]
    obtain ⟨hpath, hfinds⟩ | ⟨hcause, hlacks⟩ := pathOf_cases env output
    · refine .inl ⟨hpath, ?_, hhere⟩
      rintro (hlacks | ⟨other, hother, _, hlacks⟩)
      · exact hsource hlacks
      · cases houtput.symm.trans hother
        exact hfinds hlacks
    · exact .inr (.inl ⟨hcause, .inr ⟨output, houtput, hne, hlacks⟩⟩)

/-- There is a plan unless a directory is missing; a missing home is found out first. -/
theorem plan_of_arguments (env : Environment) (arguments : Arguments) (files : Files) :
    let found := arguments.plan env (herePath? files)
    (∃ plan, found = .ok plan) ∧ ¬ arguments.LacksHome env ∧ ¬ arguments.LacksHere files ∨
      (∃ cause, found = .error (.home cause)) ∧ arguments.LacksHome env ∨
      found = .error .here ∧ ¬ arguments.LacksHome env ∧ arguments.LacksHere files := by
  intro found
  obtain ⟨⟨source, hsource⟩, hfinds⟩ | ⟨⟨cause, hcause⟩, hlacks⟩ :=
    pathOf_cases env arguments.source
  · have hfound : found = (do
        let deck ← deckOf env (herePath? files) source arguments.output?
        .ok (if arguments.once then .once (.beside source deck arguments.style)
          else .watch (.beside source deck arguments.style) arguments.interval)) := by
      show arguments.plan env (herePath? files) = _
      rw [Arguments.plan, hsource]
      rfl
    rw [hfound]
    obtain ⟨⟨deck, hdeck⟩, hall⟩ | ⟨⟨cause, hcause⟩, hlacks⟩ | ⟨hgone, hlacks⟩ :=
      deckOf_cases files source hfinds
    · rw [hdeck]
      exact .inl ⟨⟨_, rfl⟩, hall⟩
    · rw [hcause]
      exact .inr (.inl ⟨⟨cause, rfl⟩, hlacks⟩)
    · rw [hgone]
      exact .inr (.inr ⟨rfl, hlacks⟩)
  · refine .inr (.inl ⟨⟨cause, ?_⟩, .inl hlacks⟩)
    show arguments.plan env (herePath? files) = _
    rw [Arguments.plan, hcause]
    rfl

/-! ### Runs -/

theorem run_of_no_plan {cause : NoPlan} (script : Script) (interruption : Nat)
    (hlog : ((Log.Loggers.ofSetting env.logSetting).obtain loggerName none).1.isOk = true)
    (hplan : plan env (herePath? files) words = .error cause) :
    ∃ loggers, run env files script interruption words =
      ⟨.error (.noPlan cause), loggers, [], files, []⟩ := by
  unfold run
  revert hlog
  generalize (Log.Loggers.ofSetting env.logSetting).obtain loggerName none = obtained
  obtain ⟨fault | level, loggers⟩ := obtained
  · intro hlog
    cases hlog
  · intro _
    rw [hplan]
    exact ⟨loggers, rfl⟩

theorem run_once (job : Job) (files : Files) (loggers : Log.Loggers) (script : Script)
    (interruption : Nat) :
    let session := (Plan.once job).run files loggers script interruption
    session.pauses = [] ∧ (session.exit = .ok 0 ∨ session.exit = .ok 1) := by
  intro session
  have hexit : session.exit = .ok (verdict job (job.tick files none)).1 := rfl
  refine ⟨rfl, ?_⟩
  rw [hexit]
  obtain ⟨_, ⟨hzero, _⟩ | ⟨hone, _⟩⟩ := job.exits_of_first_tick files
  · exact .inl (by rw [hzero])
  · exact .inr (by rw [hone])

theorem plan_of_once {arguments : Arguments} {here? : Option Path} {found : Plan}
    (honce : arguments.once = true) (h : arguments.plan env here? = .ok found) :
    ∃ job, found = .once job := by
  unfold Arguments.plan at h
  obtain ⟨source, _, h⟩ := bind_eq_ok.mp h
  obtain ⟨deck, _, h⟩ := bind_eq_ok.mp h
  rw [honce] at h
  cases h
  exact ⟨_, rfl⟩

/-- A run that escapes: without an exit code, with the files as they were and nothing printed. -/
structure Session.IsEscape (session : Session) (before : Files) (cause : NoPlan) : Prop where
  exit_eq : session.exit = .error (.noPlan cause)
  files_eq : session.files = before
  printed_eq : session.printed = []

/-- A run that is to render once ends with code 0 or 1 if no directory is missing, and escapes at
once if one is. -/
theorem exit_of_asked_once {arguments : Arguments} (script : Script) (interruption : Nat)
    (hlog : ((Log.Loggers.ofSetting env.logSetting).obtain loggerName none).1.isOk = true)
    (hread : readArguments env words = .ok (some arguments)) (honce : arguments.once = true) :
    let session := run env files script interruption words
    session.pauses = [] ∧
      (¬ arguments.LacksHome env ∧ ¬ arguments.LacksHere files ∧
          (session.exit = .ok 0 ∨ session.exit = .ok 1) ∨
        arguments.LacksHome env ∧ (∃ cause, session.IsEscape files (.home cause)) ∨
        ¬ arguments.LacksHome env ∧ arguments.LacksHere files ∧ session.IsEscape files .here) := by
  intro session
  have hplan : plan env (herePath? files) words = arguments.plan env (herePath? files) := by
    rw [plan, hread]
  have hescapes : ∀ {cause}, arguments.plan env (herePath? files) = .error cause →
      session.pauses = [] ∧ session.IsEscape files cause := by
    intro cause hcause
    obtain ⟨loggers, hsession⟩ : ∃ loggers, session =
        ⟨.error (.noPlan cause), loggers, [], files, []⟩ :=
      run_of_no_plan script interruption hlog (hplan.trans hcause)
    rw [hsession]
    exact ⟨rfl, rfl, rfl, rfl⟩
  obtain ⟨⟨found, hfound⟩, hhome, hhere⟩ | ⟨⟨cause, hcause⟩, hlacks⟩ | ⟨hgone, hhome, hhere⟩ :=
    plan_of_arguments env arguments files
  · obtain ⟨job, rfl⟩ := plan_of_once honce hfound
    obtain ⟨loggers, hsession⟩ : ∃ loggers, session =
        (Plan.once job).run files loggers script interruption :=
      run_of_plan script interruption hlog (hplan.trans hfound)
    obtain ⟨hpauses, hexit⟩ := run_once job files loggers script interruption
    rw [hsession]
    exact ⟨hpauses, .inl ⟨hhome, hhere, hexit⟩⟩
  · obtain ⟨hpauses, hescape⟩ := hescapes hcause
    exact ⟨hpauses, .inr (.inl ⟨hlacks, cause, hescape⟩)⟩
  · obtain ⟨hpauses, hescape⟩ := hescapes hgone
    exact ⟨hpauses, .inr (.inr ⟨hhome, hhere, hescape⟩)⟩

/-- How a run ends that has the flag `--once` among its words before the separator, if there is a
level for its log.  It never pauses.  A request for help ends with code 0, a misuse with code 2, and
everything else with code 0 or 1, whatever stands at the paths, with two exceptions: the source or
the deck that is asked for begins with a home directory that cannot be found, or no deck is asked
for and the current directory is gone.  Then the run escapes without an exit code, with the files as
they were and nothing printed. -/
theorem exit_of_once_flag (env : Environment) (files : Files) (script : Script)
    (interruption : Nat) (words : List String)
    (hlog : ((Log.Loggers.ofSetting env.logSetting).obtain loggerName none).1.isOk = true)
    (honce : "--once" ∈ words.takeWhile (· != "--")) :
    let session := run env files script interruption words
    session.pauses = [] ∧
      ((readArguments env words = .ok none ∧ session.exit = .ok 0) ∨
        (∃ misuse, readArguments env words = .error misuse ∧ session.exit = .ok 2) ∨
        ∃ arguments, readArguments env words = .ok (some arguments) ∧
          (¬ arguments.LacksHome env ∧ ¬ arguments.LacksHere files ∧
              (session.exit = .ok 0 ∨ session.exit = .ok 1) ∨
            arguments.LacksHome env ∧ (∃ cause, session.IsEscape files (.home cause)) ∨
            ¬ arguments.LacksHome env ∧ arguments.LacksHere files ∧
              session.IsEscape files .here)) := by
  intro session
  have hruns : ∀ {found : Plan}, plan env (herePath? files) words = .ok found →
      ∃ loggers, session = found.run files loggers script interruption :=
    fun hplan => run_of_plan script interruption hlog hplan
  cases hread : readArguments env words with
  | error misuse =>
      obtain ⟨loggers, hsession⟩ := hruns (by rw [plan, hread])
      rw [hsession]
      exact ⟨rfl, .inr (.inl ⟨misuse, rfl, rfl⟩)⟩
  | ok asked =>
      cases asked with
      | none =>
          obtain ⟨loggers, hsession⟩ := hruns (by rw [plan, hread])
          rw [hsession]
          exact ⟨rfl, .inl ⟨rfl, rfl⟩⟩
      | some arguments =>
          obtain ⟨hpauses, hends⟩ := exit_of_asked_once script interruption hlog hread
            (once_of_readArguments hread honce)
          exact ⟨hpauses, .inr (.inr ⟨arguments, rfl, hends⟩)⟩

/-- A source in the home directory, wherever that is and whether the source is there or not; and the
same source once the current directory, in which its deck would lie, is gone. -/
theorem exit_of_once_flag_of_known_home :
    let env : Environment := ⟨none, none, none, ⟨some "/root", []⟩⟩
    let files : Files := ⟨["d"], [([], .directory), (["d"], .directory)]⟩
    let gone : Files := ⟨["d"], [([], .directory)]⟩
    let words := ["~/a.md", "--once"]
    let session := run env files (fun _ files => files) 0 words
    ((Log.Loggers.ofSetting env.logSetting).obtain loggerName none).1.isOk = true ∧
      "--once" ∈ words.takeWhile (· != "--") ∧ session.pauses = [] ∧
      (session.exit = .ok 0 ∨ session.exit = .ok 1) ∧
      (run env gone (fun _ files => files) 0 words).exit = .error (.noPlan .here) := by
  intro env files gone words session
  have hlog : ((Log.Loggers.ofSetting env.logSetting).obtain loggerName none).1.isOk = true := by
    cbv
  have honce : "--once" ∈ words.takeWhile (· != "--") := by decide
  have hread : readArguments env words =
      .ok (some ⟨"~/a.md", none, env.interval, env.style, true⟩) :=
    readArguments_once (by cbv) (by decide) (by decide +kernel)
  have hfinds : ¬ Arguments.LacksHome ⟨"~/a.md", none, env.interval, env.style, true⟩ env := by
    have hsource : pathOf env "~/a.md" = .ok ⟨.root, ["root", "a.md"]⟩ := by decide +kernel
    rintro (hlacks | ⟨output, houtput, _⟩)
    · obtain ⟨_, hfinds⟩ | ⟨⟨cause, herror⟩, _⟩ := pathOf_cases env "~/a.md"
      · exact hfinds hlacks
      · cases hsource.symm.trans herror
    · cases houtput
  have hhere : ¬ Arguments.LacksHere ⟨"~/a.md", none, env.interval, env.style, true⟩ files :=
    fun hlacks => hlacks.2 (by decide)
  have hgone : Arguments.LacksHere ⟨"~/a.md", none, env.interval, env.style, true⟩ gone :=
    ⟨rfl, by decide⟩
  obtain ⟨hpauses, hends⟩ :=
    exit_of_once_flag env files (fun _ files => files) 0 words hlog honce
  obtain ⟨_, hescape⟩ := exit_of_once_flag env gone (fun _ files => files) 0 words hlog honce
  refine ⟨hlog, honce, hpauses, ?_, ?_⟩
  · obtain ⟨hother, _⟩ | ⟨misuse, hother, _⟩ | ⟨arguments, hother, hends⟩ := hends
    · cases hread.symm.trans hother
    · cases hread.symm.trans hother
    · cases hread.symm.trans hother
      obtain ⟨_, _, hcode⟩ | ⟨hlacks, _⟩ | ⟨_, hlacks, _⟩ := hends
      · exact hcode
      · exact absurd hlacks hfinds
      · exact absurd hlacks hhere
  · obtain ⟨hother, _⟩ | ⟨misuse, hother, _⟩ | ⟨arguments, hother, hends⟩ := hescape
    · cases hread.symm.trans hother
    · cases hread.symm.trans hother
    · cases hread.symm.trans hother
      obtain ⟨_, hhere, _⟩ | ⟨hlacks, _⟩ | ⟨_, _, hescape⟩ := hends
      · exact absurd hgone hhere
      · exact absurd hlacks hfinds
      · exact hescape.exit_eq

/-- The home directory of a user whom nobody knows. -/
theorem exit_of_unknown_home :
    let env : Environment := ⟨none, none, none, ⟨some "/root", [("root", "/root")]⟩⟩
    let files : Files := ⟨["d"], [([], .directory), (["d"], .directory)]⟩
    let session := run env files (fun _ files => files) 0 ["~nosuchuser_zz/a.md", "--once"]
    session.exit = .error (.noPlan (.home .unknown)) ∧ ∀ code, session.exit ≠ .ok code := by
  intro env files session
  have hread : readArguments env ["~nosuchuser_zz/a.md", "--once"] =
      .ok (some ⟨"~nosuchuser_zz/a.md", none, env.interval, env.style, true⟩) :=
    readArguments_once (by cbv) (by decide) (by decide +kernel)
  have hsource : pathOf env "~nosuchuser_zz/a.md" = .error (.home .unknown) := by cbv
  have hplan : plan env (herePath? files) ["~nosuchuser_zz/a.md", "--once"] =
      .error (.home .unknown) := by
    rw [plan, hread]
    dsimp only
    rw [Arguments.plan, hsource]
    rfl
  obtain ⟨loggers, hsession⟩ := run_of_no_plan (fun _ files => files) 0 (by cbv) hplan
  have hexit : session.exit = .error (.noPlan (.home .unknown)) := congrArg Session.exit hsession
  refine ⟨hexit, fun code hcode => ?_⟩
  cases hexit.symm.trans hcode

end CommandLine

end LiveDeck
