import Mathlib
import LiveDeck.CommandLine.Session
import LiveDeck.Proofs.CommandLine.Reading
import LiveDeck.Proofs.Files.Targets
import LiveDeck.Proofs.Page.Shows

/-! # What command lines lead to

A run either escapes with the files as they were or does what a plan says (`run_cases`).  Where a
plan comes from is said by `plan_cases`: a misuse, a request for help, or arguments whose source
and deck have paths.  There are arguments if the words can be read to their end and the draft that
they make is accepted (`readArguments_eq_ok_some_iff`); they ask for a positive pause or one that is
no number, and for a known style (`isAccepted_of_readArguments`).

The stylesheet of a plan lies beside its deck, and a deck with another path has another place
(`Path.target_ne_styleSheetBeside`). -/

namespace LiveDeck

/-! ### Paths in one directory -/

namespace Path

theorem target_child {name : String} (hname : name ≠ "..") (here : Place) (path : Path) :
    (path.child name).target here = path.target here ++ [name] := by
  show (path.names ++ [name]).foldl follow _ = _
  rw [List.foldl_append, List.foldl_cons, List.foldl_nil, follow, if_neg hname]
  rfl

theorem parent_child_name {path : Path} (h : path.names ≠ []) :
    path.parent.child path.name = path := by
  have hnames : path.names.dropLast ++ [path.names.getLastD ""] = path.names := by
    rw [List.getLastD_eq_getLast?, List.getLast?_eq_some_getLast h]
    exact List.dropLast_concat_getLast h
  show (⟨path.anchor, path.names.dropLast ++ [path.names.getLastD ""]⟩ : Path) = path
  rw [hnames]

theorem target_of_name {path : Path} (hnames : path.names ≠ []) (hup : path.name ≠ "..")
    (here : Place) : path.target here = path.parent.target here ++ [path.name] := by
  conv => lhs; rw [← parent_child_name hnames, target_child hup]

theorem target_of_dotDot {path : Path} (hnames : path.names ≠ []) (hup : path.name = "..")
    (here : Place) : path.target here = (path.parent.target here).dropLast := by
  conv => lhs; rw [← parent_child_name hnames, hup]
  show (path.parent.names ++ [".."]).foldl follow _ = _
  rw [List.foldl_append]
  rfl

/-- A path that is not that of the stylesheet beside it leads to another place. -/
theorem target_ne_styleSheetBeside {path : Path} (h : path ≠ path.styleSheetBeside)
    (here : Place) : path.target here ≠ path.styleSheetBeside.target here := by
  intro heq
  rw [styleSheetBeside, target_child (by decide)] at heq
  by_cases hnames : path.names = []
  · have hparent : path.parent = path := by
      show (⟨path.anchor, path.names.dropLast⟩ : Path) = path
      rw [hnames, List.dropLast_nil, ← hnames]
    rw [hparent] at heq
    have hlength := congrArg List.length heq
    rw [List.length_append, List.length_singleton] at hlength
    omega
  · by_cases hup : path.name = ".."
    · have htarget := target_of_dotDot hnames hup here
      have hlength := congrArg List.length (htarget.symm.trans heq)
      rw [List.length_append, List.length_singleton, List.length_dropLast] at hlength
      omega
    · have htarget := target_of_name hnames hup here
      have hname : path.name = codeStylesheet := by
        have hlast := List.append_cancel_left (htarget.symm.trans heq)
        exact List.head_eq_of_cons_eq hlast
      have hpath := parent_child_name hnames
      rw [hname] at hpath
      exact h hpath.symm

end Path

theorem ne_dotDot_of_deckName (name : String) : stem name ++ ".html" ≠ ".." := by
  intro h
  have hlength := congrArg String.length h
  rw [String.length_append] at hlength
  have hhtml : ".html".length = 5 := rfl
  have hdots : "..".length = 2 := rfl
  omega

/-! ### Pauses -/

theorem Double.isAtMostZero_of_isPositive {seconds : Double} (h : seconds.isPositive = true) :
    seconds.isAtMostZero = false := by
  cases seconds with
  | finite negative units =>
      obtain ⟨hsign, hunits⟩ := Bool.and_eq_true_iff.mp h
      have hne : units ≠ 0 := Nat.ne_of_gt (of_decide_eq_true hunits)
      cases negative with
      | true => cases hsign
      | false => exact beq_false_of_ne hne
  | infinite negative =>
      cases negative with
      | true => cases h
      | false => rfl
  | nan => cases h

/-- What is not zero or less is greater than zero, unless it is no number. -/
theorem Double.isPositive_or_eq_nan {seconds : Double} (h : seconds.isAtMostZero = false) :
    seconds.isPositive = true ∨ seconds = .nan := by
  cases seconds with
  | finite negative units =>
      obtain ⟨hsign, hunits⟩ := Bool.or_eq_false_iff.mp h
      have hpos : 0 < units := Nat.pos_of_ne_zero (ne_of_beq_false hunits)
      left
      show (!negative && decide (0 < units)) = true
      rw [hsign, decide_eq_true hpos]
      rfl
  | infinite negative =>
      have hsign : negative = false := h
      left
      show (!negative) = true
      rw [hsign]
      rfl
  | nan => exact .inr rfl

theorem Environment.isPositive_defaultInterval : defaultInterval.isPositive = true := by
  decide +kernel

theorem Environment.isPositive_interval (env : Environment) : env.interval.isPositive = true := by
  unfold Environment.interval
  split
  · split
    · assumption
    · exact isPositive_defaultInterval
  · exact isPositive_defaultInterval

theorem Environment.isAtMostZero_interval (env : Environment) :
    env.interval.isAtMostZero = false :=
  Double.isAtMostZero_of_isPositive env.isPositive_interval

namespace CommandLine

variable {env : Environment} {here? : Option Path} {here : Path} {files : Files} {words : List String}

/-! ### Arguments -/

/-- Arguments that have been checked: the pause is not zero or less, and the style is known. -/
structure Arguments.IsAccepted (arguments : Arguments) : Prop where
  interval_pos : arguments.interval.isAtMostZero = false
  style_known : (Code.styles.lookup arguments.style).isSome

/-- A draft is accepted if it has a source, nothing superfluous, a pause that is not zero or less,
and a style that is known; then it asks for what it holds. -/
theorem Draft.finish_eq_ok_iff {draft : Draft} {arguments : Arguments} :
    draft.finish = .ok arguments ↔ ∃ source, draft.source? = some source ∧
      draft.extras.isEmpty = true ∧ draft.interval.isAtMostZero = false ∧
      (Code.styles.lookup draft.style).isNone = false ∧
      arguments = ⟨source, draft.output?, draft.interval, draft.style, draft.once⟩ := by
  unfold Draft.finish
  constructor
  · intro h
    split at h
    · cases h
    · rename_i source hsource
      split at h
      · cases h
      · rename_i hextras
        split at h
        · cases h
        · rename_i hinterval
          split at h
          · cases h
          · rename_i hstyle
            cases h
            exact ⟨source, hsource, by simpa using hextras, by simpa using hinterval,
              by simpa using hstyle, rfl⟩
  · rintro ⟨source, hsource, hextras, hinterval, hstyle, rfl⟩
    rw [hsource]
    dsimp only
    rw [hextras, hinterval, hstyle]
    rfl

theorem isAccepted_of_finish {draft : Draft} {arguments : Arguments}
    (h : draft.finish = .ok arguments) : arguments.IsAccepted := by
  obtain ⟨source, _, _, hinterval, hstyle, rfl⟩ := Draft.finish_eq_ok_iff.mp h
  refine ⟨hinterval, ?_⟩
  rw [← Option.not_isNone, hstyle]
  rfl

/-- A command line asks for something if its words can be read to their end and the draft that they
make is accepted. -/
theorem readArguments_eq_ok_some_iff {arguments : Arguments} :
    readArguments env words = .ok (some arguments) ↔ ∃ found draft, wordsOf words = .ok found ∧
      Reads (.start env) found draft ∧ draft.finish = .ok arguments := by
  unfold readArguments
  constructor
  · intro h
    split at h
    · cases h
    · rename_i found hwords
      split at h
      · cases h
      · cases h
      · rename_i draft hdraft
        refine ⟨found, draft, hwords, reads_of_readWords hdraft, ?_⟩
        cases hfinish : draft.finish with
        | error misuse =>
            rw [hfinish] at h
            cases h
        | ok accepted =>
            rw [hfinish] at h
            cases h
            rfl
  · rintro ⟨found, draft, hwords, hread, hfinish⟩
    rw [hwords]
    dsimp only
    rw [readWords_eq_ok_some_iff.mpr hread]
    dsimp only
    rw [hfinish]
    rfl

theorem isAccepted_of_readArguments {arguments : Arguments}
    (h : readArguments env words = .ok (some arguments)) : arguments.IsAccepted := by
  obtain ⟨_, _, _, _, hfinish⟩ := readArguments_eq_ok_some_iff.mp h
  exact isAccepted_of_finish hfinish

/-! ### Plans -/

/-- What arguments ask for: a job for their source and their deck, once or in a loop. -/
structure Arguments.Asks (arguments : Arguments) (env : Environment) (here? : Option Path)
    (job : Job) : Prop where
  source_eq : pathOf env arguments.source = .ok job.source
  deck_eq : deckOf env here? job.source arguments.output? = .ok job.deck
  style_eq : job.style = arguments.style
  styleSheet_eq : job.styleSheet = job.deck.styleSheetBeside

/-- Every way in which a command line leads to a plan. -/
theorem plan_cases {found : Plan} (h : plan env here? words = .ok found) :
    (∃ misuse, readArguments env words = .error misuse ∧ found = .reject misuse) ∨
      (readArguments env words = .ok none ∧ found = .explain) ∨
      ∃ arguments job, readArguments env words = .ok (some arguments) ∧
        arguments.Asks env here? job ∧
        found = if arguments.once then .once job else .watch job arguments.interval := by
  unfold plan at h
  split at h
  · rename_i misuse hread
    cases h
    exact .inl ⟨misuse, hread, rfl⟩
  · rename_i hread
    cases h
    exact .inr (.inl ⟨hread, rfl⟩)
  · rename_i arguments hread
    unfold Arguments.plan at h
    obtain ⟨source, hsource, h⟩ := bind_eq_ok.mp h
    obtain ⟨deck, hdeck, h⟩ := bind_eq_ok.mp h
    cases h
    exact .inr (.inr ⟨arguments, .beside source deck arguments.style, hread,
      ⟨hsource, hdeck, rfl, rfl⟩, rfl⟩)

theorem asks_of_plan_once {job : Job} (h : plan env here? words = .ok (.once job)) :
    ∃ arguments, readArguments env words = .ok (some arguments) ∧ arguments.Asks env here? job := by
  obtain ⟨_, _, hfound⟩ | ⟨_, hfound⟩ | ⟨arguments, asked, hread, hasks, hfound⟩ := plan_cases h
  · cases hfound
  · cases hfound
  · split at hfound
    · cases hfound
      exact ⟨arguments, hread, hasks⟩
    · cases hfound

/-! ### A source by itself -/

theorem finish_start (source : String) (once : Bool)
    (hstyle : (Code.styles.lookup env.style).isSome) :
    ({ Draft.start env with source? := some source, once } : Draft).finish =
      .ok ⟨source, none, env.interval, env.style, once⟩ := by
  have hknown : (Code.styles.lookup env.style).isNone = false := by
    rw [← Option.not_isSome, hstyle]
    rfl
  exact Draft.finish_eq_ok_iff.mpr
    ⟨source, rfl, rfl, env.isAtMostZero_interval, hknown, rfl⟩

theorem wordsOf_value {word : String} {rest : List String} {others : List Word}
    (hword : wordOf word = .ok (.value word)) (hne : word ≠ "--")
    (hrest : wordsOf rest = .ok others) : wordsOf (word :: rest) = .ok (.value word :: others) :=
  (wordsOf_cons hne).mpr ⟨_, _, hword, hrest, rfl⟩

/-- Words that name a source and ask for nothing but to render it once, or not even that: the pause
and the style are those of the environment. -/
theorem readArguments_of_words {found : List Word} {word : String} {once : Bool}
    (hwords : wordsOf words = .ok found)
    (hfound : readWords (Draft.start env) found =
      .ok (some { Draft.start env with source? := some word, once }))
    (hstyle : (Code.styles.lookup env.style).isSome) :
    readArguments env words = .ok (some ⟨word, none, env.interval, env.style, once⟩) :=
  readArguments_eq_ok_some_iff.mpr
    ⟨found, _, hwords, reads_of_readWords hfound, finish_start word once hstyle⟩

theorem plan_of_readArguments {word : String} {source : Path} {once : Bool} (here : Path)
    (hread : readArguments env words = .ok (some ⟨word, none, env.interval, env.style, once⟩))
    (hsource : pathOf env word = .ok source) :
    plan env (some here) words = .ok (if once then .once (.beside source (here.deckIn source) env.style)
      else .watch (.beside source (here.deckIn source) env.style) env.interval) := by
  unfold plan
  rw [hread]
  dsimp only
  unfold Arguments.plan
  rw [hsource]
  rfl

variable {word : String} {source : Path}

theorem plan_watch (here : Path) (hword : wordOf word = .ok (.value word)) (hne : word ≠ "--")
    (hsource : pathOf env word = .ok source) (hstyle : (Code.styles.lookup env.style).isSome) :
    plan env (some here) [word] =
      .ok (.watch (.beside source (here.deckIn source) env.style) env.interval) := by
  have hfound : readWords (Draft.start env) [.value word] =
      .ok (some { Draft.start env with source? := some word, once := false }) := rfl
  have hwords : wordsOf [word] = .ok [.value word] := wordsOf_value hword hne rfl
  exact plan_of_readArguments here (readArguments_of_words hwords hfound hstyle) hsource

theorem readArguments_once (hword : wordOf word = .ok (.value word)) (hne : word ≠ "--")
    (hstyle : (Code.styles.lookup env.style).isSome) :
    readArguments env [word, "--once"] =
      .ok (some ⟨word, none, env.interval, env.style, true⟩) := by
  have honce : wordsOf ["--once"] = .ok [.flag .once none] := by cbv
  have hfound : readWords (Draft.start env) [.value word, .flag .once none] =
      .ok (some { Draft.start env with source? := some word, once := true }) := rfl
  exact readArguments_of_words (wordsOf_value hword hne honce) hfound hstyle

theorem plan_once (here : Path) (hword : wordOf word = .ok (.value word)) (hne : word ≠ "--")
    (hsource : pathOf env word = .ok source) (hstyle : (Code.styles.lookup env.style).isSome) :
    plan env (some here) [word, "--once"] =
      .ok (.once (.beside source (here.deckIn source) env.style)) :=
  plan_of_readArguments here (readArguments_once hword hne hstyle) hsource

/-! ### Runs -/

/-- A run does what its plan says, or it escapes: the level of the log is none, or there is no
plan. -/
theorem run_cases (env : Environment) (files : Files) (script : Script) (interruption : Nat)
    (words : List String) :
    let session := run env files script interruption words
    (∃ fault, session.exit = .error (.logLevel fault) ∧ session.files = files) ∨
      (∃ cause, plan env (herePath? files) words = .error cause ∧
        session.exit = .error (.noPlan cause) ∧ session.files = files) ∨
      ∃ found loggers, plan env (herePath? files) words = .ok found ∧
        session = found.run files loggers script interruption := by
  unfold run
  generalize (Log.Loggers.ofSetting env.logSetting).obtain loggerName none = obtained
  obtain ⟨fault | level, loggers⟩ := obtained
  · exact .inl ⟨fault, rfl, rfl⟩
  · cases hplan : plan env (herePath? files) words with
    | error cause => exact .inr (.inl ⟨cause, rfl, rfl, rfl⟩)
    | ok found => exact .inr (.inr ⟨found, loggers, rfl, rfl⟩)

/-- With a level for the log and a plan, a run does what the plan says. -/
theorem run_of_plan {found : Plan} (script : Script) (interruption : Nat)
    (hlog : ((Log.Loggers.ofSetting env.logSetting).obtain loggerName none).1.isOk = true)
    (hplan : plan env (herePath? files) words = .ok found) :
    ∃ loggers, run env files script interruption words =
      found.run files loggers script interruption := by
  unfold run
  revert hlog
  generalize (Log.Loggers.ofSetting env.logSetting).obtain loggerName none = obtained
  obtain ⟨fault | level, loggers⟩ := obtained
  · intro hlog
    cases hlog
  · intro _
    rw [hplan]
    exact ⟨loggers, rfl⟩

end CommandLine

end LiveDeck
