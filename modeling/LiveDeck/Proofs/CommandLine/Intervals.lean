import LiveDeck.Proofs.CommandLine.Plans

/-! # The two ways to set the pause

The pause between two looks at the source is set in the environment or by an option.  The
environment counts only if its pause is greater than zero (`Environment.isPositive_interval`), the
option is refused if its pause is zero or less.  These two checks agree on every numeral but those of
what is no number: that is neither, so the first passes over it and the second lets it through
(`watch_without_number`).

Reading keeps no pause but that of the last option for it (`Reads.interval_eq`), so words without the
option are read alike whatever the environment says (`Reads.withInterval`), and so is what stands
before and after an option (`Reads.readWords_append`).  What comes of each kind of text is said by
`plans_of_text`.  Main statement: `interval_of_watch`. -/

namespace LiveDeck

namespace Environment

/-- The environment with a text for the pause. -/
def withInterval (env : Environment) (text : String) : Environment :=
  { env with interval? := some text }

theorem interval_withInterval {text : String} {seconds : Double}
    (h : Numeral.readDouble? text.toList = some seconds) (env : Environment) :
    (env.withInterval text).interval =
      if seconds.isPositive then seconds else defaultInterval := by
  unfold interval withInterval
  dsimp only [Option.bind_some]
  rw [h]

end Environment

namespace CommandLine

variable {env : Environment} {here? : Option Path} {words : List String} {job : Job} {pause : Double}

/-! ### Drafts with another pause -/

namespace Draft

/-- A draft with another pause. -/
def withInterval (draft : Draft) (pause : Double) : Draft := { draft with interval := pause }

theorem setValue_interval {value : String} {seconds : Double}
    (h : Numeral.readDouble? value.toList = some seconds) (draft : Draft) :
    draft.setValue .interval value = .ok (draft.withInterval seconds) := by
  unfold setValue
  dsimp only
  rw [h]
  rfl

theorem setValue_interval_of_none {value : String}
    (h : Numeral.readDouble? value.toList = none) (draft : Draft) :
    draft.setValue .interval value = .error (.notNumber .interval value) := by
  unfold setValue
  dsimp only
  rw [h]

theorem setValue_interval_eq_ok {draft next : Draft} {value : String}
    (h : draft.setValue .interval value = .ok next) :
    Numeral.readDouble? value.toList = some next.interval := by
  unfold setValue at h
  dsimp only at h
  cases hread : Numeral.readDouble? value.toList with
  | none =>
      rw [hread] at h
      cases h
  | some seconds =>
      rw [hread] at h
      cases h
      rfl

theorem setValue_withInterval {draft next : Draft} {flag : Flag} {value : String}
    (hflag : flag ≠ .interval) (h : draft.setValue flag value = .ok next) :
    next.interval = draft.interval ∧ ∀ pause,
      (draft.withInterval pause).setValue flag value = .ok (next.withInterval pause) := by
  cases flag with
  | interval => exact absurd rfl hflag
  | help | output | style | once =>
      cases h
      exact ⟨rfl, fun _ => rfl⟩

end Draft

/-! ### Options for the pause -/

/-- The values that words give to the option for the pause, from left to right. -/
def intervalValues : List Word → List String
  | .flag .interval none :: .value value :: rest => value :: intervalValues rest
  | .flag .interval (some (.afterEquals value)) :: rest => value :: intervalValues rest
  | _ :: rest => intervalValues rest
  | [] => []

theorem intervalValues_option (flag : Flag) (value : String) (rest : List Word) :
    intervalValues (.flag flag none :: .value value :: rest) =
      if flag = .interval then value :: intervalValues rest else intervalValues rest := by
  cases flag with
  | help | output | interval | style | once => rfl

theorem intervalValues_attached (flag : Flag) (value : String) (rest : List Word) :
    intervalValues (.flag flag (some (.afterEquals value)) :: rest) =
      if flag = .interval then value :: intervalValues rest else intervalValues rest := by
  cases flag with
  | help | output | interval | style | once => rfl

theorem of_ite_cons_eq_nil {p : Prop} [Decidable p] {value : String} {values : List String}
    (h : (if p then value :: values else values) = []) : ¬ p ∧ values = [] := by
  split at h
  · cases h
  · exact ⟨‹_›, h⟩

/-- The pause after values have been given for it: the last of them counts. -/
def lastInterval? (start : Double) (values : List String) : Option Double :=
  match values.getLast? with
  | none => some start
  | some value => Numeral.readDouble? value.toList

theorem lastInterval?_cons {value : String} {seconds : Double}
    (h : Numeral.readDouble? value.toList = some seconds) (start : Double) (values : List String) :
    lastInterval? start (value :: values) = lastInterval? seconds values := by
  unfold lastInterval?
  rw [List.getLast?_cons]
  cases values.getLast? with
  | none => exact h
  | some last => rfl

theorem lastInterval?_of_setValue {draft next : Draft} {flag : Flag} {value : String}
    (h : draft.setValue flag value = .ok next) (values : List String) :
    lastInterval? draft.interval (if flag = .interval then value :: values else values) =
      lastInterval? next.interval values := by
  by_cases hflag : flag = .interval
  · subst hflag
    rw [if_pos rfl, lastInterval?_cons (Draft.setValue_interval_eq_ok h)]
  · rw [if_neg hflag, (Draft.setValue_withInterval hflag h).1]

theorem Reads.interval_eq {draft result : Draft} {found : List Word} (h : Reads draft found result) :
    lastInterval? draft.interval (intervalValues found) = some result.interval := by
  induction h with
  | done => rfl
  | unknown _ ih | extraSeparator _ _ ih | separator _ _ ih | extra _ _ ih
  | sourceAndSeparator _ _ ih | source _ _ _ ih | once _ ih => exact ih
  | option _ hnext _ ih =>
      rw [intervalValues_option, lastInterval?_of_setValue hnext]
      exact ih
  | attached _ hnext _ ih =>
      rw [intervalValues_attached, lastInterval?_of_setValue hnext]
      exact ih

theorem Reads.withInterval {draft result : Draft} {found : List Word} (h : Reads draft found result)
    (hnone : intervalValues found = []) (pause : Double) :
    Reads (draft.withInterval pause) found (result.withInterval pause) := by
  induction h with
  | done => exact .done
  | unknown _ ih => exact .unknown (ih hnone)
  | extraSeparator hsource _ ih => exact .extraSeparator hsource (ih hnone)
  | separator hsource _ ih => exact .separator hsource (ih hnone)
  | extra hsource _ ih => exact .extra hsource (ih hnone)
  | sourceAndSeparator hsource _ ih => exact .sourceAndSeparator hsource (ih hnone)
  | source hsource hhead _ ih => exact .source hsource hhead (ih hnone)
  | option hvalue hnext _ ih =>
      rw [intervalValues_option] at hnone
      obtain ⟨hflag, hrest⟩ := of_ite_cons_eq_nil hnone
      exact .option hvalue ((Draft.setValue_withInterval hflag hnext).2 pause) (ih hrest)
  | once _ ih => exact .once (ih hnone)
  | attached hvalue hnext _ ih =>
      rw [intervalValues_attached] at hnone
      obtain ⟨hflag, hrest⟩ := of_ite_cons_eq_nil hnone
      exact .attached hvalue ((Draft.setValue_withInterval hflag hnext).2 pause) (ih hrest)

theorem intervalValues_tail {word : Word} {rest : List Word}
    (h : intervalValues (word :: rest) = []) : intervalValues rest = [] := by
  unfold intervalValues at h
  split at h
  · cases h
  · cases h
  · rename_i heq
    cases heq
    exact h
  · rename_i heq
    cases heq

theorem intervalValues_of_append {first second : List Word}
    (h : intervalValues (first ++ second) = []) : intervalValues second = [] := by
  induction first with
  | nil => exact h
  | cons word rest ih => exact ih (intervalValues_tail h)

/-- The option for the pause with its value in the same word. -/
def intervalWord (value : String) : String := "--interval=" ++ value

/-- What that word is. -/
def intervalOption (value : String) : Word := .flag .interval (some (.afterEquals value))

theorem wordOf_intervalWord (value : String) :
    wordOf (intervalWord value) = .ok (intervalOption value) := by
  have htext : (intervalWord value).toList = "--interval=".toList ++ value.toList :=
    String.toList_append
  have hsplit : splitAtEquals (intervalWord value).toList =
      ("--interval".toList, some (.afterEquals value)) := by
    rw [htext]
    show (_, some (Attached.afterEquals (String.ofList value.toList))) = _
    rw [String.ofList_toList]
    rfl
  unfold wordOf
  rw [hsplit, htext]
  rfl

theorem intervalWord_ne_separator (value : String) : intervalWord value ≠ "--" := by
  intro h
  have hlength := congrArg String.length h
  unfold intervalWord at hlength
  rw [String.length_append] at hlength
  have hoption : "--interval=".length = 11 := rfl
  have hdashes : "--".length = 2 := rfl
  omega

/-! ### Plans of drafts -/

/-- What a draft makes the program do. -/
def Draft.plan (draft : Draft) (env : Environment) (here? : Option Path) : Except NoPlan Plan :=
  match draft.finish with
  | .error misuse => .ok (.reject misuse)
  | .ok arguments => arguments.plan env here?

theorem plan_of_reads {found : List Word} {draft : Draft} (hwords : wordsOf words = .ok found)
    (hread : Reads (.start env) found draft) (here? : Option Path) :
    plan env here? words = draft.plan env here? := by
  unfold plan readArguments
  rw [hwords]
  dsimp only
  rw [readWords_eq_ok_some_iff.mpr hread]
  dsimp only
  unfold Draft.plan
  cases draft.finish with
  | error misuse => rfl
  | ok arguments => rfl

theorem plan_of_misuse {found : List Word} {misuse : Misuse} (hwords : wordsOf words = .ok found)
    (hread : readWords (.start env) found = .error misuse) (here? : Option Path) :
    plan env here? words = .ok (.reject misuse) := by
  unfold plan readArguments
  rw [hwords]
  dsimp only
  rw [hread]

theorem reads_of_plan_watch (h : plan env here? words = .ok (.watch job pause)) :
    ∃ found draft, wordsOf words = .ok found ∧ Reads (.start env) found draft ∧
      draft.plan env here? = .ok (.watch job pause) := by
  cases hread : readArguments env words with
  | error misuse =>
      rw [plan, hread] at h
      cases h
  | ok asked =>
      cases asked with
      | none =>
          rw [plan, hread] at h
          cases h
      | some arguments =>
          obtain ⟨found, draft, hwords, hreads, _⟩ := readArguments_eq_ok_some_iff.mp hread
          rw [plan_of_reads hwords hreads] at h
          exact ⟨found, draft, hwords, hreads, h⟩

theorem Arguments.plan_withInterval {arguments : Arguments}
    (h : arguments.plan env here? = .ok (.watch job pause)) :
    arguments.interval = pause ∧ ∀ seconds,
      ({ arguments with interval := seconds } : Arguments).plan env here? =
        .ok (.watch job seconds) := by
  unfold Arguments.plan at h
  obtain ⟨source, hsource, h⟩ := bind_eq_ok.mp h
  obtain ⟨deck, hdeck, h⟩ := bind_eq_ok.mp h
  cases honce : arguments.once with
  | true =>
      rw [honce] at h
      cases h
  | false =>
      rw [honce] at h
      cases h
      refine ⟨rfl, fun seconds => ?_⟩
      unfold Arguments.plan
      rw [hsource]
      show (do let deck ← deckOf env here? source arguments.output?; _) = _
      rw [hdeck]
      rfl

theorem Draft.finish_withInterval {draft : Draft} {arguments : Arguments}
    (h : draft.finish = .ok arguments) (seconds : Double) :
    (draft.withInterval seconds).finish =
      if seconds.isAtMostZero then .error .notPositive
      else .ok { arguments with interval := seconds } := by
  obtain ⟨source, hsource, hextras, _, hstyle, rfl⟩ := Draft.finish_eq_ok_iff.mp h
  unfold Draft.finish withInterval
  dsimp only
  rw [hsource]
  dsimp only
  rw [hextras, hstyle]
  rfl

theorem Draft.interval_of_finish {draft : Draft} {arguments : Arguments}
    (h : draft.finish = .ok arguments) : arguments.interval = draft.interval := by
  obtain ⟨source, _, _, _, _, rfl⟩ := Draft.finish_eq_ok_iff.mp h
  rfl

theorem Draft.plan_withInterval {draft : Draft}
    (h : draft.plan env here? = .ok (.watch job pause)) :
    draft.interval = pause ∧ pause.isAtMostZero = false ∧ ∀ seconds,
      (draft.withInterval seconds).plan env here? =
        .ok (if seconds.isAtMostZero then .reject .notPositive else .watch job seconds) := by
  unfold Draft.plan at h
  cases hfinish : draft.finish with
  | error misuse =>
      rw [hfinish] at h
      cases h
  | ok arguments =>
      rw [hfinish] at h
      obtain ⟨hpause, hplan⟩ := Arguments.plan_withInterval h
      have haccepted := (isAccepted_of_finish hfinish).interval_pos
      rw [hpause] at haccepted
      refine ⟨(Draft.interval_of_finish hfinish).symm.trans hpause, haccepted, fun seconds => ?_⟩
      unfold Draft.plan
      rw [Draft.finish_withInterval hfinish]
      by_cases hzero : seconds.isAtMostZero = true
      · rw [if_pos hzero, if_pos hzero]
      · rw [if_neg hzero, if_neg hzero]
        exact hplan seconds

/-! ### Both ways to set the pause -/

/-- The values of the option for the pause in a command line. -/
def intervalTexts (words : List String) : List String :=
  match wordsOf words with
  | .ok found => intervalValues found
  | .error _ => []

/-- An option with its value has a place between words: those before it can be read by themselves,
and no separator is among them or would belong to the last of them. -/
structure TakesOption (env : Environment) (before after : List String) : Prop where
  no_separator : "--" ∉ before
  readable : ∃ found draft, wordsOf before = .ok found ∧
    readWords (.start env) found = .ok (some draft)
  next_ne : before ≠ [] → after.head? ≠ some "--"

section Watch

variable {found : List Word} {draft : Draft}

theorem plan_of_environment (hwords : wordsOf words = .ok found)
    (hread : Reads (.start env) found draft) (hplan : draft.plan env here? = .ok (.watch job pause))
    (hnone : intervalValues found = []) (text : String) :
    plan (env.withInterval text) here? words =
      .ok (.watch job (env.withInterval text).interval) := by
  have hset : Reads (.start (env.withInterval text)) found
      (draft.withInterval (env.withInterval text).interval) := hread.withInterval hnone _
  obtain ⟨_, _, hwatch⟩ := draft.plan_withInterval hplan
  rw [plan_of_reads hwords hset]
  show (draft.withInterval _).plan env here? = _
  rw [hwatch, (env.withInterval text).isAtMostZero_interval]
  rfl

theorem plan_of_option {before after : List String} (hwords : wordsOf (before ++ after) = .ok found)
    (hread : Reads (.start env) found draft) (hplan : draft.plan env here? = .ok (.watch job pause))
    (hnone : intervalValues found = []) (htakes : TakesOption env before after) (text : String) :
    plan env here? (before ++ intervalWord text :: after) =
      match Numeral.readDouble? text.toList with
      | none => .ok (.reject (.notNumber .interval text))
      | some seconds =>
        .ok (if seconds.isAtMostZero then .reject .notPositive else .watch job seconds) := by
  obtain ⟨hbefore, ⟨first, middle, hfirst, hmiddle⟩, hnext⟩ := htakes
  obtain ⟨front, second, hfront, hsecond, rfl⟩ := (wordsOf_append hbefore).mp hwords
  cases hfirst.symm.trans hfront
  have hmiddle : Reads (.start env) first middle := readWords_eq_ok_some_iff.mp hmiddle
  have hrest : Reads middle second draft := by
    by_cases hempty : before = []
    · subst hempty
      cases hfirst
      cases hmiddle
      exact hread
    · have hhead : second.head? ≠ some .separator :=
        fun h => hnext hempty (head?_of_wordsOf_separator hsecond h)
      rw [← readWords_eq_ok_some_iff, ← hmiddle.readWords_append hhead, readWords_eq_ok_some_iff]
      exact hread
  have hback : wordsOf (intervalWord text :: after) = .ok (intervalOption text :: second) :=
    (wordsOf_cons (intervalWord_ne_separator text)).mpr
      ⟨_, _, wordOf_intervalWord text, hsecond, rfl⟩
  have hasked : wordsOf (before ++ intervalWord text :: after) =
      .ok (first ++ intervalOption text :: second) :=
    (wordsOf_append hbefore).mpr ⟨_, _, hfirst, hback, rfl⟩
  have hstart : readWords (.start env) (first ++ intervalOption text :: second) =
      readWords middle (intervalOption text :: second) :=
    hmiddle.readWords_append nofun
  cases hdouble : Numeral.readDouble? text.toList with
  | none =>
      refine plan_of_misuse hasked ?_ here?
      rw [hstart, intervalOption, readWords, if_pos (by decide),
        middle.setValue_interval_of_none hdouble]
  | some seconds =>
      have hrest : Reads middle (intervalOption text :: second) (draft.withInterval seconds) :=
        .attached rfl (middle.setValue_interval hdouble)
          (hrest.withInterval (intervalValues_of_append hnone) seconds)
      rw [← readWords_eq_ok_some_iff, ← hstart, readWords_eq_ok_some_iff] at hrest
      obtain ⟨_, _, hwatch⟩ := draft.plan_withInterval hplan
      rw [plan_of_reads hasked hrest]
      exact hwatch seconds

/-- What comes of the two ways for each kind of text: no numeral, a number that is positive, one
that is zero or less, and what is no number. -/
theorem plans_of_text {before after : List String} (hwords : wordsOf (before ++ after) = .ok found)
    (hread : Reads (.start env) found draft) (hplan : draft.plan env here? = .ok (.watch job pause))
    (hnone : intervalValues found = []) (htakes : TakesOption env before after) (text : String) :
    let set := plan (env.withInterval text) here? (before ++ after)
    let asked := plan env here? (before ++ intervalWord text :: after)
    (Numeral.readDouble? text.toList = none ∧ asked = .ok (.reject (.notNumber .interval text))) ∨
      ∃ seconds, Numeral.readDouble? text.toList = some seconds ∧
        (seconds.isPositive = true ∧ set = .ok (.watch job seconds) ∧
            asked = .ok (.watch job seconds) ∨
          seconds.isAtMostZero = true ∧ set = .ok (.watch job Environment.defaultInterval) ∧
            asked = .ok (.reject .notPositive) ∨
          seconds = .nan ∧ set = .ok (.watch job Environment.defaultInterval) ∧
            asked = .ok (.watch job .nan)) := by
  intro set asked
  have hset : set = .ok (.watch job (env.withInterval text).interval) :=
    plan_of_environment hwords hread hplan hnone text
  have hasked := plan_of_option hwords hread hplan hnone htakes text
  cases hdouble : Numeral.readDouble? text.toList with
  | none =>
      rw [hdouble] at hasked
      exact .inl ⟨rfl, hasked⟩
  | some seconds =>
      rw [hdouble] at hasked
      dsimp only at hasked
      rw [Environment.interval_withInterval hdouble] at hset
      refine .inr ⟨seconds, rfl, ?_⟩
      cases hzero : seconds.isAtMostZero with
      | true =>
          have hnot : ¬ seconds.isPositive = true := by
            intro hpositive
            cases hzero.symm.trans (Double.isAtMostZero_of_isPositive hpositive)
          rw [if_neg hnot] at hset
          rw [if_pos hzero] at hasked
          exact .inr (.inl ⟨rfl, hset, hasked⟩)
      | false =>
          rw [if_neg (Bool.eq_false_iff.mp hzero)] at hasked
          obtain hpositive | rfl := Double.isPositive_or_eq_nan hzero
          · rw [if_pos hpositive] at hset
            exact .inl ⟨hpositive, hset, hasked⟩
          · rw [if_neg (by decide)] at hset
            exact .inr (.inr ⟨rfl, hset, hasked⟩)

/-- An accepted pause that is not greater than zero is that of the last option for it. -/
theorem isPositive_or_asked_of_reads (hread : Reads (.start env) found draft)
    (haccepted : draft.interval.isAtMostZero = false) :
    draft.interval.isPositive = true ∨ draft.interval = .nan ∧
      ∃ text, (intervalValues found).getLast? = some text ∧
        Numeral.readDouble? text.toList = some .nan := by
  obtain hpositive | hnan := Double.isPositive_or_eq_nan haccepted
  · exact .inl hpositive
  · have hlast := hread.interval_eq
    rw [hnan] at hlast
    unfold lastInterval? at hlast
    split at hlast
    · have hpositive := env.isPositive_interval
      rw [show env.interval = .nan from Option.some.inj hlast] at hpositive
      cases hpositive
    · rename_i text htext
      exact .inr ⟨hnan, text, htext, hlast⟩

theorem watch_default_ne {seconds : Double} (hzero : seconds.isAtMostZero = true) :
    (.ok (.watch job Environment.defaultInterval) : Except NoPlan Plan) ≠
      .ok (.watch job seconds) := by
  intro h
  have hpositive := Environment.isPositive_defaultInterval
  rw [(Plan.watch.inj (Except.ok.inj h)).2] at hpositive
  cases hzero.symm.trans (Double.isAtMostZero_of_isPositive hpositive)

/-- The two ways agree on every text but what is no number. -/
theorem ways_agree {before after : List String} (hwords : wordsOf (before ++ after) = .ok found)
    (hread : Reads (.start env) found draft) (hplan : draft.plan env here? = .ok (.watch job pause))
    (hnone : intervalValues found = []) (htakes : TakesOption env before after) (text : String)
    (hne : Numeral.readDouble? text.toList ≠ some .nan) :
    let set := plan (env.withInterval text) here? (before ++ after)
    let asked := plan env here? (before ++ intervalWord text :: after)
    ((∃ seconds, Numeral.readDouble? text.toList = some seconds ∧
        set = .ok (.watch job seconds)) ↔ ∀ misuse, asked ≠ .ok (.reject misuse)) ∧
      ∀ seconds, Numeral.readDouble? text.toList = some seconds →
        set = .ok (.watch job seconds) → asked = .ok (.watch job seconds) := by
  intro set asked
  obtain ⟨hnumber, hasked⟩ | ⟨seconds, hnumber, hkinds⟩ :=
    plans_of_text hwords hread hplan hnone htakes text
  · rw [hnumber]
    refine ⟨iff_of_false ?_ fun hnever => hnever _ hasked, nofun⟩
    rintro ⟨seconds, hsome, _⟩
    cases hsome
  · rw [hnumber] at hne ⊢
    obtain ⟨_, hset, hasked⟩ | ⟨hzero, hset, hasked⟩ | ⟨rfl, _⟩ := hkinds
    · constructor
      · refine iff_of_true ⟨seconds, rfl, hset⟩ ?_
        intro misuse hreject
        cases hasked.symm.trans hreject
      · intro other hother _
        cases hother
        exact hasked
    · have hnot : set ≠ .ok (.watch job seconds) := by
        intro hwatch
        exact watch_default_ne hzero (hset.symm.trans hwatch)
      constructor
      · refine iff_of_false ?_ fun hnever => hnever _ hasked
        rintro ⟨other, hother, hwatch⟩
        cases hother
        exact hnot hwatch
      · intro other hother hwatch
        cases hother
        exact absurd hwatch hnot
    · exact absurd rfl hne

end Watch

/-- The pause of a watch and the two ways to set it.  The pause is greater than zero, unless it comes
from an option, the last one for it, whose value is no number.  Where no option asks for a pause, let
a text be set in the environment, or be asked for by an option anywhere among the words.  Unless the
text reads as what is no number, setting it makes a watch with the pause that it reads as just if
asking for it is no misuse, and then asking for it makes the same watch.  What is no number leaves
the default where it is set, and is the pause where it is asked for. -/
theorem interval_of_watch (env : Environment) (here? : Option Path) (words : List String) (job : Job)
    (pause : Double) (hwatch : plan env here? words = .ok (.watch job pause)) :
    (pause.isPositive = true ∨ pause = .nan ∧ ∃ text, (intervalTexts words).getLast? = some text ∧
      Numeral.readDouble? text.toList = some .nan) ∧
    (intervalTexts words = [] → ∀ before after, words = before ++ after →
      TakesOption env before after → ∀ text,
        let number? := Numeral.readDouble? text.toList
        let set := plan (env.withInterval text) here? words
        let asked := plan env here? (before ++ ("--interval=" ++ text) :: after)
        (number? ≠ some .nan →
          ((∃ seconds, number? = some seconds ∧ set = .ok (.watch job seconds)) ↔
            ∀ misuse, asked ≠ .ok (.reject misuse)) ∧
          ∀ seconds, number? = some seconds → set = .ok (.watch job seconds) →
            asked = .ok (.watch job seconds)) ∧
        (number? = some .nan → set = .ok (.watch job Environment.defaultInterval) ∧
          asked = .ok (.watch job .nan))) := by
  obtain ⟨found, draft, hwords, hread, hplan⟩ := reads_of_plan_watch hwatch
  obtain ⟨hpause, haccepted, _⟩ := draft.plan_withInterval hplan
  have htexts : intervalTexts words = intervalValues found := by
    unfold intervalTexts
    rw [hwords]
  rw [htexts]
  constructor
  · rw [← hpause] at haccepted ⊢
    exact isPositive_or_asked_of_reads hread haccepted
  · intro hnone before after hsplit htakes text number? set asked
    subst hsplit
    refine ⟨ways_agree hwords hread hplan hnone htakes text, ?_⟩
    intro hnan
    obtain ⟨hnumber, _⟩ | ⟨seconds, hnumber, hkinds⟩ :=
      plans_of_text hwords hread hplan hnone htakes text
    · cases hnumber.symm.trans hnan
    · cases hnumber.symm.trans hnan
      obtain ⟨hpositive, _⟩ | ⟨hzero, _⟩ | ⟨_, hset, hasked⟩ := hkinds
      · cases hpositive
      · cases hzero
      · exact ⟨hset, hasked⟩

/-- A source with a style behind it: an option between them names two and a half seconds. -/
theorem interval_of_watch_of_numeral :
    let env : Environment := ⟨none, none, none, ⟨none, []⟩⟩
    let here? : Option Path := some ⟨.root, ["d"]⟩
    let job : Job := .beside ⟨.here, ["a.md"]⟩ ⟨.root, ["d", "a.html"]⟩ "bw"
    let words := ["a.md", "--style", "bw"]
    plan env here? words = .ok (.watch job env.interval) ∧ intervalTexts words = [] ∧
      TakesOption env ["a.md"] ["--style", "bw"] ∧
      ∃ seconds, Numeral.readDouble? "2_5e-1".toList = some seconds ∧
        plan (env.withInterval "2_5e-1") here? words = .ok (.watch job seconds) ∧
        plan env here? ["a.md", "--interval=2_5e-1", "--style", "bw"] =
          .ok (.watch job seconds) := by
  intro env here? job words
  have hwatch : plan env here? words = .ok (.watch job env.interval) := by decide +kernel
  have hnone : intervalTexts words = [] := by decide +kernel
  have htakes : TakesOption env ["a.md"] ["--style", "bw"] := {
    no_separator := by decide
    readable := ⟨[.value "a.md"], _, by decide +kernel, rfl⟩
    next_ne := fun _ => by decide }
  have hnumber : Numeral.readDouble? "2_5e-1".toList =
      some (.finite false (5 * 2 ^ 1073)) := by decide +kernel
  have hset : plan (env.withInterval "2_5e-1") here? words =
      .ok (.watch job (.finite false (5 * 2 ^ 1073))) := by decide +kernel
  obtain ⟨_, hways⟩ := interval_of_watch env here? words job env.interval hwatch
  obtain ⟨hagree, _⟩ := hways hnone ["a.md"] ["--style", "bw"] rfl htakes "2_5e-1"
  have hasked := (hagree (by rw [hnumber]; nofun)).2 _ hnumber hset
  exact ⟨hwatch, hnone, htakes, _, hnumber, hset, hasked⟩

/-- What is no number is refused as a pause of the environment and accepted as that of an option. -/
theorem watch_without_number :
    let env : Environment := ⟨none, none, none, ⟨none, []⟩⟩
    let here? : Option Path := some ⟨.root, ["d"]⟩
    let job : Job := .beside ⟨.here, ["a.md"]⟩ ⟨.root, ["d", "a.html"]⟩ "default"
    Numeral.readDouble? "nan".toList = some .nan ∧ Double.nan.isPositive = false ∧
      plan (env.withInterval "nan") here? ["a.md"] =
        .ok (.watch job Environment.defaultInterval) ∧
      plan env here? ["a.md", "--interval=nan"] = .ok (.watch job .nan) := by
  intro env here? job
  have hnumber : Numeral.readDouble? "nan".toList = some .nan := by decide +kernel
  have hset : plan (env.withInterval "nan") here? ["a.md"] =
      .ok (.watch job Environment.defaultInterval) := by decide +kernel
  have hasked : plan env here? ["a.md", "--interval=nan"] = .ok (.watch job .nan) := by
    decide +kernel
  exact ⟨hnumber, rfl, hset, hasked⟩

end CommandLine
end LiveDeck
