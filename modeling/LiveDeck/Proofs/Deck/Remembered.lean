import Mathlib
import LiveDeck.Deck.Watch
import LiveDeck.Proofs.Deck.Unencodable

/-! # The deck and the remembered text

A loop remembers the text of its last deck.  `Run.Reaches` lets ticks and changes by others follow
one another in any order; others may do anything that keeps the current directory and what stands
at the place of the deck, so they may write, delete and make directories at all other places
(`Reaches.write`, `Reaches.delete`, `Reaches.makeDirectory`).  The loops of `Deck/Watch` are such
runs (`reaches_ticks`).

The invariant is `Run.Faithful`: the deck is the page of the remembered text, and nobody has
touched it if there is none, unless a tick has emptied it since for a page without bytes
(`Run.Spoiled`).  A tick keeps it (`Faithful.tick`) since it writes the deck and remembers the text
together, or does neither, or spoils the deck; `deck_of_remembered` is what follows for every run
from its start. -/

namespace LiveDeck

/-- The deck is the page of a text. -/
def Job.Shows (job : Job) (files : Files) (text : List Char) : Prop :=
  ∃ bytes, job.IsDeck text bytes ∧ files.find? (job.deckPlace files) = some (.file bytes)

theorem Job.Shows.of_sameAt {job : Job} {before after : Files} {text : List Char}
    (h : job.Shows before text) (hsame : Files.SameAt (job.deckPlace before) before after) :
    job.Shows after text := by
  obtain ⟨bytes, hdeck, hfind⟩ := h
  refine ⟨bytes, hdeck, ?_⟩
  rw [Job.deckPlace_of_here hsame.1, hsame.2, hfind]

namespace Run

/-- What a loop can come to: ticks of its own, and changes by others that keep the current
directory and what stands at the place of the deck. -/
inductive Reaches (job : Job) (first : Run) : Run → Prop
  | refl : Reaches job first first
  | tick {run : Run} : Reaches job first run → Reaches job first (run.tick job)
  | change {run next : Run} : Reaches job first run →
      Files.SameAt (job.deckPlace run.files) run.files next.files → next.last? = run.last? →
      Reaches job first next

section reaches

variable {job : Job} {first run : Run} {path : Path}

theorem Reaches.write {bytes : List UInt8} {files : Files} (h : Reaches job first run)
    (hne : job.deckPlace run.files ≠ path.target run.files.here)
    (hwrite : run.files.write path bytes = .ok files) : Reaches job first { run with files } :=
  h.change (Files.sameAt_write hne hwrite) rfl

theorem Reaches.delete {files : Files} (h : Reaches job first run)
    (hne : job.deckPlace run.files ≠ path.target run.files.here)
    (hdelete : run.files.delete path = .ok files) : Reaches job first { run with files } :=
  h.change (Files.sameAt_delete hne hdelete) rfl

theorem Reaches.makeDirectory {files : Files} (h : Reaches job first run)
    (hne : job.deckPlace run.files ≠ path.target run.files.here)
    (hmake : run.files.makeDirectory path = .ok files) : Reaches job first { run with files } :=
  h.change (Files.sameAt_makeDirectory hne hmake) rfl

theorem reaches_ticks {script : Script}
    (hscript : ∀ pause files, Files.SameAt (job.deckPlace files) files (script pause files)) :
    ∀ (count : Nat) {run : Run}, Reaches job first run →
      Reaches job first (run.ticks job script count)
  | 0, _, h => h
  | 1, _, h => h.tick
  | count + 2, run, h => by
      have hpause : Reaches job first ((run.tick job).pause script) :=
        h.tick.change (hscript _ _) rfl
      exact reaches_ticks hscript (count + 1) hpause

end reaches

/-! ### The invariant -/

/-- The deck is empty, and the remembered text is still that of an earlier tick which found a page
without bytes. -/
structure Spoiled (job : Job) (start : Files) (run before : Run) (fault : Utf8.Unencodable) :
    Prop where
  before_reached : Reaches job (Run.start start none) before
  outcome_eq : (job.tick before.files before.last?).outcome = .error (.unencodable fault)
  run_reached : Reaches job (before.tick job) run
  last_eq : run.last? = before.last?
  empty : run.files.find? (job.deckPlace start) = some (.file [])

/-- A tick has spoiled the deck. -/
def IsSpoiled (job : Job) (start : Files) (run : Run) : Prop :=
  ∃ before fault, Spoiled job start run before fault

/-- The remembered text has a page with bytes, and the deck is that page; if there is none, the deck
is what it was in the beginning; or it has been spoiled. -/
structure Faithful (job : Job) (start : Files) (run : Run) : Prop where
  here_eq : run.files.here = start.here
  isDeck : ∀ text, run.last? = some text → ∃ bytes, job.IsDeck text bytes
  shows : ∀ text, run.last? = some text → job.Shows run.files text ∨ IsSpoiled job start run
  untouched : run.last? = none →
    run.files.find? (job.deckPlace start) = start.find? (job.deckPlace start) ∨
      IsSpoiled job start run

variable {job : Job} {start : Files} {run next : Run}

theorem IsSpoiled.of_sameAt (h : IsSpoiled job start run)
    (hstep : ∀ first, Reaches job first run → Reaches job first next)
    (hsame : Files.SameAt (job.deckPlace start) run.files next.files)
    (hlast : next.last? = run.last?) : IsSpoiled job start next := by
  obtain ⟨before, fault, hspoiled⟩ := h
  exact ⟨before, fault, hspoiled.before_reached, hspoiled.outcome_eq, hstep _ hspoiled.run_reached,
    hlast.trans hspoiled.last_eq, hsame.2.trans hspoiled.empty⟩

theorem Faithful.deckPlace_eq (h : Faithful job start run) :
    job.deckPlace run.files = job.deckPlace start := Job.deckPlace_of_here h.here_eq

theorem Faithful.of_sameAt (h : Faithful job start run)
    (hstep : ∀ first, Reaches job first run → Reaches job first next)
    (hsame : Files.SameAt (job.deckPlace run.files) run.files next.files)
    (hlast : next.last? = run.last?) : Faithful job start next := by
  have hsame' := hsame
  rw [h.deckPlace_eq] at hsame'
  refine ⟨hsame.1.trans h.here_eq, fun text htext => h.isDeck text (hlast ▸ htext), ?shows,
    ?untouched⟩
  case shows =>
    intro text htext
    rw [hlast] at htext
    rcases h.shows text htext with hshows | hspoiled
    · exact .inl (hshows.of_sameAt hsame)
    · exact .inr (hspoiled.of_sameAt hstep hsame' hlast)
  case untouched =>
    intro hnone
    rw [hlast] at hnone
    rcases h.untouched hnone with huntouched | hspoiled
    · exact .inl (hsame'.2.trans huntouched)
    · exact .inr (hspoiled.of_sameAt hstep hsame' hlast)

theorem shows_of_updated {files ready : Files} {last? : Option (List Char)}
    {text? : Except TickFault (List Char)} {tick : Tick} {text : List Char} {bytes : List UInt8}
    (hready : ready.here = files.here) (h : job.Updated ready last? text? tick text bytes) :
    tick.files.here = files.here ∧ job.Shows tick.files text := by
  have hhere : tick.files.here = ready.here := by
    rw [Files.write_eq_ok h.written]
    rfl
  refine ⟨hhere.trans hready, bytes, h.isDeck, ?_⟩
  unfold Job.deckPlace
  rw [hhere]
  exact Files.find?_target_of_write h.written

/-- After the next tick the deck is the page of the text that this tick reads, if the tick reports a
new deck; if it reports an unchanged text, the deck is that page or has been spoiled. -/
structure NextShows (job : Job) (start : Files) (run : Run) : Prop where
  updated : (job.tick run.files run.last?).outcome = .ok .updated →
    ∃ text, job.textRead run.files = .ok text ∧ job.Shows (run.tick job).files text
  unchanged : (job.tick run.files run.last?).outcome = .ok .unchanged →
    ∃ text, job.textRead run.files = .ok text ∧
      (job.Shows (run.tick job).files text ∨ IsSpoiled job start (run.tick job))

theorem Faithful.tick_of_kept (h : Faithful job start run) {ready : Files}
    (hsame : Files.SameAt (job.deckPlace run.files) run.files ready)
    (hkept : Job.Kept ready run.last? (job.textRead run.files) (job.tick run.files run.last?)) :
    Faithful job start (run.tick job) ∧ NextShows job start run := by
  have hfaithful : Faithful job start (run.tick job) := by
    refine h.of_sameAt (fun _ => Reaches.tick) ?_ hkept.last_eq
    show Files.SameAt _ _ (job.tick run.files run.last?).files
    rw [hkept.files_eq]
    exact hsame
  refine ⟨hfaithful, fun hupdated => absurd hupdated hkept.not_updated, ?_⟩
  intro hunchanged
  obtain ⟨text, htext, hlast⟩ := hkept.unchanged hunchanged
  exact ⟨text, htext, hfaithful.shows text (hkept.last_eq.trans hlast)⟩

theorem Faithful.tick_of_updated (h : Faithful job start run) {ready : Files} {text : List Char}
    {bytes : List UInt8} (hready : ready.here = run.files.here)
    (hupdated : job.Updated ready run.last? (job.textRead run.files)
      (job.tick run.files run.last?) text bytes) :
    Faithful job start (run.tick job) ∧ NextShows job start run := by
  obtain ⟨hhere, hshows⟩ := shows_of_updated hready hupdated
  have hlast : (run.tick job).last? = some text := hupdated.last_eq
  refine ⟨⟨hhere.trans h.here_eq, ?isDeck, ?shows, ?untouched⟩, ?updated, ?unchanged⟩
  case isDeck =>
    intro other hother
    rw [hlast] at hother
    rw [← Option.some.inj hother]
    exact ⟨bytes, hupdated.isDeck⟩
  case shows =>
    intro other hother
    rw [hlast] at hother
    rw [← Option.some.inj hother]
    exact .inl hshows
  case untouched =>
    intro hnone
    rw [hlast] at hnone
    cases hnone
  case updated => exact fun _ => ⟨text, hupdated.text_eq, hshows⟩
  case unchanged => exact fun _ => ⟨text, hupdated.text_eq, .inl hshows⟩

theorem Faithful.tick_of_emptied (h : Faithful job start run)
    (hreached : Reaches job (Run.start start none) run) {ready : Files} {text : List Char}
    {fault : Utf8.Unencodable} (hready : ready.here = run.files.here)
    (hemptied : job.Emptied ready run.last? (job.textRead run.files)
      (job.tick run.files run.last?) text fault) :
    Faithful job start (run.tick job) ∧ NextShows job start run := by
  have hhere : (run.tick job).files.here = start.here := by
    have hwritten : (job.tick run.files run.last?).files.here = ready.here := by
      rw [Files.write_eq_ok hemptied.written]
      rfl
    exact hwritten.trans (hready.trans h.here_eq)
  have hspoiled : IsSpoiled job start (run.tick job) := by
    refine ⟨run, fault, hreached, hemptied.outcome_eq, .refl, hemptied.last_eq, ?_⟩
    have hfound := Files.find?_target_of_write hemptied.written
    rwa [hready, h.here_eq] at hfound
  have hisDeck : ∀ other, (run.tick job).last? = some other → ∃ bytes, job.IsDeck other bytes :=
    fun other hother => h.isDeck other (hemptied.last_eq.symm.trans hother)
  refine ⟨⟨hhere, hisDeck, fun _ _ => .inr hspoiled, fun _ => .inr hspoiled⟩, ?updated,
    ?unchanged⟩
  case updated => exact fun houtcome => nomatch hemptied.outcome_eq.symm.trans houtcome
  case unchanged => exact fun houtcome => nomatch hemptied.outcome_eq.symm.trans houtcome

/-- One tick keeps the invariant. -/
theorem Faithful.tick (h : Faithful job start run)
    (hreached : Reaches job (Run.start start none) run)
    (hne : job.deckPlace start ≠ job.styleSheetPlace start) :
    Faithful job start (run.tick job) ∧ NextShows job start run := by
  have hne' : job.deckPlace run.files ≠ job.styleSheetPlace run.files := by
    unfold Job.deckPlace Job.styleSheetPlace at hne ⊢
    rw [h.here_eq]
    exact hne
  rcases Job.tick_cases job run.files run.last? with hkept | ⟨isNew, ready, hensure, hexit⟩
  · exact h.tick_of_kept (Files.SameAt.refl _ _) hkept
  · have hsame := Files.sameAt_ensureStyleSheet hne' hensure
    cases hexit with
    | kept hkept => exact h.tick_of_kept hsame hkept
    | updated hupdated => exact h.tick_of_updated hsame.1 hupdated
    | emptied hemptied => exact h.tick_of_emptied hreached hsame.1 hemptied

end Run

end LiveDeck
