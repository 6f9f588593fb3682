import Mathlib
import LiveDeck.CommandLine.Session

/-! # Loops and their ticks

`Account.loop` is the loop as it goes along: it looks at its bound before every tick and once more
before the pause after it, and it keeps account of how its ticks ended and how long it paused.  From
its start it comes to what `Run.watch` says, after as many ticks as the bound allows, however they
end, and one pause less (`Account.loop_start`).

A loop goes on from where it is as a loop that is started there (`Run.ticks_eq_after`): `Run.after`
puts the log and the pauses of an earlier loop before those of a later one.  So a bound can be
divided at any tick (`Run.ticks_add`), and a loop without end is one with a bound until it is
interrupted (`Run.untilInterrupted_eq`).  Main statement (`watch_iterates`): all of this for loops
from their start. -/

namespace LiveDeck

/-! ### Loops with an account -/

/-- A loop, how each of its ticks ended, and the seconds of each of its pauses. -/
structure Account where
  run : Run
  outcomes : List (Except TickFault Outcome)
  slept : List Double

namespace Account

/-- A loop at its start. -/
def start (files : Files) (last? : Option (List Char)) : Account := ⟨.start files last?, [], []⟩

/-- After one more tick, however it ended. -/
def tick (account : Account) (job : Job) : Account :=
  { account with
    run := account.run.tick job
    outcomes := account.outcomes ++ [(job.tick account.run.files account.run.last?).outcome] }

/-- After one more pause. -/
def pause (account : Account) (script : Script) (interval : Double) : Account :=
  { account with
    run := account.run.pause script
    slept := account.slept ++ [interval] }

/-- Ticks as long as there have been less than the limit, with a pause after each tick that leaves
less than the limit. -/
def loop (job : Job) (script : Script) (interval : Double) (limit : Int) (done : Nat)
    (account : Account) : Account :=
  if (done : Int) < limit then
    let ticked := account.tick job
    if (done : Int) + 1 < limit then
      loop job script interval limit (done + 1) (ticked.pause script interval)
    else
      loop job script interval limit (done + 1) ticked
  else account
termination_by (limit - done).toNat

variable (job : Job) (script : Script) (interval : Double)

theorem loop_of_le {limit : Int} {done : Nat} (h : limit ≤ done) (account : Account) :
    loop job script interval limit done account = account := by
  rw [loop, if_neg (Int.not_lt.mpr h)]

theorem loop_last {limit : Int} {done : Nat} (h : limit = done + 1) (account : Account) :
    loop job script interval limit done account = account.tick job := by
  rw [loop, if_pos (by omega), if_neg (by omega)]
  exact loop_of_le job script interval (by omega) _

theorem loop_more {limit : Int} {done : Nat} (h : done + 1 < limit) (account : Account) :
    loop job script interval limit done account =
      loop job script interval limit (done + 1) ((account.tick job).pause script interval) := by
  rw [loop, if_pos (by omega), if_pos h]

/-- With some ticks left, a loop makes them and pauses between them. -/
theorem loop_spec {limit : Int} : ∀ (remaining : Nat) {done : Nat} (account : Account),
    limit = done + remaining →
      let final := loop job script interval limit done account
      final.run = account.run.ticks job script remaining ∧
        final.outcomes.length = account.outcomes.length + remaining ∧
        final.slept = account.slept ++ List.replicate (remaining - 1) interval
  | 0, done, account, h => by
      intro final
      have hfinal : final = account := loop_of_le job script interval (by omega) account
      rw [hfinal]
      exact ⟨rfl, rfl, (List.append_nil _).symm⟩
  | 1, done, account, h => by
      intro final
      have hfinal : final = account.tick job := loop_last job script interval h account
      rw [hfinal]
      exact ⟨rfl, List.length_append, (List.append_nil _).symm⟩
  | remaining + 2, done, account, h => by
      intro final
      have hfinal : final =
          loop job script interval limit (done + 1) ((account.tick job).pause script interval) :=
        loop_more job script interval (by omega) account
      have hleft : limit = (done + 1 : Nat) + (remaining + 1 : Nat) := by omega
      obtain ⟨hrun, houtcomes, hslept⟩ :=
        loop_spec (remaining + 1) ((account.tick job).pause script interval) hleft
      rw [hfinal]
      refine ⟨hrun, ?_, ?_⟩
      · rw [houtcomes]
        show (account.outcomes ++ [_]).length + (remaining + 1) = _
        rw [List.length_append, List.length_singleton]
        omega
      · rw [hslept]
        show account.slept ++ [interval] ++ List.replicate remaining interval = _
        rw [List.append_assoc]
        rfl

theorem loop_start (files : Files) (last? : Option (List Char)) (limit : Int) :
    let final := loop job script interval limit 0 (start files last?)
    final.run = Run.watch job script limit (.start files last?) ∧
      final.outcomes.length = limit.toNat ∧
      final.slept = List.replicate (limit.toNat - 1) interval := by
  intro final
  by_cases h : limit ≤ 0
  · have hfinal : final = start files last? := loop_of_le job script interval h _
    have hzero : limit.toNat = 0 := Int.toNat_eq_zero.mpr h
    rw [hfinal, Run.watch, hzero]
    exact ⟨rfl, rfl, rfl⟩
  · obtain ⟨hrun, houtcomes, hslept⟩ :=
      loop_spec job script interval limit.toNat (start files last?)
        (show limit = (0 : Nat) + limit.toNat by omega)
    refine ⟨hrun, ?_, hslept⟩
    rw [houtcomes]
    exact Nat.zero_add _

end Account

namespace Run

variable {job : Job} {script : Script}

/-! ### Loops one after another -/

theorem ticks_succ {count : Nat} (h : 0 < count) (run : Run) :
    run.ticks job script (count + 1) = ((run.tick job).pause script).ticks job script count := by
  cases count with
  | zero => exact absurd h (Nat.lt_irrefl 0)
  | succ count => rw [ticks]

/-- A bound can be divided at any tick: the pause after it comes between the two parts. -/
theorem ticks_add {first second : Nat} (hfirst : 0 < first) (hsecond : 0 < second) (run : Run) :
    run.ticks job script (first + second) =
      ((run.ticks job script first).pause script).ticks job script second := by
  induction first generalizing run with
  | zero => exact absurd hfirst (Nat.lt_irrefl 0)
  | succ first ih =>
      rw [Nat.add_right_comm, ticks_succ (Nat.add_pos_right first hsecond)]
      cases first with
      | zero => rw [Nat.zero_add, Nat.zero_add, ticks]
      | succ first =>
          rw [ih (Nat.succ_pos first), ticks_succ (Nat.succ_pos first)]

theorem pauses_ticks (count : Nat) (run : Run) :
    (run.ticks job script count).pauses = run.pauses + (count - 1) := by
  fun_induction ticks job script count run with
  | case1 run => rfl
  | case2 run => rfl
  | case3 count run ih =>
      rw [ih]
      show run.pauses + 1 + count = _
      omega

/-- A later loop with the log and the pauses of an earlier one before its own. -/
def after (earlier later : Run) : Run :=
  { later with
    records := earlier.records ++ later.records
    pauses := earlier.pauses + later.pauses }

theorem tick_after (earlier later : Run) :
    (earlier.after later).tick job = earlier.after (later.tick job) := by
  simp [after, tick]

theorem pause_after (earlier later : Run) :
    (earlier.after later).pause script =
      earlier.after (later.pause fun pause => script (earlier.pauses + pause)) := by
  simp [after, pause, Nat.add_assoc]

theorem ticks_after (earlier : Run) (count : Nat) (later : Run) :
    (earlier.after later).ticks job script count =
      earlier.after (later.ticks job (fun pause => script (earlier.pauses + pause)) count) := by
  fun_induction ticks job (fun pause => script (earlier.pauses + pause)) count later with
  | case1 later => rfl
  | case2 later => rw [ticks, tick_after]
  | case3 count later ih => rw [ticks, tick_after, pause_after, ih]

/-- A loop goes on like one that is started with its files and its remembered text. -/
theorem ticks_eq_after (count : Nat) (run : Run) :
    run.ticks job script count =
      run.after ((start run.files run.last?).ticks job (fun pause => script (run.pauses + pause))
        count) := by
  have hrun : run = run.after (start run.files run.last?) := by simp [after, start]
  rw [← ticks_after, ← hrun]

/-- A loop without end has made as many ticks as pauses when it is interrupted. -/
theorem untilInterrupted_eq (job : Job) (script : Script) : ∀ (pauses : Nat) (run : Run),
    run.untilInterrupted job script (pauses + 1) =
      (run.ticks job script (pauses + 1)).pause script
  | 0, _ => rfl
  | pauses + 1, run => by
      rw [untilInterrupted, untilInterrupted_eq job script pauses, ← ticks_succ (Nat.succ_pos pauses)]

end Run

/-- A loop makes as many ticks as its bound allows, however they end, and pauses one time less, each
time for the interval.  A loop with a bound of two parts does what a loop with the first part does,
a pause, and what a loop does that is started with the second part and the remembered text: the
files and the remembered text are the same, and so are the log and the pauses of both together.  A
watch that is interrupted in a pause ends with code 0, with the files and the log of a loop with as
many ticks, and with the changes that others made in this pause. -/
theorem watch_iterates (job : Job) (script : Script) (interval : Double) (files : Files)
    (last? : Option (List Char)) :
    (∀ limit : Int,
      let account := Account.loop job script interval limit 0 (.start files last?)
      account.run = Run.watch job script limit (.start files last?) ∧
        account.outcomes.length = max limit 0 ∧
        account.slept = List.replicate (max (limit - 1) 0).toNat interval ∧
        account.run.pauses = account.slept.length) ∧
    (∀ first second : Nat, 0 < first → 0 < second →
      let whole := Run.watch job script (first + second : Nat) (.start files last?)
      let earlier := Run.watch job script first (.start files last?)
      let later := Run.watch job (fun pause => script (first + pause)) second
        (.start (script (first - 1) earlier.files) earlier.last?)
      whole.files = later.files ∧ whole.last? = later.last? ∧
        whole.records = earlier.records ++ later.records ∧
        whole.pauses = earlier.pauses + 1 + later.pauses) ∧
    ∀ (interruption : Nat) (loggers : Log.Loggers), 0 < interruption →
      let session := CommandLine.Plan.run files loggers script interruption (.watch job interval)
      let run := Run.watch job script interruption (.start files none)
      session.exit = .ok 0 ∧ session.files = script (interruption - 1) run.files ∧
        session.printed = .text .output (CommandLine.announcement job interval) ::
          run.records.map .record ++ [.text .output "\n"] ∧
        session.pauses = List.replicate interruption interval := by
  refine ⟨?limits, ?parts, ?interruptions⟩
  case limits =>
    intro limit account
    obtain ⟨hrun, houtcomes, hslept⟩ := Account.loop_start job script interval files last? limit
    have hpauses : account.run.pauses = limit.toNat - 1 := by
      rw [hrun, Run.watch, Run.pauses_ticks]
      exact Nat.zero_add _
    have hcount : (max (limit - 1) 0).toNat = limit.toNat - 1 := by omega
    refine ⟨hrun, ?_, ?_, ?_⟩
    · rw [houtcomes]
      omega
    · rw [hcount]
      exact hslept
    · rw [hslept, List.length_replicate, hpauses]
  case parts =>
    intro first second hfirst hsecond whole earlier later
    have hpauses : earlier.pauses = first - 1 := by
      show (Run.ticks job script first _).pauses = _
      rw [Run.pauses_ticks]
      exact Nat.zero_add _
    have hpaused : (earlier.pause script).pauses = first := by
      show earlier.pauses + 1 = first
      omega
    have hfiles : (earlier.pause script).files = script (first - 1) earlier.files := by
      rw [← hpauses]
      rfl
    have hwhole : whole = (earlier.pause script).after later := by
      show Run.ticks job script (first + second) (.start files last?) = _
      rw [Run.ticks_add hfirst hsecond, Run.ticks_eq_after]
      show (earlier.pause script).after (Run.ticks job
        (fun pause => script ((earlier.pause script).pauses + pause)) second
          (.start (earlier.pause script).files (earlier.pause script).last?)) = _
      rw [hpaused, hfiles]
      rfl
    rw [hwhole]
    exact ⟨rfl, rfl, rfl, rfl⟩
  case interruptions =>
    intro interruption loggers hpos session run
    obtain ⟨pauses, rfl⟩ : ∃ pauses, interruption = pauses + 1 := ⟨interruption - 1, by omega⟩
    have hrun : Run.untilInterrupted job script (pauses + 1) (.start files none) =
        run.pause script := Run.untilInterrupted_eq job script pauses _
    have hpauses : run.pauses = pauses := by
      show (Run.ticks job script (pauses + 1) _).pauses = _
      rw [Run.pauses_ticks]
      exact Nat.zero_add _
    have hsession : session = ⟨.ok 0, loggers, .text .output (CommandLine.announcement job interval) ::
        run.records.map .record ++ [.text .output "\n"], script run.pauses run.files,
        List.replicate (run.pauses + 1) interval⟩ := by
      show CommandLine.Plan.run files loggers script (pauses + 1) (.watch job interval) = _
      rw [CommandLine.Plan.run, hrun]
      rfl
    rw [hsession, hpauses]
    exact ⟨rfl, rfl, rfl, rfl⟩

/-- A source that somebody writes in the first pause: of two ticks the first one fails, and the second
one does what it does in a loop of its own. -/
theorem watch_iterates_of_late_source :
    let job : Job := ⟨⟨.here, ["a.md"]⟩, ⟨.here, ["a.html"]⟩, "bw", ⟨.here, ["syntax.css"]⟩⟩
    let files : Files :=
      ⟨["d"], [([], .directory), (["d"], .directory), (["d", "syntax.css"], .file [])]⟩
    let script : Script := fun _ files =>
      files.put ["d", "a.md"] (.file (Utf8.encode "***".toList))
    let whole := Run.watch job script 2 (.start files none)
    let earlier := Run.watch job script 1 (.start files none)
    let later := Run.watch job (fun pause => script (1 + pause)) 1
      (.start (script 0 earlier.files) earlier.last?)
    let session := CommandLine.Plan.run files (.ofSetting (.named "INFO")) script 1
      (.watch job (.ofNat 1))
    (job.tick files none).outcome = .error (.file ⟨.missing, "a.md"⟩) ∧
      whole.files = later.files ∧ whole.last? = later.last? ∧
      whole.records = earlier.records ++ later.records ∧
      whole.pauses = earlier.pauses + 1 + later.pauses ∧
      session.exit = .ok 0 ∧ session.files = script 0 earlier.files := by
  intro job files script whole earlier later session
  have houtcome : (job.tick files none).outcome = .error (.file ⟨.missing, "a.md"⟩) := by
    cbv
  obtain ⟨-, hparts, hinterrupted⟩ := watch_iterates job script (.ofNat 1) files none
  obtain ⟨hfiles, hlast, hrecords, hpauses⟩ := hparts 1 1 Nat.one_pos Nat.one_pos
  obtain ⟨hexit, hleft, -⟩ := hinterrupted 1 (.ofSetting (.named "INFO")) Nat.one_pos
  exact ⟨houtcome, hfiles, hlast, hrecords, hpauses, hexit, hleft⟩

end LiveDeck
