import LiveDeck.Deck.Tick

/-! # Watching a source

A loop is ticks with pauses between them.  It goes on whatever a tick does; what goes wrong is
logged.  Others may change the files during a pause, which a script of edits stands for: the
`n`-th edit happens in the `n`-th pause, counted from zero. -/

namespace LiveDeck

/-- What others do to the files in each pause. -/
abbrev Script := Nat → Files → Files

/-- A loop on its way: the files, the text of the last deck, the log so far, and how many pauses
there have been. -/
structure Run where
  files : Files
  last? : Option (List Char)
  records : List Log.Record
  pauses : Nat
  deriving Repr

namespace Run

/-- A loop at its start. -/
def start (files : Files) (last? : Option (List Char)) : Run := ⟨files, last?, [], 0⟩

/-- A loop after one more tick. -/
def tick (run : Run) (job : Job) : Run :=
  let tick := job.tick run.files run.last?
  { run with
    files := tick.files
    last? := tick.last?
    records := run.records ++ tick.records ++ tick.complaint }

/-- A loop after one more pause. -/
def pause (run : Run) (script : Script) : Run :=
  { run with files := script run.pauses run.files, pauses := run.pauses + 1 }

/-- A number of ticks, with a pause after each but the last. -/
def ticks (job : Job) (script : Script) : Nat → Run → Run
  | 0, run => run
  | 1, run => run.tick job
  | count + 2, run => ticks job script (count + 1) ((run.tick job).pause script)

/-- At most a number of ticks; a number below zero allows none. -/
def watch (job : Job) (script : Script) (limit : Int) (run : Run) : Run :=
  run.ticks job script limit.toNat

/-- Ticks without end, interrupted after a number of pauses. -/
def untilInterrupted (job : Job) (script : Script) : Nat → Run → Run
  | 0, run => run
  | pauses + 1, run => untilInterrupted job script pauses ((run.tick job).pause script)

end Run

end LiveDeck
