import LiveDeck.CommandLine.Plan
import LiveDeck.Deck.Watch
import LiveDeck.Log.Loggers

/-! # Sessions

One run of the program from its command line to its exit code: what it prints, what it does to the
files, and how long it pauses.  Watching ends with an interruption in a pause, and that is a
success. -/

namespace LiveDeck.CommandLine

open Log (Record Loggers Stream)

/-- Something printed: text on one of the two streams, or a record of the log. -/
inductive Printed where
  | text (stream : Stream) (text : String)
  | record (record : Record)
  deriving DecidableEq, Repr

/-- The name of the logger of the watch loop. -/
def loggerName : String := "deck"

/-- What a printed thing adds to a stream. -/
def Printed.textOn (loggers : Loggers) (stamp : String) (stream : Stream) : Printed → String
  | .text other content => if other = stream then content else ""
  | .record entry =>
    Log.textOn stamp stream (loggers.write loggerName entry.severity.level entry.message)

/-- What printed things make of a stream. -/
def textOn (loggers : Loggers) (stamp : String) (stream : Stream) (printed : List Printed) :
    String :=
  String.join (printed.map (Printed.textOn loggers stamp stream))

/-- Why a run ends without an exit code. -/
inductive Escape where
  | noPlan (cause : NoPlan)
  | logLevel (fault : Log.LevelFault)
  deriving DecidableEq, Repr

namespace Escape

/-- The kind of an escape, by name. -/
def kind : Escape → String
  | .noPlan cause => cause.kind
  | .logLevel fault => fault.kind

/-- The text of an escape. -/
def message : Escape → String
  | .noPlan cause => cause.message
  | .logLevel fault => fault.message

end Escape

/-- A run of the program: how it ended, the loggers it used, what it printed, the files it left,
and the seconds of each pause. -/
structure Session where
  exit : Except Escape Nat
  loggers : Loggers
  printed : List Printed
  files : Files
  pauses : List Double
  deriving Repr

/-- What standard output or standard errors hold after a run. -/
def Session.textOn (session : Session) (stamp : String) (stream : Stream) : String :=
  CommandLine.textOn session.loggers stamp stream session.printed

/-- The exit code of a tick that stands alone, and the line that says how it went. -/
def verdict (job : Job) (tick : Tick) : Nat × String :=
  match tick.outcome with
  | .ok (.refused cause) => (1, s!"  ERROR: {cause.message}\n")
  | .ok _ => (0, s!"  Generated: {job.deck.text}\n")
  | .error fault => (1, s!"  ERROR: {fault.kind}: {fault.message}\n")

/-- The line that announces a watch. -/
def announcement (job : Job) (interval : Double) : String :=
  s!"  Watching {job.source.text} -> {job.deck.text} (every {interval.briefText}s, Ctrl-C to stop)\n"

/-- Does what a plan says.  A watch is interrupted in the pause of a given number. -/
def Plan.run (files : Files) (loggers : Loggers) (script : Script) (interruption : Nat) :
    Plan → Session
  | .explain => ⟨.ok 0, loggers, [.text .output helpText], files, []⟩
  | .reject misuse => ⟨.ok 2, loggers, [.text .errors misuse.report], files, []⟩
  | .once job =>
    let tick := job.tick files none
    let (code, line) := verdict job tick
    ⟨.ok code, loggers, tick.records.map .record ++ [.text .output line], tick.files, []⟩
  | .watch job interval =>
    let run := Run.untilInterrupted job script interruption (.start files none)
    ⟨.ok 0, loggers,
      .text .output (announcement job interval) :: run.records.map .record ++
        [.text .output "\n"],
      run.files, List.replicate run.pauses interval⟩

/-- The current directory as a path, if it is still there. -/
def herePath? (files : Files) : Option Path :=
  if files.find? files.here = some .directory then some ⟨.root, files.here⟩ else none

/-- Runs the program. -/
def run (env : Environment) (files : Files) (script : Script) (interruption : Nat)
    (words : List String) : Session :=
  let (logger, loggers) := (Loggers.ofSetting env.logSetting).obtain loggerName none
  match logger with
  | .error fault => ⟨.error (.logLevel fault), loggers, [], files, []⟩
  | .ok _ =>
    match plan env (herePath? files) words with
    | .error cause => ⟨.error (.noPlan cause), loggers, [], files, []⟩
    | .ok plan => plan.run files loggers script interruption

end LiveDeck.CommandLine
