import LiveDeck.Log.Level

/-! # Loggers

Loggers have dotted names: `a.b` stands below `a`, and all stand below the root.  A message is
measured against the first level that is set on the way up, and is written by the handlers of every
logger on that way, up to the first that keeps its messages to itself.  Each logger that has been
obtained has two handlers: one writes what is less than a warning to the standard output, the other
writes warnings and worse to the standard errors. -/

namespace LiveDeck.Log

/-- Where a line goes. -/
inductive Stream where
  | output
  | errors
  deriving DecidableEq, Repr

/-- Whether the handler of a stream writes messages of a level. -/
def Stream.takes (stream : Stream) (level : Level) : Bool :=
  match stream with
  | .output => level < Level.warning
  | .errors => Level.warning ≤ level

/-- A logger: its own level, its handlers by the stream they write to, and whether it hands its
messages on to the logger above. -/
structure Logger where
  level : Level
  handlers : List Stream
  propagates : Bool
  deriving DecidableEq, Repr

/-- A logger nobody has asked for. -/
def Logger.fresh : Logger := ⟨Level.unset, [], true⟩

/-- The loggers by name, and what gives a level to those that have none. -/
structure Loggers where
  standard : Setting
  loggers : List (String × Logger)
  deriving DecidableEq, Repr

/-- A line of a log; a line without a handler of its own is written without a stamp. -/
structure Line where
  stream : Stream
  stamped : Bool
  message : String
  deriving DecidableEq, Repr

/-- A line as it is written. -/
def Line.text (stamp : String) (line : Line) : String :=
  if line.stamped then s!"[{stamp}]: {line.message}\n" else line.message ++ "\n"

/-- What lines write to a stream. -/
def textOn (stamp : String) (stream : Stream) (lines : List Line) : String :=
  String.join ((lines.filter fun line => line.stream == stream).map (Line.text stamp))

/-- A name and the names it stands below, the nearest first. -/
def namesUp (name : String) : List String :=
  let parts := name.toList.splitOn '.'
  ((List.range parts.length).map fun depth =>
    String.ofList (['.'].intercalate (parts.take (depth + 1)))).reverse

/-- The name of the root. -/
def rootName : String := "root"

/-- The name under which a logger is kept: the root has two. -/
def key (name : String) : String := if name = "" then rootName else name

/-- The names that looking up finds among those in a list, the nearest first.  Looking up from a
name that ends in a point and is not found misses the next name. -/
def namesFrom (isFound : String → Bool) : Bool → List String → List String
  | _, [] => []
  | true, _ :: rest => namesFrom isFound false rest
  | false, name :: rest =>
    if isFound name then name :: namesFrom isFound false rest
    else namesFrom isFound (name.toList.getLast? == some '.') rest

namespace Loggers

/-- The loggers of a setting before any is asked for: the root, which shows warnings. -/
def ofSetting (standard : Setting) : Loggers := ⟨standard, [(rootName, ⟨Level.warning, [], true⟩)]⟩

/-- The logger of a name. -/
def find (loggers : Loggers) (name : String) : Logger :=
  (loggers.loggers.lookup (key name)).getD Logger.fresh

/-- Gives a name its logger, in place of the one it had. -/
def set (loggers : Loggers) (name : String) (logger : Logger) : Loggers :=
  { loggers with loggers := (key name, logger) :: loggers.loggers }

theorem find_set (loggers : Loggers) (name other : String) (logger : Logger) :
    (loggers.set name logger).find other =
      if key other = key name then logger else loggers.find other := by
  unfold set find
  rw [List.lookup_cons]
  by_cases h : key other = key name
  · simp only [h, beq_self_eq_true, if_true, Option.getD_some]
  · simp only [beq_eq_false_iff_ne.mpr h, if_neg h]

/-- Whether a name is that of a logger below the root. -/
def isBelowRoot (loggers : Loggers) (name : String) : Bool :=
  name != rootName && (loggers.loggers.lookup name).isSome

/-- Asks for the logger of a name.  It gets its handlers the first time; its level becomes the
one asked for or, if none is asked for and it has none, the standard one. -/
def obtain (loggers : Loggers) (name : String) (level? : Option Level) :
    Except LevelFault Logger × Loggers :=
  let found := loggers.find name
  let logger :=
    if found.handlers.isEmpty then { found with handlers := [.output, .errors] } else found
  match level? with
  | some level =>
    let logger := { logger with level }
    (.ok logger, loggers.set name logger)
  | none =>
    if logger.level = Level.unset then
      match loggers.standard.level? with
      | .ok level =>
        let logger := { logger with level }
        (.ok logger, loggers.set name logger)
      | .error fault => (.error fault, loggers.set name logger)
    else (.ok logger, loggers.set name logger)

/-- Makes the logger of a name keep its messages to itself. -/
def isolate (loggers : Loggers) (name : String) : Loggers :=
  loggers.set name { loggers.find name with propagates := false }

/-- The names of the loggers above one, the nearest first. -/
def namesAbove (loggers : Loggers) (name : String) : List String :=
  if key name = rootName then []
  else namesFrom loggers.isBelowRoot false (namesUp name).tail ++ [rootName]

/-- The level that messages of a name are measured against: the first that is set on the way
up. -/
def threshold (loggers : Loggers) (name : String) : Level :=
  let levels := (name :: loggers.namesAbove name).map fun other => (loggers.find other).level
  (levels.find? (· != Level.unset)).getD Level.unset

/-- The names that messages are handed on to, out of those above. -/
def handedOn (loggers : Loggers) (name : String) : List String → List String
  | [] => []
  | above :: others =>
    if (loggers.find name).propagates then above :: handedOn loggers above others else []

/-- The names of the loggers that handle the messages of one, its own first. -/
def namesHandling (loggers : Loggers) (name : String) : List String :=
  name :: loggers.handedOn name (loggers.namesAbove name)

/-- Whether a message passes: it does not if its level is not positive. -/
def passes (loggers : Loggers) (name : String) (level : Level) : Bool :=
  0 < level && loggers.threshold name ≤ level

/-- The lines that a message makes.  Where there is no handler at all, warnings and worse go to
the standard errors. -/
def write (loggers : Loggers) (name : String) (level : Level) (message : String) : List Line :=
  if loggers.passes name level then
    let handlers := (loggers.namesHandling name).flatMap fun other => (loggers.find other).handlers
    if handlers.isEmpty then
      if Level.warning ≤ level then [⟨.errors, false, message⟩] else []
    else
      (handlers.filter fun stream => stream.takes level).map fun stream => ⟨stream, true, message⟩
  else []

end Loggers

end LiveDeck.Log
