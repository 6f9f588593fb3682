import LiveDeck.Text.Quoted

/-! # Levels

How much a message matters is a number; the usual ones have names.  A setting names the level
of the messages that are shown, without regard to case; a name that says nothing means `info`,
and two names stand for something that is no level. -/

namespace LiveDeck.Log

/-- How much a message matters. -/
abbrev Level := Int

namespace Level

/-- The level of a logger that has none of its own. -/
def unset : Level := 0

def debug : Level := 10

def info : Level := 20

def warning : Level := 30

def error : Level := 40

def critical : Level := 50

end Level

/-! ### Records -/

/-- How much a message of the watch loop matters. -/
inductive Severity where
  | info
  | error
  deriving DecidableEq, Repr

/-- The level of a severity. -/
def Severity.level : Severity → Level
  | .info => Level.info
  | .error => Level.error

/-- A message and how much it matters. -/
structure Record where
  severity : Severity
  message : String
  deriving DecidableEq, Repr

/-! ### Settings -/

/-- What the name of a level stands for: a level, a text, or something else that is shown as a
text. -/
inductive Setting where
  | level (value : Level)
  | text (value : String)
  | other (shown : String)
  deriving DecidableEq, Repr

/-- Why a setting gives no level. -/
inductive LevelFault where
  | unknown (name : String)
  | noLevel (shown : String)
  deriving DecidableEq, Repr

/-- The kind of a fault, by name. -/
def LevelFault.kind : LevelFault → String
  | .unknown _ => "ValueError"
  | .noLevel _ => "TypeError"

/-- The text of a fault. -/
def LevelFault.message : LevelFault → String
  | .unknown name => s!"Unknown level: {Text.quoted name}"
  | .noLevel shown => s!"Level not an integer or a valid string: {shown}"

/-- How a message is laid out unless a logger says otherwise. -/
def basicFormat : String := "%(levelname)s:%(name)s:%(message)s"

/-- The layouts that can be written in each of three ways, as a text. -/
def layouts : String :=
  "\x7b'%': (<class 'logging.PercentStyle'>, '%(levelname)s:%(name)s:%(message)s'), " ++
  "'\x7b': (<class 'logging.StrFormatStyle'>, '\x7blevelname\x7d:\x7bname\x7d:\x7bmessage\x7d'), " ++
  "'$': (<class 'logging.StringTemplateStyle'>, '$\x7blevelname\x7d:$\x7bname\x7d:$\x7bmessage\x7d')\x7d"

/-- What has a name. -/
def settings : List (String × Setting) :=
  [("NOTSET", .level Level.unset), ("DEBUG", .level Level.debug), ("INFO", .level Level.info),
    ("WARN", .level Level.warning), ("WARNING", .level Level.warning),
    ("ERROR", .level Level.error), ("CRITICAL", .level Level.critical),
    ("FATAL", .level Level.critical), ("BASIC_FORMAT", .text basicFormat),
    ("_STYLES", .other layouts)]

/-- A character as capitals, as far as it can occur in a name of `settings`: a dotless i, a long
s and the ligatures of s and t count as the letters they stand for. -/
def capitals (c : Char) : List Char :=
  match c with
  | 'ı' => ['I']
  | 'ſ' => ['S']
  | 'ﬅ' => ['S', 'T']
  | 'ﬆ' => ['S', 'T']
  | c => [c.toUpper]

/-- What a name stands for. -/
def Setting.named (name : String) : Setting :=
  (settings.lookup (String.ofList (name.toList.flatMap capitals))).getD (.level Level.info)

/-- The level of a setting. -/
def Setting.level? : Setting → Except LevelFault Level
  | .level value => .ok value
  | .text value => .error (.unknown value)
  | .other shown => .error (.noLevel shown)

end LiveDeck.Log
