import LiveDeck.Code.StyleSheet
import LiveDeck.Files.Path
import LiveDeck.Log.Level
import LiveDeck.Number.Numeral

/-! # Settings

What the environment says: how often to look at the source, the style of highlighted code, the
level of the log, and where home directories are.  A pause that is not a positive number of
seconds counts as not given. -/

namespace LiveDeck

/-- The environment of a run; a variable that is not set is `none`. -/
structure Environment where
  interval? : Option String
  style? : Option String
  logLevel? : Option String
  homes : Path.Homes
  deriving DecidableEq, Repr

namespace Environment

/-- The pause in seconds where none is given. -/
def defaultInterval : Double := .ofNat 1

/-- The pause between two looks at the source, in seconds. -/
def interval (env : Environment) : Double :=
  match env.interval?.bind fun text => Numeral.readDouble? text.toList with
  | some seconds => if seconds.isPositive then seconds else defaultInterval
  | none => defaultInterval

/-- The name of the style of highlighted code. -/
def style (env : Environment) : String :=
  match env.style? with
  | some name => if name.isEmpty then Code.defaultStyle else name
  | none => Code.defaultStyle

/-- What gives loggers their level. -/
def logSetting (env : Environment) : Log.Setting := .named (env.logLevel?.getD "INFO")

end Environment

end LiveDeck
