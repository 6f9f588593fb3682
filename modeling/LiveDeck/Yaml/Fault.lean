import LiveDeck.Text.Quoted

/-! # What can be wrong with YAML

A text may not be well formed, or a value may be out of the range of its type. -/

namespace LiveDeck.Yaml

open Text (quoted)

/-- A length of time in seconds: whole days, and the seconds that remain. -/
def durationText (seconds : Int) : String :=
  let parts := [("days", seconds.fdiv 86400), ("seconds", seconds.fmod 86400)]
  let shown := (parts.filter fun (_, value) => value != 0).map fun (name, value) => s!"{name}={value}"
  let inner := if shown.isEmpty then "0" else ", ".intercalate shown
  s!"datetime.timedelta({inner})"

/-- Why a text has no value. -/
inductive Fault where
  | malformed
  | codePoint
  | longInteger (digits : Nat)
  | notInteger (base : Nat) (text : String)
  | notNumber (text : String)
  | emptyNumber
  | notBoolean (text : String)
  | notTimestamp
  | year (value : Nat)
  | month
  | day
  | hour
  | minute
  | second
  | offset (seconds : Int)
  deriving DecidableEq, Repr

namespace Fault

/-- The first part of a text, as long as a report shows it. -/
def shortened (text : String) : String := String.ofList (text.toList.take 200)

/-- The text of a fault.  What is wrong with a text that is not well formed is told by the text
itself (`FrontMatterError.noValue`). -/
def message : Fault → String
  | .malformed => "invalid front matter"
  | .codePoint => "chr() arg not in range(0x110000)"
  | .longInteger digits => "Exceeds the limit (4300 digits) for integer string conversion: " ++
      s!"value has {digits} digits; use sys.set_int_max_str_digits() to increase the limit"
  | .notInteger base text =>
    s!"invalid literal for int() with base {base}: {shortened (quoted text)}"
  | .notNumber text => s!"could not convert string to float: {quoted text}"
  | .emptyNumber => "string index out of range"
  | .notBoolean text => quoted text
  | .notTimestamp => "'NoneType' object has no attribute 'groupdict'"
  | .year value => s!"year {value} is out of range"
  | .month => "month must be in 1..12"
  | .day => "day is out of range for month"
  | .hour => "hour must be in 0..23"
  | .minute => "minute must be in 0..59"
  | .second => "second must be in 0..59"
  | .offset seconds => "offset must be a timedelta strictly between -timedelta(hours=24) and " ++
      s!"timedelta(hours=24), not {durationText seconds}."

end Fault

end LiveDeck.Yaml
