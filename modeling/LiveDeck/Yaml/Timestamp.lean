import LiveDeck.Yaml.Fault

/-! # Dates and times

A date, or a date with a time of day and possibly an offset from universal time.
`Timestamp.read` reads the notation of YAML and checks every part. -/

namespace LiveDeck.Yaml

/-- A day of the calendar. -/
structure Date where
  year : Nat
  month : Nat
  day : Nat
  deriving DecidableEq, Repr, Inhabited

/-- A time of day; the offset is in seconds. -/
structure Time where
  hour : Nat
  minute : Nat
  second : Nat
  micros : Nat
  offset : Option Int
  deriving DecidableEq, Repr, Inhabited

/-- A date, with or without a time. -/
structure Timestamp where
  date : Date
  time : Option Time
  deriving DecidableEq, Repr, Inhabited

/-- The type of a date with or without a time, by name. -/
def Timestamp.typeName (stamp : Timestamp) : String :=
  if stamp.time.isSome then "datetime.datetime" else "datetime.date"

/-- A number with at least `width` digits. -/
def padded (width n : Nat) : String :=
  let digits := Nat.toDigits 10 n
  String.ofList (List.replicate (width - digits.length) '0' ++ digits)

namespace Date

/-- Whether February has 29 days. -/
def isLeapYear (year : Nat) : Bool := year % 4 = 0 && (year % 100 ≠ 0 || year % 400 = 0)

/-- How many days a month has. -/
def daysIn (year month : Nat) : Nat :=
  if month = 2 then if isLeapYear year then 29 else 28
  else if month = 4 || month = 6 || month = 9 || month = 11 then 30
  else 31

/-- Checks the parts of a date. -/
def check (date : Date) : Except Fault Unit :=
  if date.year = 0 then .error (.year date.year)
  else if date.month = 0 || 12 < date.month then .error .month
  else if date.day = 0 || daysIn date.year date.month < date.day then .error .day
  else .ok ()

/-- The number of days from the start of the calendar. -/
def dayNumber (date : Date) : Nat :=
  let before := date.year - 1
  let months := (List.range' 1 (date.month - 1)).map fun month => daysIn date.year month
  before * 365 + before / 4 - before / 100 + before / 400 + months.foldl (· + ·) 0 + date.day

/-- A date as text. -/
def text (date : Date) : String :=
  s!"{padded 4 date.year}-{padded 2 date.month}-{padded 2 date.day}"

end Date

namespace Time

/-- Checks the parts of a time. -/
def check (time : Time) : Except Fault Unit :=
  if 23 < time.hour then .error .hour
  else if 59 < time.minute then .error .minute
  else if 59 < time.second then .error .second
  else .ok ()

/-- An offset as text. -/
def offsetText (offset : Int) : String :=
  let minutes := offset.natAbs / 60
  let sign := if offset < 0 then "-" else "+"
  s!"{sign}{padded 2 (minutes / 60)}:{padded 2 (minutes % 60)}"

/-- A time as text; a fraction is written only if it is not zero. -/
def text (time : Time) : String :=
  let fraction := if time.micros = 0 then "" else s!".{padded 6 time.micros}"
  let offset := match time.offset with
    | some offset => offsetText offset
    | none => ""
  s!"{padded 2 time.hour}:{padded 2 time.minute}:{padded 2 time.second}{fraction}{offset}"

/-- An offset as an expression. -/
def offsetExpression (offset : Int) : String :=
  if offset = 0 then "datetime.timezone.utc" else s!"datetime.timezone({durationText offset})"

end Time

namespace Timestamp

/-- A timestamp as text. -/
def text (stamp : Timestamp) : String :=
  match stamp.time with
  | none => stamp.date.text
  | some time => s!"{stamp.date.text} {time.text}"

/-- A name with arguments. -/
def call (name : String) (arguments : List String) : String :=
  name ++ "(" ++ ", ".intercalate arguments ++ ")"

/-- A timestamp as an expression; seconds and fraction are left out where they are zero. -/
def expression (stamp : Timestamp) : String :=
  let date := stamp.date
  let days := [date.year, date.month, date.day]
  match stamp.time with
  | none => call "datetime.date" (days.map toString)
  | some time =>
    let seconds := if time.micros ≠ 0 then [time.second, time.micros]
      else if time.second ≠ 0 then [time.second] else []
    let zone := match time.offset with
      | some offset => [s!"tzinfo={Time.offsetExpression offset}"]
      | none => []
    let parts := (days ++ [time.hour, time.minute] ++ seconds).map toString ++ zone
    call "datetime.datetime" parts

/-- Seconds and millionths from the start of the calendar. -/
def instant (date : Date) (time : Time) : Int × Nat :=
  ((date.dayNumber * 86400 + time.hour * 3600 + time.minute * 60 + time.second : Nat) -
    time.offset.getD 0, time.micros)

/-- Whether two timestamps are the same day, or the same moment. -/
def isSame (a b : Timestamp) : Bool :=
  match a.time, b.time with
  | none, none => a.date == b.date
  | some s, some t =>
    s.offset.isSome == t.offset.isSome && instant a.date s == instant b.date t
  | _, _ => false

/-! ### Reading -/

/-- Between one and `most` digits, or exactly `most` of them, and what follows. -/
def number? (isExact : Bool) (most : Nat) (text : List Char) : Option (Nat × List Char) :=
  let digits := (text.take most).takeWhile Char.isDigit
  if digits.isEmpty || (isExact && digits.length ≠ most) then none
  else (String.ofList digits).toNat?.map fun value => (value, text.drop digits.length)

/-- What follows a character. -/
def after? (c : Char) : List Char → Option (List Char)
  | d :: rest => if c = d then some rest else none
  | [] => none

/-- Millionths from the digits of a fraction. -/
def micros (digits : List Char) : Nat :=
  ((String.ofList ((digits ++ List.replicate 6 '0').take 6)).toNat?).getD 0

/-- A space or a tab. -/
def isGap (c : Char) : Bool := c == ' ' || c == '\t'

/-- The offset in seconds at the end of a timestamp, if there is one. -/
def offset? (text : List Char) : Option (Option Int) :=
  if text.isEmpty then some none
  else
    match text.dropWhile isGap with
    | ['Z'] => some (some 0)
    | sign :: rest =>
      if sign = '+' || sign = '-' then do
        let (hours, more) ← number? false 2 rest
        let minutes ← match more with
          | [] => some 0
          | ':' :: digits =>
            match number? true 2 digits with
            | some (minutes, []) => some minutes
            | _ => none
          | _ => none
        let seconds : Int := hours * 3600 + minutes * 60
        some (some (if sign = '-' then -seconds else seconds))
      else none
    | [] => none

/-- The time of day after the date of a timestamp. -/
def time? (text : List Char) : Option Time := do
  let start ← match text with
    | 'T' :: rest => some rest
    | 't' :: rest => some rest
    | c :: rest => if isGap c then some (rest.dropWhile isGap) else none
    | [] => none
  let (hour, afterHour) ← number? false 2 start
  let (minute, afterMinute) ← number? true 2 (← after? ':' afterHour)
  let (second, rest) ← number? true 2 (← after? ':' afterMinute)
  let (fraction, zone) := match rest with
    | '.' :: more => (more.takeWhile Char.isDigit, more.dropWhile Char.isDigit)
    | _ => ([], rest)
  let offset ← offset? zone
  some { hour, minute, second, micros := micros fraction, offset }

/-- The parts of a timestamp. -/
def parse? (text : List Char) : Option Timestamp := do
  let (year, afterYear) ← number? true 4 text
  let (month, afterMonth) ← number? false 2 (← after? '-' afterYear)
  let (day, rest) ← number? false 2 (← after? '-' afterMonth)
  let date : Date := { year, month, day }
  if rest.isEmpty then some { date, time := none }
  else (time? rest).map fun time => { date, time := some time }

/-- Checks an offset: it is less than a day. -/
def checkOffset (offset : Option Int) : Except Fault Unit :=
  match offset with
  | some seconds => if 86400 ≤ seconds.natAbs then .error (.offset seconds) else .ok ()
  | none => .ok ()

/-- The timestamp that a text writes. -/
def read (text : List Char) : Except Fault Timestamp := do
  match parse? text with
  | none => .error .notTimestamp
  | some stamp =>
    match stamp.time with
    | none => stamp.date.check
    | some time => do
      checkOffset time.offset
      stamp.date.check
      time.check
    .ok stamp

end Timestamp

end LiveDeck.Yaml
