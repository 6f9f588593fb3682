import LiveDeck.CommandLine.Word
import LiveDeck.Deck.Settings

/-! # Arguments

What a command line asks for: help, or one source with its options.  Words are read from left to
right, and the first that is wrong decides; only then do missing and superfluous words count, and
last of all the values of the options. -/

namespace LiveDeck.CommandLine

/-- What is asked for about one source. -/
structure Arguments where
  source : String
  output? : Option String
  interval : Double
  style : String
  once : Bool
  deriving DecidableEq, Repr

/-- What has been read so far; superfluous words come last first. -/
structure Draft where
  source? : Option String := none
  output? : Option String := none
  interval : Double
  style : String
  once : Bool := false
  extras : List String := []
  deriving DecidableEq, Repr

namespace Draft

/-- A draft with the settings of the environment. -/
def start (env : Environment) : Draft := { interval := env.interval, style := env.style }

/-- A draft with one more superfluous word. -/
def addExtra (draft : Draft) (word : String) : Draft :=
  { draft with extras := word :: draft.extras }

/-- A draft with the value of an option. -/
def setValue (draft : Draft) (flag : Flag) (value : String) : Except Misuse Draft :=
  match flag with
  | .output => .ok { draft with output? := some value }
  | .interval =>
    match Numeral.readDouble? value.toList with
    | some interval => .ok { draft with interval }
    | none => .error (.notNumber flag value)
  | .style => .ok { draft with style := value }
  | .help => .ok draft
  | .once => .ok draft

end Draft

/-- Whether letters behind `-h` leave it a request for help: more of the same may follow, and what
follows another letter does not matter. -/
def checkLetters : List Char → Except Misuse Unit
  | [] => .ok ()
  | '-' :: rest => .error (.needlessValue .help (String.ofList ('-' :: rest)))
  | 'h' :: '=' :: value => .error (.needlessValue .help (String.ofList value))
  | 'h' :: rest => checkLetters rest
  | _ => .ok ()

/-- Reads words one after the other; `none` is a request for help. -/
def readWords (draft : Draft) : List Word → Except Misuse (Option Draft)
  | [] => .ok (some draft)
  | .unknown word :: rest => readWords (draft.addExtra word) rest
  | .separator :: rest =>
    if draft.source?.isSome then readWords (draft.addExtra "--") rest else readWords draft rest
  | .value word :: rest =>
    if draft.source?.isSome then readWords (draft.addExtra word) rest
    else
      let draft := { draft with source? := some word }
      match rest with
      | .separator :: rest => readWords draft rest
      | rest => readWords draft rest
  | .flag flag none :: rest =>
    if flag.takesValue then
      match rest with
      | .value value :: rest =>
        match draft.setValue flag value with
        | .error misuse => .error misuse
        | .ok draft => readWords draft rest
      | _ => .error (.missingValue flag)
    else if flag = .help then .ok none
    else readWords { draft with once := true } rest
  | .flag flag (some (.afterEquals value)) :: rest =>
    if flag.takesValue then
      match draft.setValue flag value with
      | .error misuse => .error misuse
      | .ok draft => readWords draft rest
    else .error (.needlessValue flag value)
  | .flag _ (some (.afterLetter letters)) :: _ =>
    match checkLetters letters.toList with
    | .error misuse => .error misuse
    | .ok () => .ok none

/-- What a draft asks for, once all words have been read. -/
def Draft.finish (draft : Draft) : Except Misuse Arguments :=
  match draft.source? with
  | none => .error .noSource
  | some source =>
    if !draft.extras.isEmpty then .error (.unrecognized draft.extras.reverse)
    else if draft.interval.isAtMostZero then .error .notPositive
    else if (Code.styles.lookup draft.style).isNone then .error (.unknownStyle draft.style)
    else .ok ⟨source, draft.output?, draft.interval, draft.style, draft.once⟩

/-- What a command line asks for; `none` is a request for help. -/
def readArguments (env : Environment) (words : List String) : Except Misuse (Option Arguments) :=
  match wordsOf words with
  | .error misuse => .error misuse
  | .ok words =>
    match readWords (Draft.start env) words with
    | .error misuse => .error misuse
    | .ok none => .ok none
    | .ok (some draft) => draft.finish.map some

end LiveDeck.CommandLine
