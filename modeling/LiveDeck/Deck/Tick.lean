import LiveDeck.Deck.Fault
import LiveDeck.Deck.Job
import LiveDeck.Log.Level
import LiveDeck.Text.Lines

/-! # Ticks

A tick makes sure that the stylesheet is there, reads the source and, if its text is not the one
that made the last deck, renders it and writes the deck.  The text is remembered only after the
deck has been written, so that whatever fails is tried again by the next tick.  A deck is empty
from the time it is opened until its page is encoded, and stays so if the page holds a
surrogate. -/

namespace LiveDeck

open Log (Record)

/-- How a tick that did not fail ended. -/
inductive Outcome where
  | updated
  | unchanged
  | refused (cause : Unsupported)
  deriving DecidableEq, Repr

/-- What a tick leaves behind: the files, the text of the last deck, what it logged, and how it
ended. -/
structure Tick where
  files : Files
  last? : Option (List Char)
  records : List Record
  outcome : Except TickFault Outcome
  deriving Repr

namespace Files

/-- Writes the stylesheet of a style unless something stands at its path, and says whether it did. -/
def ensureStyleSheet (files : Files) (path : Path) (style : String) :
    Except TickFault (Bool × Files) :=
  if files.holds path then .ok (false, files)
  else
    match Code.styleSheet style with
    | .error cause => .error (.style cause)
    | .ok css =>
      match files.write path (Utf8.encode css.toList) with
      | .error fault => .error (.file fault)
      | .ok written => .ok (true, written)

/-- The text of a file, with line feeds for all its line endings. -/
def readText (files : Files) (path : Path) : Except TickFault (List Char) :=
  match files.read path with
  | .error fault => .error (.file fault)
  | .ok bytes =>
    match Utf8.decode bytes with
    | .error fault => .error (.bytes fault)
    | .ok text => .ok (Text.universal text)

end Files

/-- The record of a new stylesheet. -/
def createRecord (path : Path) : Record := ⟨.info, "create \"" ++ path.name ++ "\""⟩

/-- The record of a new deck. -/
def updateRecord : Record := ⟨.info, "update"⟩

namespace Job

/-- The page of a text, or what cannot be shown of it. -/
def rendering (job : Job) (text : List Char) : Except TickFault Rendering :=
  match Document.read text with
  | .error cause => .error (.source cause)
  | .ok doc =>
    match doc.render job.styleSheet.name with
    | .error cause => .error (.page cause)
    | .ok rendering => .ok rendering

/-- Renders the source if its text is new; the stylesheet is there already. -/
def refresh (job : Job) (files : Files) (last? : Option (List Char)) : Tick :=
  match files.readText job.source with
  | .error fault => ⟨files, last?, [], .error fault⟩
  | .ok text =>
    if last? = some text then ⟨files, last?, [], .ok .unchanged⟩
    else
      match job.rendering text with
      | .error fault => ⟨files, last?, [], .error fault⟩
      | .ok (.refused cause) => ⟨files, last?, [], .ok (.refused cause)⟩
      | .ok (.page html) =>
        match Utf8.encodeSpelled html.toList with
        | .error fault =>
          match files.write job.deck [] with
          | .error cause => ⟨files, last?, [], .error (.file cause)⟩
          | .ok emptied => ⟨emptied, last?, [], .error (.unencodable fault)⟩
        | .ok bytes =>
          match files.write job.deck bytes with
          | .error cause => ⟨files, last?, [], .error (.file cause)⟩
          | .ok written => ⟨written, some text, [updateRecord], .ok .updated⟩

/-- One tick. -/
def tick (job : Job) (files : Files) (last? : Option (List Char)) : Tick :=
  match files.ensureStyleSheet job.styleSheet job.style with
  | .error fault => ⟨files, last?, [], .error fault⟩
  | .ok (false, files) => job.refresh files last?
  | .ok (true, files) =>
    let tick := job.refresh files last?
    { tick with records := createRecord job.styleSheet :: tick.records }

end Job

/-- What a tick that goes wrong adds to the log of a loop. -/
def Tick.complaint (tick : Tick) : List Record :=
  match tick.outcome with
  | .ok (.refused cause) => [⟨.error, "render failed: " ++ cause.message⟩]
  | .ok _ => []
  | .error fault => [⟨.error, fault.kind ++ ": " ++ fault.message⟩]

end LiveDeck
