import LiveDeck.Code.StyleSheet
import LiveDeck.Document.Read
import LiveDeck.Files.Basic
import LiveDeck.Page.Error
import LiveDeck.Text.Utf8

/-! # What stops a tick

A file that cannot be read or written, a style nobody knows, bytes that are no text, a source that
is no document, a document without a page, or a page that has no bytes.  Every fault has a kind,
which is a name, and a message. -/

namespace LiveDeck

/-- The kind of a fault of YAML, by name. -/
def Yaml.Fault.kind : Yaml.Fault → String
  | .malformed => "ReaderError"
  | .emptyNumber => "IndexError"
  | .notBoolean _ => "KeyError"
  | .notTimestamp => "AttributeError"
  | _ => "ValueError"

/-- The kind of an error of reading, by name. -/
def ReadError.kind : ReadError → String
  | .frontMatter (.noValue _ cause) => cause.kind
  | .frontMatter .notMapping => "ReaderError"
  | .frontMatter (.notIterable _) => "TypeError"
  | .frontMatter .longNumber => "ValueError"
  | .noCounterpart _ => "ReaderError"
  | .inline .unbalanced => "ValueError"
  | .inline .unencodable => "UnicodeEncodeError"

/-- Why a tick failed. -/
inductive TickFault where
  | file (fault : FileFault)
  | style (cause : Code.UnknownStyle)
  | bytes (fault : Utf8.Fault)
  | source (cause : ReadError)
  | page (cause : NoInlines)
  | unencodable (fault : Utf8.Unencodable)
  deriving DecidableEq, Repr

namespace TickFault

/-- The kind of a fault, by name. -/
def kind : TickFault → String
  | .file fault => fault.kind
  | .style _ => "ClassNotFound"
  | .bytes _ => "UnicodeDecodeError"
  | .source cause => cause.kind
  | .page _ => "AttributeError"
  | .unencodable _ => "UnicodeEncodeError"

/-- The text of a fault. -/
def message : TickFault → String
  | .file fault => fault.message
  | .style cause => cause.message
  | .bytes fault => fault.message
  | .source cause => cause.message
  | .page cause => cause.message
  | .unencodable fault => fault.message

end TickFault

end LiveDeck
