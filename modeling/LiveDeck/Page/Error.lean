import LiveDeck.Document.PlainText
import LiveDeck.Text.Quoted

/-! # What cannot be shown

`Unsupported` lists what has no place on a slide, with the wording in `Unsupported.message`.
An image whose description holds a node without text is the one other reason why a document
has no page. -/

namespace LiveDeck

/-- Why a node has no rendering. -/
inductive Unsupported where
  | block (kind : String)
  | inline (kind : String)
  | headerLevel (level : Int)
  | math
  | note
  | rawFormat (format : String)
  | codeAttributes (attr : Attr)
  deriving DecidableEq, Repr

/-- The attributes of code as they are reported. -/
def Attr.describe (attr : Attr) : String :=
  let pairs := attr.attributes.map fun (key, value) =>
    Text.tuple [Text.quoted key, Text.quoted value]
  "Attr(identifier=" ++ Text.quoted attr.identifier ++
    ", classes=" ++ Text.tuple (attr.classes.map Text.quoted) ++
    ", attributes=" ++ Text.tuple pairs ++ ")"

namespace Unsupported

/-- The reason in words. -/
def message : Unsupported → String
  | .block kind => "block: " ++ kind
  | .inline kind => "inline: " ++ kind
  | .headerLevel level => "header level: " ++ toString level
  | .math => "math"
  | .note => "note not supported"
  | .rawFormat format => "raw inline format: " ++ format
  | .codeAttributes attr => "inline code attributes: " ++ attr.describe

end Unsupported

/-- Why a node or a document has no markup. -/
inductive RenderError where
  | unsupported (cause : Unsupported)
  | noInlines (cause : NoInlines)
  deriving DecidableEq, Repr

/-- The missing text in words. -/
def NoInlines.message (cause : NoInlines) : String :=
  Text.quoted cause.kind ++ " object has no attribute 'inlines'"

end LiveDeck
