import LiveDeck.Metadata.Basic
import LiveDeck.Yaml.Construct

/-! # Front matter

Metadata written in YAML: a mapping with the keys `title`, `authors` or `author`, and `date`. -/

namespace LiveDeck

open Yaml (Value Fault)

/-- Why front matter gives no metadata: its content has no value, the value is no mapping, the
authors are of a type that holds no items, or a number is too long to be shown. -/
inductive FrontMatterError where
  | noValue (content : List Char) (cause : Fault)
  | notMapping
  | notIterable (typeName : String)
  | longNumber
  deriving DecidableEq, Repr

namespace FrontMatterError

/-- The text of an error.  If the content is not well formed, what is wrong with it and where
follows, which the content determines. -/
def message : FrontMatterError → String
  | .noValue _ cause => cause.message
  | .notMapping => "front matter is not a YAML mapping"
  | .notIterable typeName => s!"'{typeName}' object is not iterable"
  | .longNumber => "Exceeds the limit (4300 digits) for integer string conversion; " ++
      "use sys.set_int_max_str_digits() to increase the limit"

end FrontMatterError

namespace Metadata

/-- The text of a value. -/
def valueText (value : Value) : Except FrontMatterError (List Char) :=
  match value.shown? with
  | some text => .ok text
  | none => .error .longNumber

/-- The text of a field that is there and not empty. -/
def fieldText (value? : Option Value) : Except FrontMatterError (List Char) :=
  match value? with
  | some value => if value.isMissing then .ok [] else valueText value
  | none => .ok []

/-- The values that name authors: a text or a number is one author, a collection holds several. -/
def authorItems : Value → Except FrontMatterError (List Value)
  | .list items => .ok items
  | .map entries => .ok (entries.map Prod.fst)
  | .set items => .ok items
  | .pair first second => .ok [first, second]
  | .bytes values => .ok (values.map fun byte => .int (Int.ofNat byte))
  | .stamp value => .error (.notIterable value.typeName)
  | .null => .ok []
  | .enclosing _ => .ok []
  | value => .ok [value]

/-- The value that names the authors in a mapping; `authors` goes before `author`. -/
def authorsValue (entries : List (Value × Value)) : Value :=
  (Value.entry? "authors" entries).getD ((Value.entry? "author" entries).getD .null)

/-- The metadata in a mapping. -/
def ofEntries (entries : List (Value × Value)) : Except FrontMatterError Metadata := do
  let title ← fieldText (Value.entry? "title" entries)
  let authors ← (← authorItems (authorsValue entries)).mapM valueText
  let date ← fieldText (Value.entry? "date" entries)
  .ok { title, authors, date }

/-- The metadata that front matter gives; a value that counts as missing gives none. -/
def ofFrontMatter (content : List Char) : Except FrontMatterError Metadata :=
  match Yaml.load content with
  | .error cause => .error (.noValue content cause)
  | .ok (.map entries) => ofEntries entries
  | .ok value => if value.isMissing then .ok {} else .error .notMapping

end Metadata

end LiveDeck
