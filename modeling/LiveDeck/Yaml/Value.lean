import LiveDeck.Number.Numeral
import LiveDeck.Yaml.Timestamp

/-! # Values

What a YAML text stands for.  `Value.shown?` is how a value is shown by itself and
`Value.expression` how it is shown inside a collection; nothing is shown where a number in it is
too long (`Value.holdsLong`).  Texts are spelled. -/

namespace LiveDeck.Yaml

open Text (hexDigits)

/-- A value.  Entries of mappings and items of sets are in the order in which they came; `pair` is
an item of an ordered mapping, and `enclosing` stands for a collection inside itself. -/
inductive Value where
  | null
  | bool (value : Bool)
  | int (value : Int)
  | double (value : Double)
  | text (value : List Char)
  | bytes (values : List Nat)
  | stamp (value : Timestamp)
  | list (items : List Value)
  | pair (first second : Value)
  | map (entries : List (Value × Value))
  | set (items : List Value)
  | enclosing (isMapping : Bool)
  deriving Repr, Inhabited

/-- A byte inside quotation marks. -/
def byteText (mark : Char) (byte : Nat) : List Char :=
  let c := Char.ofNat byte
  if c = mark || c = '\\' then ['\\', c]
  else if c = '\t' then ['\\', 't']
  else if c = '\n' then ['\\', 'n']
  else if c = '\r' then ['\\', 'r']
  else if 0x20 ≤ byte && byte < 0x7F then [c]
  else '\\' :: 'x' :: hexDigits byte 2

/-- Bytes between quotation marks. -/
def bytesText (bytes : List Nat) : String :=
  let mark := if bytes.contains 0x27 && !bytes.contains 0x22 then '"' else '\''
  String.ofList ('b' :: mark :: bytes.flatMap (byteText mark) ++ [mark])

namespace Value

/-! ### Text -/

/-- The name of a truth value. -/
def boolText (value : Bool) : String := if value then "True" else "False"

mutual

/-- A value as it is shown inside a collection. -/
def expression : Value → String
  | .null => "None"
  | .bool value => boolText value
  | .int value => toString value
  | .double value => value.text
  | .text value => Text.quoted (String.ofList value)
  | .bytes values => bytesText values
  | .stamp value => value.expression
  | .list items => "[" ++ ", ".intercalate (expressions items) ++ "]"
  | .pair first second => "(" ++ expression first ++ ", " ++ expression second ++ ")"
  | .map entries => "\x7b" ++ ", ".intercalate (entryExpressions entries) ++ "\x7d"
  | .set [] => "set()"
  | .set items => "\x7b" ++ ", ".intercalate (expressions items) ++ "\x7d"
  | .enclosing isMapping => if isMapping then "\x7b...\x7d" else "[...]"

def expressions : List Value → List String
  | [] => []
  | value :: rest => expression value :: expressions rest

def entryExpressions : List (Value × Value) → List String
  | [] => []
  | (key, value) :: rest => (expression key ++ ": " ++ expression value) :: entryExpressions rest

end

mutual

/-- Whether there is a whole number in a value that is too long to be shown. -/
def holdsLong : Value → Bool
  | .int value => Numeral.isLong value
  | .list items => anyHoldsLong items
  | .pair first second => holdsLong first || holdsLong second
  | .map entries => anyEntryHoldsLong entries
  | .set items => anyHoldsLong items
  | _ => false

def anyHoldsLong : List Value → Bool
  | [] => false
  | value :: rest => holdsLong value || anyHoldsLong rest

def anyEntryHoldsLong : List (Value × Value) → Bool
  | [] => false
  | (key, value) :: rest => holdsLong key || holdsLong value || anyEntryHoldsLong rest

end

/-- A value as it is shown by itself; `none` if a number in it is too long. -/
def shown? (value : Value) : Option (List Char) :=
  if value.holdsLong then none
  else match value with
    | .text value => some value
    | .stamp value => some value.text.toList
    | value => some value.expression.toList

/-- Whether a value counts as missing: nothing, false, zero, or an empty text or collection. -/
def isMissing : Value → Bool
  | .null => true
  | .bool value => !value
  | .int value => value == 0
  | .double value => value.isZero
  | .text value => value.isEmpty
  | .bytes values => values.isEmpty
  | .list items => items.isEmpty
  | .map entries => entries.isEmpty
  | .set items => items.isEmpty
  | _ => false

/-! ### Keys -/

/-- Whether a value may be a key: collections may not. -/
def isKey : Value → Bool
  | .list _ => false
  | .map _ => false
  | .set _ => false
  | .enclosing _ => false
  | _ => true

/-- The number that a value counts as when keys are compared. -/
def number? : Value → Option Double
  | .bool value => some (if value then .finite false Double.unitsPerOne else .finite false 0)
  | .int value => some (.finite (value < 0) (value.natAbs * Double.unitsPerOne))
  | .double (.finite negative units) => some (.finite (negative && units != 0) units)
  | .double value => some value
  | _ => none

/-- Whether two keys are the same: numbers of every kind are compared by value. -/
def isSameKey (a b : Value) : Bool :=
  match a.number?, b.number? with
  | some x, some y => x == y
  | none, none =>
    match a, b with
    | .null, .null => true
    | .text s, .text t => s == t
    | .bytes s, .bytes t => s == t
    | .stamp s, .stamp t => s.isSame t
    | _, _ => false
  | _, _ => false

/-- Sets the value of a key; a key that is there already keeps its place. -/
def setEntry (key value : Value) : List (Value × Value) → List (Value × Value)
  | [] => [(key, value)]
  | (k, v) :: rest => if k.isSameKey key then (k, value) :: rest else (k, v) :: setEntry key value rest

/-- The value of a key that is a text. -/
def entry? (name : String) (entries : List (Value × Value)) : Option Value :=
  (entries.find? fun (key, _) => key.isSameKey (.text name.toList)).map Prod.snd

end Value

end LiveDeck.Yaml
