import LiveDeck.Number.Numeral
import LiveDeck.Yaml.Node
import LiveDeck.Yaml.Value

/-! # From nodes to values

`load` is the value of a text.  Collections are filled level by level, from the outermost to the
innermost, so of several faults the one on the outermost level counts, and on one level the
first. -/

namespace LiveDeck.Yaml

open Numeral (leadingDigits maxDigits readDouble? readInt?)

/-! ### Scalars -/

/-- A text without underscores and with its sign taken off; an empty text has no sign. -/
def signed (text : List Char) : Except Fault (Bool × List Char) :=
  match text.filter (· != '_') with
  | [] => .error .emptyNumber
  | '-' :: rest => .ok (true, rest)
  | '+' :: rest => .ok (false, rest)
  | rest => .ok (false, rest)

/-- A whole number to a base; to base 10 it must not be too long. -/
def integer (base : Nat) (text : List Char) : Except Fault Int :=
  if base = 10 && maxDigits < leadingDigits text then .error (.longInteger (leadingDigits text))
  else
    match readInt? base text with
    | some value => .ok value
    | none => .error (.notInteger base (String.ofList text))

/-- The magnitude of a whole number: a leading zero marks base 8, a letter after it base 2 or 16,
and colons base 60. -/
def magnitude (text : List Char) : Except Fault Int :=
  match text with
  | [] => .error .emptyNumber
  | ['0'] => .ok 0
  | '0' :: 'b' :: rest => integer 2 rest
  | '0' :: 'x' :: rest => integer 16 rest
  | '0' :: _ => integer 8 text
  | _ =>
    if text.contains ':' then do
      let parts ← (text.splitOn ':').mapM (integer 10)
      .ok (parts.foldl (fun total part => total * 60 + part) 0)
    else integer 10 text

/-- The whole number that a text writes. -/
def readInteger (text : List Char) : Except Fault Int := do
  let (negative, digits) ← signed text
  let value ← magnitude digits
  .ok (if negative then -value else value)

/-- A number with a fraction. -/
def double (text : List Char) : Except Fault Double :=
  match readDouble? text with
  | some value => .ok value
  | none => .error (.notNumber (String.ofList text))

/-- The sum of sixty-based digits, the last first; every step is rounded. -/
def sixtyBased : Nat → Double → List Double → Double
  | _, total, [] => total
  | base, total, digit :: rest => sixtyBased (base * 60) (total.add (digit.scale base)) rest

/-- The magnitude of a number with a fraction. -/
def doubleMagnitude (text : List Char) : Except Fault Double :=
  if text = ".inf".toList then .ok (.infinite false)
  else if text = ".nan".toList then .ok .nan
  else if text.contains ':' then do
    let parts ← (text.splitOn ':').mapM double
    .ok (sixtyBased 1 (.finite false 0) parts.reverse)
  else double text

/-- The number that a text writes. -/
def readDouble (text : List Char) : Except Fault Double := do
  let (negative, digits) ← signed (text.map Char.toLower)
  let value ← doubleMagnitude digits
  .ok (if negative then value.neg else value)

/-- The truth value that a text names. -/
def readBool (text : List Char) : Except Fault Bool :=
  let name := String.ofList (text.map Char.toLower)
  if ["yes", "true", "on"].contains name then .ok true
  else if ["no", "false", "off"].contains name then .ok false
  else .error (.notBoolean name)

/-- The value of a digit to base 64. -/
def base64Value? (c : Char) : Option Nat :=
  let n := c.toNat
  if c.isUpper then some (n - 0x41)
  else if c.isLower then some (n - 0x61 + 26)
  else if c.isDigit then some (n - 0x30 + 52)
  else if c = '+' then some 62
  else if c = '/' then some 63
  else none

/-- Reads bytes to base 64; `pending` are the digits of an incomplete group, `pads` the padding
after them.  Other characters are skipped. -/
def bytesFrom (pending : List Nat) (pads : Nat) : List Char → Option (List Nat)
  | [] => if pending.isEmpty then some [] else none
  | '=' :: rest =>
    match pending with
    | [a, b] =>
      if pads = 1 then some [(a * 4 + b / 16) % 256] else bytesFrom pending (pads + 1) rest
    | [a, b, c] => some [(a * 4 + b / 16) % 256, (b % 16 * 16 + c / 4) % 256]
    | _ => bytesFrom pending (pads + 1) rest
  | ch :: rest =>
    match base64Value? ch with
    | none => bytesFrom pending pads rest
    | some d =>
      match pending with
      | [a, b, c] =>
        (bytesFrom [] 0 rest).map
          ([(a * 4 + b / 16) % 256, (b % 16 * 16 + c / 4) % 256, (c % 4 * 64 + d) % 256] ++ ·)
      | _ => bytesFrom (pending ++ [d]) 0 rest

/-- The bytes that a text writes to base 64. -/
def readBytes (text : List Char) : Except Fault (List Nat) :=
  if text.all fun c => c.toNat < 0x80 then
    match bytesFrom [] 0 text with
    | some bytes => .ok bytes
    | none => .error .malformed
  else .error .malformed

/-- The value of a scalar. -/
def scalarValue (text : List Char) : Tag → Except Fault Value
  | .null => .ok .null
  | .bool => (readBool text).map .bool
  | .int => (readInteger text).map .int
  | .float => (readDouble text).map .double
  | .timestamp => (Timestamp.read text).map .stamp
  | .str => .ok (.text text)
  | .binary => (readBytes text).map .bytes
  | _ => .error .malformed

/-! ### Merging -/

/-- The entries that a merge key adds. -/
def mergedEntries? : Node → Option (List (Node × Node))
  | .mapping _ entries => some entries
  | .sequence _ items => do
    let parts ← items.mapM fun
      | .mapping _ entries => some entries
      | _ => none
    some parts.reverse.flatten
  | .enclosing true => some []
  | _ => none

/-- The entries of a mapping, what merge keys add in front of the others; `none` where there is
nothing to merge. -/
def merge? (entries : List (Node × Node)) : Option (List (Node × Node)) := do
  let isMerge := fun (entry : Node × Node) => match entry.1 with
    | .scalar .merge _ => true
    | _ => false
  let added ← (entries.filter isMerge).mapM fun (_, value) => mergedEntries? value
  let others := (entries.filter fun entry => !isMerge entry).map fun
    | (.scalar .value text, value) => (Node.scalar .str text, value)
    | entry => entry
  some (added.flatten ++ others)

/-- A mapping that cannot be merged: an entry no reader accepts. -/
def unmerged : List (Node × Node) := [(.scalar .unknown [], .scalar .unknown [])]

mutual

/-- The node with its merge keys carried out. -/
def Node.merged : Node → Node
  | .mapping tag entries => .mapping tag ((merge? (mergedInEntries entries)).getD unmerged)
  | .sequence tag items => .sequence tag (mergedInItems items)
  | node => node

def mergedInItems : List Node → List Node
  | [] => []
  | node :: rest => node.merged :: mergedInItems rest

def mergedInEntries : List (Node × Node) → List (Node × Node)
  | [] => []
  | (key, value) :: rest => (key.merged, value.merged) :: mergedInEntries rest

end

/-! ### Collections -/

/-- The fault that counts: the one on the outer level, or the first. -/
def firstFault (a b : Option (Nat × Fault)) : Option (Nat × Fault) :=
  match a, b with
  | none, b => b
  | a, none => a
  | some x, some y => if y.1 < x.1 then some y else some x

/-- A value, and the fault that counts in it with its level. -/
abbrev Outcome (α : Type) := α × Option (Nat × Fault)

/-- A result on a level. -/
def outcome (level : Nat) : Except Fault Value → Outcome Value
  | .ok value => (value, none)
  | .error fault => (.null, some (level, fault))

/-- Whether the type is one of a collection. -/
def isCollection (tag : Tag) : Bool := [.seq, .map, .set, .omap, .pairs].contains tag

/-- A node that is not what its type says, on a level: an empty collection, which shows one level
further in that nothing can be put into it, or nothing at all. -/
def mismatch (level : Nat) (tag : Tag) : Outcome Value :=
  if isCollection tag then (.list [], some (level + 1, .malformed))
  else (.null, some (level, .malformed))

mutual

/-- The value of a node on a level. -/
def Node.value (level : Nat) : Node → Outcome Value
  | .scalar tag text =>
    if isCollection tag then mismatch level tag else outcome level (scalarValue text tag)
  | .sequence .seq items => let (values, fault) := itemValues (level + 1) items; (.list values, fault)
  | .sequence .omap items => let (values, fault) := pairValues (level + 1) items; (.list values, fault)
  | .sequence .pairs items => let (values, fault) := pairValues (level + 1) items; (.list values, fault)
  | .sequence tag _ => mismatch level tag
  | .mapping .map entries =>
    let (values, fault) := entryValues (level + 1) [] entries
    (.map values, fault)
  | .mapping .set entries =>
    let (values, fault) := entryValues (level + 1) [] entries
    (.set (values.map Prod.fst), fault)
  | .mapping tag _ => mismatch level tag
  | .enclosing isMapping => (.enclosing isMapping, none)

/-- The values of items. -/
def itemValues (level : Nat) : List Node → Outcome (List Value)
  | [] => ([], none)
  | node :: rest =>
    let (value, fault) := node.value level
    let (values, others) := itemValues level rest
    (value :: values, firstFault fault others)

/-- The values of items that are mappings with one entry each. -/
def pairValues (level : Nat) : List Node → Outcome (List Value)
  | [] => ([], none)
  | .mapping _ [(key, value)] :: rest =>
    let (first, fault) := key.value level
    let (second, fault') := value.value level
    let (values, others) := pairValues level rest
    (.pair first second :: values, firstFault (firstFault fault fault') others)
  | _ :: _ => ([], some (level, .malformed))

/-- The values of entries after those in `done`; a later entry with the same key replaces the
value. -/
def entryValues (level : Nat) (done : List (Value × Value)) :
    List (Node × Node) → Outcome (List (Value × Value))
  | [] => (done, none)
  | (key, value) :: rest =>
    let (first, fault) := key.value level
    let hashing := if first.isKey then none else some (level, Fault.malformed)
    let (second, fault') := value.value level
    let (entries, others) := entryValues level (Value.setEntry first second done) rest
    (entries, firstFault (firstFault (firstFault fault hashing) fault') others)

end

/-- The value of a text; an empty text has none. -/
def load (text : List Char) : Except Fault Value := do
  match ← Node.ofText text with
  | none => .ok .null
  | some node =>
    match node.merged.value 0 with
    | (value, none) => .ok value
    | (_, some (_, fault)) => .error fault

end LiveDeck.Yaml
