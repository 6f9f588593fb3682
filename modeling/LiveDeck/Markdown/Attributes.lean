import LiveDeck.Markdown.Address
import LiveDeck.Text.WordCharacters

/-! # Attributes in braces

`{#id .class key=value key="value" %comment%}` after an image, a code span or a link.  A comment
whose closing `%` is missing ends with the group.  Several groups merge: classes are added to
those already there, other keys are overwritten and keep their place.  Keys that name event
handlers and addresses that must not be followed are left out. -/

namespace LiveDeck.Markdown

open Text

/-- Attributes in the order in which their keys were first set. -/
abbrev Attributes := List (String × String)

namespace Attributes

/-- Sets a key; a key that is there already keeps its place. -/
def set (key value : String) : Attributes → Attributes
  | [] => [(key, value)]
  | (k, v) :: rest => if k = key then (k, value) :: rest else (k, v) :: set key value rest

/-- The value of a key, empty if it is not set. -/
def value (attributes : Attributes) (key : String) : String := (attributes.lookup key).getD ""

/-- Adds the attributes of another group. -/
def merge (attributes group : Attributes) : Attributes :=
  group.foldl (fun merged (key, value) =>
    match key == "class", attributes.lookup key with
    | true, some classes => set key (classes ++ " " ++ value) merged
    | _, _ => set key value merged) attributes

/-- The keys whose values are addresses. -/
def addressKeys : List String := ["href", "src", "action", "formaction"]

/-- Whether an attribute may be set by a group.  Spaces and control characters do not hide an
address that must not be followed. -/
def isPermitted (pair : String × String) : Bool :=
  let key := pair.1.toLower
  !("on".toList.isPrefixOf key.toList) &&
    (!addressKeys.contains key || Address.isSafe (pair.2.toList.filter fun c => 0x20 < c.toNat))

end Attributes

/-- Where the reader of a group stands.  A comment is closed by the next `%` of the text, if there
is one. -/
inductive GroupState where
  | between
  | identifier (text : List Char)
  | cssClass (text : List Char)
  | comment (isClosed : Bool)
  | key (text : List Char)
  | value (key : String)
  | bareValue (key : String) (text : List Char)
  | quotedValue (key : String) (text : List Char)
  | escapedValue (key : String) (text : List Char)
  | finishedValue
  | escapedFinished
  deriving DecidableEq, Repr

/-- What has been read of a group: its attributes apart from classes, and its classes. -/
structure Group where
  attributes : Attributes := []
  classes : List String := []
  deriving DecidableEq, Repr

namespace Group

/-- Adds a key with its value; the value of `class` is a class. -/
def add (group : Group) (key : String) (value : List Char) : Group :=
  if key = "class" then { group with classes := group.classes ++ [String.ofList value] }
  else { group with attributes := Attributes.set key (String.ofList value) group.attributes }

/-- Adds an identifier if it is not empty; the text is given backwards. -/
def addIdentifier (group : Group) (text : List Char) : Group :=
  if text.isEmpty then group else group.add "id" text.reverse

/-- Adds a class if it is not empty; the text is given backwards. -/
def addClass (group : Group) (text : List Char) : Group :=
  if text.isEmpty then group else group.add "class" text.reverse

/-- The attributes of the group that may be set, the classes in one of them. -/
def toAttributes (group : Group) : Attributes :=
  let all := if group.classes.isEmpty then group.attributes
    else Attributes.set "class" (" ".intercalate group.classes) group.attributes
  all.filter Attributes.isPermitted

/-- A character of a key or of a value without quotes. -/
def isKeyChar (c : Char) : Bool :=
  c.isAlpha || decimalDigits.contains c || c == '_' || c == ':' || c == '-'

/-- The characters that end an identifier or a class. -/
def endsName (c : Char) : Bool :=
  isBlank c || "!\"#$%&'()*+,./;<=>?@[]^\x7b|\x7d~".toList.contains c || c == '\x60'

/-- Reads one character, before `rest`; `none` if it may not stand there. -/
def step (group : Group) (state : GroupState) (c : Char) (rest : List Char) :
    Option (Group × GroupState) :=
  match state with
  | .between =>
    if c = ' ' || c = '\t' || c = '\n' || c = '\r' then some (group, .between)
    else if c = '#' then some (group, .identifier [])
    else if c = '%' then some (group, .comment (rest.contains '%'))
    else if c = '.' then some (group, .cssClass [])
    else if isKeyChar c then some (group, .key [c])
    else none
  | .identifier text =>
    if !endsName c then some (group, .identifier (c :: text))
    else if isBlank c then some (group.addIdentifier text, .between)
    else none
  | .cssClass text =>
    if !endsName c then some (group, .cssClass (c :: text))
    else if isBlank c then some (group.addClass text, .between)
    else none
  | .comment isClosed => some (group, if c = '%' then .between else .comment isClosed)
  | .key text =>
    if c = '=' then some (group, .value (String.ofList text.reverse))
    else if isKeyChar c then some (group, .key (c :: text))
    else none
  | .value key =>
    if c = '"' then some (group, .quotedValue key [])
    else if isKeyChar c then some (group, .bareValue key [c])
    else none
  | .bareValue key text =>
    if isKeyChar c then some (group, .bareValue key (c :: text))
    else if isBlank c then some (group.add key text.reverse, .between)
    else none
  | .quotedValue key text =>
    if c = '"' then some (group.add key text.reverse, .between)
    else if c = '\\' then some (group, .escapedValue key (c :: text))
    else if c = '{' || c = '}' then none
    else if c = '\n' then some (group.add key text.reverse, .finishedValue)
    else some (group, .quotedValue key (c :: text))
  | .escapedValue key text => some (group, .quotedValue key (c :: text))
  | .finishedValue =>
    if c = '"' then some (group, .between)
    else if c = '\\' then some (group, .escapedFinished)
    else if c = '{' || c = '}' then none
    else some (group, .finishedValue)
  | .escapedFinished => some (group, .finishedValue)

/-- What a closing brace adds; `none` where the group may not end. -/
def close (group : Group) : GroupState → Option Group
  | .between => some group
  | .comment _ => some group
  | .identifier text => some (group.addIdentifier text)
  | .cssClass text => some (group.addClass text)
  | .bareValue key text => some (group.add key text.reverse)
  | _ => none

/-- Whether a closing brace is an ordinary character in a state. -/
def keepsBrace : GroupState → Bool
  | .comment isClosed => isClosed
  | .escapedValue _ _ => true
  | .escapedFinished => true
  | _ => false

/-- Reads a group from `state` on: its attributes, and how many characters it takes. -/
def readFrom (group : Group) (state : GroupState) (taken : Nat) :
    List Char → Option (Attributes × Nat)
  | [] => none
  | c :: s =>
    if c = '}' && !keepsBrace state then
      (group.close state).map fun closed => (closed.toAttributes, taken + 1)
    else
      match group.step state c s with
      | none => none
      | some (next, state') => readFrom next state' (taken + 1) s

/-- A group at the start of a text, and how many characters it takes. -/
def read? : List Char → Option (Attributes × Nat)
  | '{' :: s => readFrom {} .between 1 s
  | _ => none

end Group

end LiveDeck.Markdown
