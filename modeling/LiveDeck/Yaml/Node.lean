import LiveDeck.Yaml.Tag
import LiveDeck.Yaml.Token

/-! # Nodes

The tree that the tokens of a document make up, with every alias replaced by what it stands
for.  An alias to a collection that is not complete yet stands for something endless; it is kept
as `Node.enclosing`. -/

namespace LiveDeck.Yaml

/-- A node with its type. -/
inductive Node where
  | scalar (tag : Tag) (text : List Char)
  | sequence (tag : Tag) (items : List Node)
  | mapping (tag : Tag) (entries : List (Node × Node))
  | enclosing (isMapping : Bool)
  deriving Repr, Inhabited

/-- What is left to read, the shorthands for tags and the anchors seen so far. -/
structure NodeState where
  tokens : List Token
  handles : List (List Char × List Char) := []
  anchors : List (List Char × Node) := []

/-- Reads from tokens; there is one way to fail. -/
abbrev NodeReader := StateT NodeState Option

namespace Node

/-- The node that is not written out. -/
def empty : Node := .scalar .null []

/-! ### Single tokens -/

/-- The next token. -/
def peek? : NodeReader (Option Token) := do return (← get).tokens.head?

/-- Takes the next token. -/
def take : NodeReader Unit := modify fun state => { state with tokens := state.tokens.tail }

/-- Takes the next token if it is the given one. -/
def takeIf (token : Token) : NodeReader Bool := do
  if (← peek?) = some token then
    take
    return true
  else return false

/-- Takes the next token, which must be the given one. -/
def expect (token : Token) : NodeReader Unit := do
  if ← takeIf token then return () else failure

/-- Whether the next token is one of the given ones. -/
def isNext (tokens : List Token) : NodeReader Bool := do
  return (← peek?).any tokens.contains

/-! ### Properties -/

/-- The anchor of a node. -/
def anchor? : NodeReader (Option (List Char)) := do
  match ← peek? with
  | some (.anchor name) =>
    take
    return some name
  | _ => return none

/-- The name of the tag of a node; a single exclamation mark is kept. -/
def tagName? : NodeReader (Option (List Char)) := do
  match ← peek? with
  | some (.tag none suffix) =>
    take
    return some suffix
  | some (.tag (some handle) suffix) =>
    take
    match (← get).handles.lookup handle with
    | some expansion => return some (expansion ++ suffix)
    | none => failure
  | _ => return none

/-- The anchor and the tag of a node, in either order. -/
def properties : NodeReader (Option (List Char) × Option (List Char)) := do
  match ← anchor? with
  | some name => return (some name, ← tagName?)
  | none =>
    match ← tagName? with
    | some tag => return (← anchor?, some tag)
    | none => return (none, none)

/-- Remembers what an anchor stands for; in a document an anchor is set once. -/
def declare (name : Option (List Char)) (node : Node) : NodeReader Unit := do
  match name with
  | none => return ()
  | some name =>
    if ((← get).anchors.lookup name).isSome then failure
    else modify fun state => { state with anchors := (name, node) :: state.anchors }

/-- Replaces what an anchor stands for. -/
def complete (name : Option (List Char)) (node : Node) : NodeReader Unit :=
  match name with
  | none => return ()
  | some name => modify fun state => { state with anchors := (name, node) :: state.anchors }

/-- The type of a collection. -/
def collectionTag (name : Option (List Char)) (standard : Tag) : Tag :=
  match name with
  | none => standard
  | some ['!'] => standard
  | some name => Tag.ofName name

/-- The type of a scalar. -/
def scalarTag (name : Option (List Char)) (isPlain : Bool) (text : List Char) : Tag :=
  match name with
  | none => if isPlain then Tag.ofPlain text else .str
  | some ['!'] => Tag.ofPlain text
  | some name => Tag.ofName name

/-! ### Reading nodes -/

/-- Where a node stands: in a block, in a block where a sequence needs no indentation, or in
brackets. -/
inductive Place where
  | block
  | blockEntry
  | flow
  deriving DecidableEq, Repr

/-- What is read by `entries`, followed by the given token. -/
def closed {α : Type} (token : Token) (entries : NodeReader α) : NodeReader α := do
  let found ← entries
  expect token
  return found

/-- A sequence with the items read by `items`. -/
def readSequence (anchor tag : Option (List Char)) (items : NodeReader (List Node)) :
    NodeReader Node := do
  declare anchor (.enclosing false)
  let node := Node.sequence (collectionTag tag .seq) (← items)
  complete anchor node
  return node

/-- A mapping with the entries read by `entries`. -/
def readMapping (anchor tag : Option (List Char)) (entries : NodeReader (List (Node × Node))) :
    NodeReader Node := do
  declare anchor (.enclosing true)
  let node := Node.mapping (collectionTag tag .map) (← entries)
  complete anchor node
  return node

mutual

/-- The node at the next token. -/
def read : Nat → Place → NodeReader Node
  | 0, _ => failure
  | fuel + 1, place => do
    match ← peek? with
    | some (.alias name) =>
      take
      match (← get).anchors.lookup name with
      | some node => return node
      | none => failure
    | _ =>
      let (anchor, tag) ← properties
      let next ← peek?
      match next, place with
      | some .blockEntry, .blockEntry =>
        readSequence anchor tag (readEntries fuel [.blockEntry, .key, .value, .blockEnd])
      | some .blockSequenceStart, .block =>
        take
        readSequence anchor tag (closed .blockEnd (readEntries fuel [.blockEntry, .blockEnd]))
      | some .blockSequenceStart, .blockEntry =>
        take
        readSequence anchor tag (closed .blockEnd (readEntries fuel [.blockEntry, .blockEnd]))
      | some .blockMappingStart, .block =>
        take
        readMapping anchor tag (closed .blockEnd (readPairs fuel))
      | some .blockMappingStart, .blockEntry =>
        take
        readMapping anchor tag (closed .blockEnd (readPairs fuel))
      | some .flowSequenceStart, _ =>
        take
        readSequence anchor tag (readFlowItems fuel true)
      | some .flowMappingStart, _ =>
        take
        readMapping anchor tag (readFlowPairs fuel true)
      | some (.scalar isPlain text), _ =>
        take
        let node := Node.scalar (scalarTag tag isPlain text) text
        declare anchor node
        return node
      | _, _ =>
        if anchor.isSome || tag.isSome then
          let node := Node.scalar (scalarTag tag true []) []
          declare anchor node
          return node
        else failure

/-- The node at the next token, or the empty one if that token is one of the given ones. -/
def readUnless : Nat → Place → List Token → NodeReader Node
  | 0, _, _ => failure
  | fuel + 1, place, stops => do
    if ← isNext stops then return empty else read fuel place

/-- The entries of a block sequence. -/
def readEntries : Nat → List Token → NodeReader (List Node)
  | 0, _ => failure
  | fuel + 1, stops => do
    if ← takeIf .blockEntry then
      let first ← readUnless fuel .block stops
      let others ← readEntries fuel stops
      return first :: others
    else return []

/-- The value after a colon, or the empty one if there is no colon. -/
def readValue : Nat → Place → List Token → NodeReader Node
  | 0, _, _ => failure
  | fuel + 1, place, stops => do
    if ← takeIf .value then readUnless fuel place stops else return empty

/-- The entries of a block mapping. -/
def readPairs : Nat → NodeReader (List (Node × Node))
  | 0 => failure
  | fuel + 1 => do
    let stops := [Token.key, .value, .blockEnd]
    if ← takeIf .key then
      let key ← readUnless fuel .blockEntry stops
      let value ← readValue fuel .blockEntry stops
      let others ← readPairs fuel
      return (key, value) :: others
    else return []

/-- A key and its value inside brackets, after the key mark. -/
def readFlowPair : Nat → Token → NodeReader (Node × Node)
  | 0, _ => failure
  | fuel + 1, close => do
    let key ← readUnless fuel .flow [.value, .flowEntry, close]
    let value ← readValue fuel .flow [.flowEntry, close]
    return (key, value)

/-- The items of a sequence in brackets, and the closing bracket. -/
def readFlowItems : Nat → Bool → NodeReader (List Node)
  | 0, _ => failure
  | fuel + 1, isFirst => do
    if ← takeIf .flowSequenceEnd then return []
    else
      if !isFirst then expect .flowEntry
      if ← takeIf .flowSequenceEnd then return []
      else
        let first ←
          if ← takeIf .key then
            let pair ← readFlowPair fuel .flowSequenceEnd
            pure (Node.mapping .map [pair])
          else read fuel .flow
        let others ← readFlowItems fuel false
        return first :: others

/-- The entries of a mapping in brackets, and the closing bracket. -/
def readFlowPairs : Nat → Bool → NodeReader (List (Node × Node))
  | 0, _ => failure
  | fuel + 1, isFirst => do
    if ← takeIf .flowMappingEnd then return []
    else
      if !isFirst then expect .flowEntry
      if ← takeIf .flowMappingEnd then return []
      else
        let first ←
          if ← takeIf .key then readFlowPair fuel .flowMappingEnd
          else pure (← read fuel .flow, empty)
        let others ← readFlowPairs fuel false
        return first :: others

end

/-! ### Documents -/

/-- The shorthands that need no directive. -/
def standardHandles : List (List Char × List Char) :=
  [(['!'], ['!']), (['!', '!'], Tag.namespaceName.toList)]

/-- Reads directives; `hasVersion` says that a version was given already. -/
def directives : Nat → Bool → NodeReader Unit
  | 0, _ => failure
  | fuel + 1, hasVersion => do
    match ← peek? with
    | some (.directive found) =>
      take
      match found with
      | .version major => if hasVersion || major ≠ 1 then failure else directives fuel true
      | .shorthand handle expansion =>
        if ((← get).handles.lookup handle).isSome then failure
        else
          modify fun state => { state with handles := (handle, expansion) :: state.handles }
          directives fuel hasVersion
      | .other => directives fuel hasVersion
    | _ => return ()

/-- Takes the marks that end a document. -/
def skipEnds : Nat → NodeReader Unit
  | 0 => return ()
  | fuel + 1 => do if ← takeIf .documentEnd then skipEnds fuel

/-- Whether the next token belongs to no node of a document. -/
def isOutside : NodeReader Bool := do
  match ← peek? with
  | none => return true
  | some (.directive _) => return true
  | some .documentStart => return true
  | some .documentEnd => return true
  | _ => return false

/-- The single document of a text, if there is one. -/
def readDocument (fuel : Nat) : NodeReader (Option Node) := do
  let node? ← match ← peek? with
    | none => pure none
    | some first =>
      let isExplicit := match first with
        | .directive _ => true
        | .documentStart => true
        | _ => false
      if isExplicit then
        directives fuel false
        modify fun state => { state with handles := state.handles ++ standardHandles }
        expect .documentStart
        if ← isOutside then pure (some empty) else pure (some (← read fuel .block))
      else
        modify fun state => { state with handles := standardHandles }
        pure (some (← read fuel .block))
  skipEnds fuel
  match ← peek? with
  | none => return node?
  | some _ => failure

/-- The node of a text; there is none if the text is empty. -/
def ofText (text : List Char) : Except Fault (Option Node) := do
  let found ← tokens text
  match (readDocument (4 * found.length + 8)).run { tokens := found } with
  | some (node, _) => .ok node
  | none => .error .malformed

end Node

end LiveDeck.Yaml
