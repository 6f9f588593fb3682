import LiveDeck.Text.Utf8
import LiveDeck.Yaml.Scalar

/-! # Tokens

`tokens` cuts a text into tokens.  Indentation becomes tokens of its own: a start before the
first entry of a block and an end after the last.  Whether a token is a key is known only at the
colon after it; until then its position is remembered, and the key token is put in front of it
afterwards. -/

namespace LiveDeck.Yaml

/-- A line that starts with a percent sign: the version of the language, a shorthand for tags, or
something else. -/
inductive Directive where
  | version (major : Nat)
  | shorthand (handle expansion : List Char)
  | other
  deriving DecidableEq, Repr

/-- A token.  A tag has a handle unless it is written out. -/
inductive Token where
  | directive (directive : Directive)
  | documentStart
  | documentEnd
  | blockSequenceStart
  | blockMappingStart
  | blockEnd
  | flowSequenceStart
  | flowSequenceEnd
  | flowMappingStart
  | flowMappingEnd
  | flowEntry
  | blockEntry
  | key
  | value
  | alias (name : List Char)
  | anchor (name : List Char)
  | tag (handle : Option (List Char)) (suffix : List Char)
  | scalar (isPlain : Bool) (text : List Char)
  deriving DecidableEq, Repr

/-- Where a token starts that may turn out to be a key.  At the indentation of a block there must
be a key. -/
structure KeyCandidate where
  token : Nat
  isRequired : Bool
  index : Nat
  line : Nat
  column : Nat
  deriving DecidableEq, Repr

/-- A text being cut into tokens: the tokens so far, how many brackets are open, the indentation
of the open blocks, whether a key may start here, and the candidates by depth of brackets. -/
structure Scan where
  cursor : Cursor
  tokens : Array Token := #[]
  depth : Nat := 0
  indent : Int := -1
  outer : List Int := []
  allowsKey : Bool := true
  candidates : List (Nat × KeyCandidate) := []

namespace Cursor

/-! ### Names and tags -/

/-- A character of a name. -/
def isNameChar (c : Char) : Bool := c.isAlphanum || c == '-' || c == '_'

/-- The name of an anchor or an alias. -/
def anchorName (cursor : Cursor) : Except Fault (List Char × Cursor) :=
  let (name, after) := cursor.span isNameChar
  let isEnd := startsSpace after.rest || after.rest.head?.any ("?:,]\x7d%@\x60".toList.contains ·)
  if name.isEmpty || !isEnd then .error .malformed else .ok (name, after)

/-- A character of a tag, apart from the percent sign of an escape. -/
def isTagChar (c : Char) : Bool := c.isAlphanum || "-;/?:@&=+$,_.!~*'()[]".toList.contains c

/-- The characters that the escapes of a run write together. -/
def escapedText (bytes : List UInt8) : Except Fault (List Char) :=
  (Utf8.decode bytes).mapError fun _ => .malformed

/-- A tag with its escapes carried out; `bytes` are those of the run of escapes before it. -/
def unescapedTag (bytes : List UInt8) : List Char → Except Fault (List Char)
  | '%' :: high :: low :: rest =>
    match hexDigit? high, hexDigit? low with
    | some high, some low => unescapedTag (bytes ++ [UInt8.ofNat (high * 16 + low)]) rest
    | _, _ => .error .malformed
  | '%' :: _ => .error .malformed
  | c :: rest => do
    let before ← escapedText bytes
    let others ← unescapedTag [] rest
    .ok (before ++ c :: others)
  | [] => escapedText bytes

/-- The end of a tag, with at least one character. -/
def tagSuffix (cursor : Cursor) : Except Fault (List Char × Cursor) :=
  let (suffix, after) := cursor.span fun c => isTagChar c || c == '%'
  if suffix.isEmpty then .error .malformed
  else (unescapedTag [] suffix).map fun text => (text, after)

/-- The handle of a tag: a name between exclamation marks, or a single mark before a space. -/
def tagHandle (cursor : Cursor) : Except Fault (List Char × Cursor) :=
  if cursor.peek? ≠ some '!' then .error .malformed
  else if cursor.next.peek? = some ' ' then .ok (['!'], cursor.next)
  else
    let (name, after) := cursor.next.span isNameChar
    if after.peek? = some '!' then .ok ('!' :: name ++ ['!'], after.next) else .error .malformed

/-- Whether an exclamation mark stands before the next space. -/
def hasHandle (text : List Char) : Bool :=
  (text.takeWhile fun c => !(c == ' ' || isBreak c)).contains '!'

/-- The tag at the cursor. -/
def tagToken (cursor : Cursor) : Except Fault (Token × Cursor) := do
  let start := cursor.next
  let (token, after) ← match start.peek? with
    | some '<' => do
      let (suffix, after) ← start.next.tagSuffix
      if after.peek? = some '>' then .ok (Token.tag none suffix, after.next)
      else .error .malformed
    | _ =>
      if startsSpace start.rest then .ok (Token.tag none ['!'], start)
      else if hasHandle start.rest then do
        let (handle, afterHandle) ← cursor.tagHandle
        let (suffix, after) ← afterHandle.tagSuffix
        .ok (Token.tag (some handle) suffix, after)
      else do
        let (suffix, after) ← start.tagSuffix
        .ok (Token.tag (some ['!']) suffix, after)
  if startsSpace after.rest && after.peek? ≠ some '\t' then .ok (token, after)
  else .error .malformed

/-! ### Directives -/

/-- A number and the cursor after it. -/
def number (cursor : Cursor) : Except Fault (Nat × Cursor) :=
  let (digits, after) := cursor.span Char.isDigit
  match (String.ofList digits).toNat? with
  | some value => .ok (value, after)
  | none => .error .malformed

/-- Whether a text ends, or goes on with a space or a line break. -/
def endsWord (text : List Char) : Bool := startsSpace text && text.head? != some '\t'

/-- The version in a directive. -/
def versionValue (cursor : Cursor) : Except Fault (Directive × Cursor) := do
  let (major, afterMajor) ← (cursor.skipWhile (· == ' ')).number
  if afterMajor.peek? = some '.' then
    let (_, after) ← afterMajor.next.number
    if endsWord after.rest then .ok (.version major, after) else .error .malformed
  else .error .malformed

/-- The handle of a shorthand and what it stands for. -/
def shorthandValue (cursor : Cursor) : Except Fault (Directive × Cursor) := do
  let (handle, afterHandle) ← (cursor.skipWhile (· == ' ')).tagHandle
  if afterHandle.peek? = some ' ' then
    let (expansion, after) ← (afterHandle.skipWhile (· == ' ')).tagSuffix
    if endsWord after.rest then .ok (.shorthand handle expansion, after) else .error .malformed
  else .error .malformed

/-- The directive at the cursor. -/
def directive (cursor : Cursor) : Except Fault (Directive × Cursor) := do
  let (name, after) := cursor.next.span isNameChar
  if name.isEmpty || !endsWord after.rest then .error .malformed
  else
    let (found, final) ←
      if name = "YAML".toList then after.versionValue
      else if name = "TAG".toList then after.shorthandValue
      else .ok (.other, after.skipWhile fun c => !isBreak c)
    .ok (found, ← final.nextLine)

end Cursor

namespace Scan

/-! ### Keys and indentation -/

/-- Adds tokens. -/
def push (scan : Scan) (tokens : List Token) : Scan :=
  { scan with tokens := scan.tokens ++ tokens.toArray }

/-- Forgets the candidate at the current depth; a key that is required must not be missing. -/
def dropCandidate (scan : Scan) : Except Fault Scan :=
  match scan.candidates.lookup scan.depth with
  | some candidate =>
    if candidate.isRequired then .error .malformed
    else .ok { scan with candidates := scan.candidates.filter fun (depth, _) => depth != scan.depth }
  | none => .ok scan

/-- Whether a candidate may still be a key: keys stand on one line and are not too long. -/
def isFresh (scan : Scan) (candidate : KeyCandidate) : Bool :=
  candidate.line = scan.cursor.line && scan.cursor.index ≤ candidate.index + 1024

/-- Forgets the candidates that can no longer be keys. -/
def dropStale (scan : Scan) : Except Fault Scan :=
  let (fresh, stale) := scan.candidates.partition fun (_, candidate) => scan.isFresh candidate
  if stale.any fun (_, candidate) => candidate.isRequired then .error .malformed
  else .ok { scan with candidates := fresh }

/-- Remembers that the next token may be a key. -/
def saveCandidate (scan : Scan) : Except Fault Scan :=
  if scan.allowsKey then do
    let cleared ← scan.dropCandidate
    let candidate : KeyCandidate :=
      { token := scan.tokens.size
        isRequired := scan.depth = 0 && scan.indent = scan.cursor.column
        index := scan.cursor.index
        line := scan.cursor.line
        column := scan.cursor.column }
    .ok { cleared with candidates := (scan.depth, candidate) :: cleared.candidates }
  else .ok scan

/-- The ends of the blocks that are indented by more than `column`, and the indentation left. -/
def closed (column : Int) : Int → List Int → List Token × Int × List Int
  | indent, [] => ([], indent, [])
  | indent, next :: outer =>
    if column < indent then
      let (ends, final, rest) := closed column next outer
      (.blockEnd :: ends, final, rest)
    else ([], indent, next :: outer)

/-- Closes the blocks that are indented by more than `column`; inside brackets there are no
blocks. -/
def unwind (scan : Scan) (column : Int) : Scan :=
  if scan.depth = 0 then
    let (ends, indent, outer) := closed column scan.indent scan.outer
    { scan.push ends with indent, outer }
  else scan

/-- Opens a block at a column, if it is indented by more than the current one; its start is put
before the token at a position. -/
def openBlock (scan : Scan) (column position : Nat) (start : Token) : Scan :=
  if scan.indent < column then
    { scan with
      tokens := scan.tokens.toList.insertIdx position start |>.toArray
      indent := column
      outer := scan.indent :: scan.outer }
  else scan

/-- The scan with its cursor one character on and a token added. -/
def step (scan : Scan) (token : Token) : Scan :=
  { scan.push [token] with cursor := scan.cursor.next }

/-! ### Single tokens -/

/-- Adds the mark of an entry or of a key of a block, which opens a block if need be. -/
def blockMark (scan : Scan) (start token : Token) (allowsKey : Bool) : Except Fault Scan := do
  if scan.depth = 0 && !scan.allowsKey then .error .malformed
  else
    let opened :=
      if scan.depth = 0 then scan.openBlock scan.cursor.column scan.tokens.size start else scan
    let cleared ← { opened with allowsKey }.dropCandidate
    .ok (cleared.step token)

/-- Adds the colon after a key: the candidate becomes a key. -/
def valueMark (scan : Scan) : Except Fault Scan :=
  match scan.candidates.lookup scan.depth with
  | some candidate =>
    let keyed := { scan with
      tokens := scan.tokens.toList.insertIdx candidate.token .key |>.toArray
      candidates := scan.candidates.filter fun (depth, _) => depth != scan.depth
      allowsKey := false }
    let opened :=
      if scan.depth = 0 then keyed.openBlock candidate.column candidate.token .blockMappingStart
      else keyed
    .ok (opened.step .value)
  | none => scan.blockMark .blockMappingStart .value (scan.depth = 0)

/-- Adds an opening bracket, which may start a key. -/
def openBracket (scan : Scan) (token : Token) : Except Fault Scan := do
  let saved ← scan.saveCandidate
  .ok ({ saved with depth := saved.depth + 1, allowsKey := true }.step token)

/-- Adds a closing bracket; one that was never opened is wrong. -/
def closeBracket (scan : Scan) (token : Token) : Except Fault Scan := do
  let cleared ← scan.dropCandidate
  match cleared.depth with
  | 0 => .error .malformed
  | depth + 1 => .ok ({ cleared with depth, allowsKey := false }.step token)

/-- Adds a token that may be a key. -/
def keyToken (scan : Scan) (found : Except Fault (Token × Cursor)) : Except Fault Scan := do
  let saved ← scan.saveCandidate
  let (token, cursor) ← found
  .ok { saved.push [token] with cursor, allowsKey := false }

/-- Adds a document marker. -/
def documentMark (scan : Scan) (token : Token) : Except Fault Scan := do
  let cleared ← (scan.unwind (-1)).dropCandidate
  .ok { cleared.push [token] with cursor := cleared.cursor.skip 3, allowsKey := false }

/-- Adds a directive. -/
def directiveMark (scan : Scan) : Except Fault Scan := do
  let cleared ← (scan.unwind (-1)).dropCandidate
  let (directive, cursor) ← cleared.cursor.directive
  .ok { cleared.push [.directive directive] with cursor, allowsKey := false }

/-- Adds a block scalar. -/
def blockScalar (scan : Scan) (isFolded : Bool) : Except Fault Scan := do
  let cleared ← scan.dropCandidate
  let (text, cursor) ← cleared.cursor.block isFolded cleared.indent
  .ok { cleared.push [.scalar false text] with cursor, allowsKey := true }

/-- Adds a plain scalar; after a line break, a key may follow. -/
def plainScalar (scan : Scan) : Except Fault Scan := do
  let saved ← scan.saveCandidate
  let (text, cursor, allowsKey) := saved.cursor.plain (0 < saved.depth) (saved.indent + 1)
  .ok { saved.push [.scalar true text] with cursor, allowsKey }

/-- Whether a plain scalar may start with the given text. -/
def startsPlain (inFlow : Bool) : List Char → Bool
  | [] => false
  | c :: rest =>
    !(isSpace c || "-?:,[]\x7b\x7d#&*!|>'\"%@\x60".toList.contains c) ||
      (!startsSpace rest && (c == '-' || (!inFlow && (c == '?' || c == ':'))))

/-- Adds the token that starts with `c`, after which `rest` follows. -/
def addToken (scan : Scan) (c : Char) (rest : List Char) : Except Fault Scan :=
  let inFlow := 0 < scan.depth
  let cursor := scan.cursor
  let startsLine := cursor.column = 0
  let standsAlone := startsSpace rest
  if c == '%' && startsLine then scan.directiveMark
  else if startsLine && startsMarker '-' (c :: rest) then scan.documentMark .documentStart
  else if startsLine && startsMarker '.' (c :: rest) then scan.documentMark .documentEnd
  else if c == '[' then scan.openBracket .flowSequenceStart
  else if c == '{' then scan.openBracket .flowMappingStart
  else if c == ']' then scan.closeBracket .flowSequenceEnd
  else if c == '}' then scan.closeBracket .flowMappingEnd
  else if c == ',' then do
    let cleared ← scan.dropCandidate
    .ok ({ cleared with allowsKey := true }.step .flowEntry)
  else if c == '-' && standsAlone then scan.blockMark .blockSequenceStart .blockEntry true
  else if c == '?' && (inFlow || standsAlone) then scan.blockMark .blockMappingStart .key (!inFlow)
  else if c == ':' && (inFlow || standsAlone) then scan.valueMark
  else if c == '*' then
    scan.keyToken (cursor.next.anchorName.map fun (name, after) => (.alias name, after))
  else if c == '&' then
    scan.keyToken (cursor.next.anchorName.map fun (name, after) => (.anchor name, after))
  else if c == '!' then scan.keyToken cursor.tagToken
  else if c == '|' && !inFlow then scan.blockScalar false
  else if c == '>' && !inFlow then scan.blockScalar true
  else if c == '\'' || c == '"' then
    scan.keyToken ((cursor.quoted c).map fun (text, after) => (.scalar false text, after))
  else if startsPlain inFlow (c :: rest) then scan.plainScalar
  else .error .malformed

/-! ### All tokens -/

/-- The scan at the next token: spaces, comments and line breaks are skipped, at most `fuel` line
breaks.  Outside brackets a key may follow a line break. -/
def toToken : Nat → Scan → Scan
  | 0, scan => scan
  | fuel + 1, scan =>
    let start := (scan.cursor.skipWhile (· == ' ')).skipComment
    match start.lineBreak? with
    | some (_, after) =>
      toToken fuel { scan with cursor := after, allowsKey := scan.allowsKey || scan.depth = 0 }
    | none => { scan with cursor := start }

/-- The tokens of a text, at most `fuel` steps. -/
def run : Nat → Scan → Except Fault (List Token)
  | 0, _ => .error .malformed
  | fuel + 1, scan => do
    let ready ← (scan.toToken (scan.cursor.rest.length + 1)).dropStale
    let unwound := ready.unwind ready.cursor.column
    match unwound.cursor.rest with
    | [] => do
      let final ← (unwound.unwind (-1)).dropCandidate
      .ok final.tokens.toList
    | c :: rest => do
      let next ← unwound.addToken c rest
      run fuel next

end Scan

/-- The characters that may stand in a text. -/
def isPermitted (c : Char) : Bool :=
  let n := c.toNat
  n == 0x09 || n == 0x0A || n == 0x0D || (0x20 ≤ n && n ≤ 0x7E) || n == 0x85 ||
    (0xA0 ≤ n && n ≤ 0xFFFD) || 0x10000 ≤ n

/-- The tokens of a text; a byte order mark at its start is skipped. -/
def tokens (text : List Char) : Except Fault (List Token) :=
  if text.all isPermitted then
    let start : Cursor := ⟨text, 0, 0, 0⟩
    let cursor := if start.peek? = some '\ufeff' then start.next else start
    Scan.run (text.length + 1) { cursor }
  else .error .malformed

end LiveDeck.Yaml
