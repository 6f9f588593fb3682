import LiveDeck.Markdown.Construct
import LiveDeck.Markdown.Delimiter
import LiveDeck.Text.Utf8

/-! # Reading inline content

`Inline.read` reads the elements of a content.  Content is read from left to right into pieces:
the text of a link is read in between the pieces that open and close it, the description of an
image by itself.  At the end the delimiters are paired and the pieces nested. -/

namespace LiveDeck.Markdown

open Text

/-- How deep links may be nested. -/
def maxNesting : Nat := 20

/-- Why a content has no elements: they do not nest, or an address cannot be encoded. -/
inductive InlineFault where
  | unbalanced
  | unencodable
  deriving DecidableEq, Repr

/-- The text of a fault.  An address is encoded one code point or one pair of surrogates at a
time, so a pair is always found at its start. -/
def InlineFault.message : InlineFault → String
  | .unbalanced => "Invalid token nesting"
  | .unencodable => Utf8.Unencodable.message ⟨0, 0, 2⟩

/-- What has been read: the pieces, the text after the last of them (backwards), the delimiters
of the innermost open link, those of the others, and what has gone wrong. -/
structure Draft where
  pieces : Array Piece := #[]
  pending : List Char := []
  delimiters : Array Delimiter := #[]
  finished : List (Array Delimiter) := []
  fault? : Option InlineFault := none

namespace Draft

/-- Makes a piece of the pending text. -/
def flush (draft : Draft) : Draft :=
  if draft.pending.isEmpty then draft
  else { draft with pieces := draft.pieces.push (.text draft.pending.reverse), pending := [] }

/-- Adds a piece after the pending text. -/
def push (draft : Draft) (piece : Piece) : Draft :=
  let flushed := draft.flush
  { flushed with pieces := flushed.pieces.push piece }

/-- Adds text. -/
def append (draft : Draft) (text : List Char) : Draft :=
  { draft with pending := text.reverse ++ draft.pending }

/-- Adds the break that a line feed makes: a hard one after two spaces. -/
def breakLine (draft : Draft) : Draft :=
  match draft.pending with
  | ' ' :: ' ' :: rest =>
    { draft with pending := rest.dropWhile (· == ' ') }.push (.element .hardBreak)
  | ' ' :: rest => { draft with pending := rest }.push (.element .softBreak)
  | _ => draft.push (.element .softBreak)

/-- Adds a delimiter and the piece that holds it. -/
def delimit (text : List Char) (length : Nat) (opens closes : Bool) (draft : Draft) : Draft :=
  let pushed := draft.push (.text text)
  let delimiter : Delimiter :=
    { mark := text.headD ' ', length, piece := pushed.pieces.size - 1, opens, closes }
  { pushed with delimiters := pushed.delimiters.push delimiter }

/-- Whether attributes in braces may follow. -/
def attaches (draft : Draft) : Bool :=
  draft.pending.isEmpty &&
    match draft.pieces.back? with
    | some (.element (.code _ _)) => true
    | some (.element (.image _ _)) => true
    | some (.closing (.link _)) => true
    | _ => false

/-- The position of the piece that opens the link closed before position `i`, where `level` links
are open. -/
def linkStart? (pieces : Array Piece) : Nat → Nat → Option Nat
  | 0, _ => none
  | i + 1, level =>
    match pieces[i]? with
    | some (.closing _) => linkStart? pieces i (level + 1)
    | some (.opening _) => if level ≤ 1 then some i else linkStart? pieces i (level - 1)
    | _ => linkStart? pieces i level

/-- Adds attributes to a piece that carries attributes. -/
def withAttributes (group : Attributes) : Piece → Piece
  | .element (.code attributes content) => .element (.code (attributes.merge group) content)
  | .element (.image attributes children) => .element (.image (attributes.merge group) children)
  | .opening (.link attributes) => .opening (.link (attributes.merge group))
  | piece => piece

/-- Adds attributes to the last element. -/
def attach (draft : Draft) (group : Attributes) : Draft :=
  let last := draft.pieces.size - 1
  let i := match draft.pieces.back? with
    | some (.closing _) => (linkStart? draft.pieces draft.pieces.size 0).getD last
    | _ => last
  { draft with pieces := draft.pieces.modify i (withAttributes group) }

/-- Notes a fault.  Elements are nested after all addresses have been encoded. -/
def blame (draft : Draft) (fault : InlineFault) : Draft :=
  if draft.fault? = some .unencodable then draft else { draft with fault? := some fault }

/-- The elements of a finished draft. -/
def tree (joinEscaped : Bool) (draft : Draft) : Except InlineFault (List Inline) :=
  match draft.fault? with
  | some fault => .error fault
  | none =>
    let pieces := applyPairs (draft.delimiters :: draft.finished) draft.pieces
    match Piece.tree? joinEscaped pieces.toList with
    | some inlines => .ok inlines
    | none => .error .unbalanced

end Draft

/-! ### Runs of delimiters -/

/-- A run of delimiters: its end, and whether it may open and close. -/
structure DelimiterRun where
  stop : Nat
  opens : Bool
  closes : Bool
  deriving Repr

/-- The run at a position; `insideWords` says whether it may open and close inside a word. -/
def delimiterRun (s : Array Char) (limit i : Nat) (mark : Char) (insideWords : Bool) :
    DelimiterRun :=
  let stop := skipWhile s limit (· == mark) i
  let before := match i with
    | 0 => ' '
    | j + 1 => s.getD j ' '
  let after := if stop < limit then s.getD stop ' ' else ' '
  let punctuationBefore := marks.contains before
  let punctuationAfter := marks.contains after
  let spaceBefore := isSpacing before
  let spaceAfter := isSpacing after
  let left := !(spaceAfter || (punctuationAfter && !(spaceBefore || punctuationBefore)))
  let right := !(spaceBefore || (punctuationBefore && !(spaceAfter || punctuationAfter)))
  ⟨stop, left && (insideWords || !right || punctuationBefore),
    right && (insideWords || !left || punctuationAfter)⟩

/-- Adds `n` delimiters with the given text. -/
def addDelimiters (text : List Char) (length : Nat) (run : DelimiterRun) : Nat → Draft → Draft
  | 0, draft => draft
  | n + 1, draft =>
    addDelimiters text length run n (draft.delimit text length run.opens run.closes)

/-- Adds the run of delimiters at a position; `none` if the character there is none. -/
def addRun? (s : Array Char) (limit i : Nat) (draft : Draft) : Option (Nat × Draft) :=
  match s[i]? with
  | some '~' =>
    let run := delimiterRun s limit i '~' true
    let length := run.stop - i
    if length < 2 then none
    else
      let lone := if length % 2 = 1 then draft.push (.text ['~']) else draft
      some (run.stop, addDelimiters ['~', '~'] 0 run (length / 2) lone)
  | some c =>
    if c = '*' || c = '_' then
      let run := delimiterRun s limit i c (c = '*')
      some (run.stop, addDelimiters [c] (run.stop - i) run (run.stop - i) draft)
    else none
  | none => none

/-! ### Reading -/

/-- The attributes of a link or an image; a title that is empty is left out. -/
def targetAttributes (key : String) (extra : Attributes) (target : LinkTarget) : Attributes :=
  (key, String.ofList target.href) :: extra ++
    if target.title.isEmpty then [] else [("title", String.ofList target.title)]

/-- Reads content between two positions into a draft. -/
abbrev ReadPart := Nat → Nat → Memory → Draft → Memory × Draft

/-- Adds a construct.  `readPart` reads the text of a link, `describe` the description of an
image. -/
def addConstruct (s : Array Char) (describe : List Char → Except InlineFault (List Inline))
    (readPart : ReadPart) (i : Nat) (found : Found) (memory : Memory) (draft : Draft) :
    Memory × Draft :=
  match found.construct with
  | .plain => (memory, draft.append (slice s i found.stop))
  | .feed => (memory, draft.breakLine)
  | .hardBreak => (memory, draft.push (.element .hardBreak))
  | .escaped content => (memory, draft.push (.escaped content))
  | .code content => (memory, draft.push (.element (.code [] content)))
  | .math content => (memory, draft.push (.element (.math content)))
  | .html => (memory, draft.push (.element (.html (slice s i found.stop))))
  | .note => (memory, draft.push (.element .footnoteReference))
  | .group attributes => (memory, draft.attach attributes)
  | .unencodable => (memory, draft.blame .unencodable)
  | .autolink href shown =>
    let span := Span.link [("href", String.ofList href)]
    (memory, ((draft.push (.opening span)).push (.text shown)).push (.closing span))
  | .image labelStart labelEnd target =>
    let attributes := targetAttributes "src" [("alt", "")] target
    match describe (slice s labelStart labelEnd) with
    | .ok children => (memory, draft.push (.element (.image attributes children)))
    | .error fault => (memory, draft.blame fault)
  | .link labelStart labelEnd target =>
    let span := Span.link (targetAttributes "href" [] target)
    let opened := draft.push (.opening span)
    let (memory, inner) := readPart labelEnd labelStart memory { opened with delimiters := #[] }
    let closed := inner.push (.closing span)
    (memory, { closed with
      delimiters := opened.delimiters
      finished := closed.delimiters :: closed.finished })

/-- Reads what stands at a position: a construct, a run of delimiters, or a character of text. -/
def readNext (scope : Scope) (describe : List Char → Except InlineFault (List Inline))
    (skipper : Skip) (readPart : ReadPart) (limit i : Nat) (memory : Memory) (draft : Draft) :
    Nat × Memory × Draft :=
  let s := scope.source
  match addRun? s limit i draft with
  | some (stop, draft) => (stop, memory, draft)
  | none =>
    match construct? scope skipper draft.attaches limit i memory with
    | (some found, memory) =>
      (found.stop, addConstruct s describe readPart i found memory draft)
    | (none, memory) => (i + 1, memory, draft.append (slice s i (i + 1)))

/-- Repeats a step up to a limit, at most `fuel` times. -/
def readLoop (step : Nat → Memory → Draft → Nat × Memory × Draft) (limit : Nat) :
    Nat → Nat → Memory → Draft → Memory × Draft
  | 0, _, memory, draft => (memory, draft.flush)
  | fuel + 1, i, memory, draft =>
    if limit ≤ i then (memory, draft.flush)
    else
      let (next, memory, draft) := step i memory draft
      readLoop step limit fuel next memory draft

/-- Reads content, where links may be nested `depth` deep; deeper there is only text. -/
def readPart (scope : Scope) (describe : List Char → Except InlineFault (List Inline)) :
    Nat → ReadPart
  | 0, limit, i, memory, draft => (memory, (draft.append (slice scope.source i limit)).flush)
  | d + 1, limit, i, memory, draft =>
    readLoop
      (fun i memory draft =>
        readNext scope describe (skip scope draft.attaches limit (d + 1))
          (readPart scope describe d) limit i memory draft)
      limit (limit - i) i memory draft

namespace Inline

/-- Whether escaped text is joined to other text in a content that stands inside `level`
descriptions. -/
def joinsEscaped (level : Nat) : Bool := level ≤ 1

/-- Reads content that stands inside `level` descriptions and whose own descriptions are nested
less than `depth` deep. -/
def readWithin (references : References) (notes : List (List Char)) :
    Nat → Nat → List Char → Except InlineFault (List Inline)
  | 0, _, _ => .ok []
  | depth + 1, level, content =>
    let source := content.toArray
    let memory : Memory := Array.replicate (source.size + 2) 0
    (readPart ⟨source, references, notes⟩ (readWithin references notes depth (level + 1)) maxNesting
      source.size 0 memory {}).2.tree (joinsEscaped level)

/-- The elements of a content, given the definitions of link references and footnotes.  A
description is shorter than the content that holds it. -/
def read (references : References) (notes : List (List Char)) (content : List Char) :
    Except InlineFault (List Inline) :=
  readWithin references notes (content.length + 1) 0 content

end Inline

end LiveDeck.Markdown
