import LiveDeck.Markdown.HtmlTag
import LiveDeck.Markdown.Inline
import LiveDeck.Markdown.LinkParts
import LiveDeck.Text.Marks

/-! # Inline constructs

`construct?` says what stands at a position of inline content, if it is more than a single
character of text: a run of plain text, a break, a code span, a formula, a link and so on, each
with the position after it.  Constructs that hold a label find its end by skipping over the
constructs inside it; how to skip is a parameter.  An address that cannot be encoded takes up the
rest of the content, for nothing of the content can be read then.

Where skipping from a position ended is remembered. -/

namespace LiveDeck.Markdown

open Text

/-- The content that is read, the link references and the footnote labels that are defined. -/
structure Scope where
  source : Array Char
  references : References
  notes : List (List Char)

/-- What has been found out about a content: the end of the construct at each position, 0 where it
is not known. -/
abbrev Memory := Array Nat

/-- Finds the end of the construct at a position. -/
abbrev Skip := Nat → Memory → Nat × Memory

/-- What stands at a position. -/
inductive Construct where
  | plain
  | feed
  | hardBreak
  | escaped (content : List Char)
  | code (content : List Char)
  | math (content : List Char)
  | link (labelStart labelEnd : Nat) (target : LinkTarget)
  | image (labelStart labelEnd : Nat) (target : LinkTarget)
  | note
  | autolink (href shown : List Char)
  | html
  | group (attributes : Attributes)
  | unencodable
  deriving Repr

/-- A construct and the position after it. -/
structure Found where
  construct : Construct
  stop : Nat
  deriving Repr

/-! ### Text, breaks and formulas -/

/-- The characters at which a construct may start. -/
def startsConstruct (c : Char) : Bool :=
  "\n!#$%&*+-:<=>@[\\]^_\x7b\x7d~".toList.contains c || c == '\x60'

/-- The number of backslashes just before a position.  Before the first character stands, for
this purpose, the last one. -/
def backslashesBefore (s : Array Char) : Nat → Nat
  | 0 => if s.back? == some '\\' then 1 else 0
  | i + 1 => if s[i]? == some '\\' then backslashesBefore s i + 1 else 0

/-- Whether the dollar at a position is escaped: the number of backslashes before it is odd. -/
def isEscapedDollar (s : Array Char) (i : Nat) : Bool := backslashesBefore s i % 2 == 1

/-- The first dollar from a position on that is not escaped, in at most `fuel` steps. -/
def dollarFrom? (s : Array Char) : Nat → Nat → Option Nat
  | 0, _ => none
  | fuel + 1, i =>
    match s[i]? with
    | none => none
    | some c => if c = '$' && !isEscapedDollar s i then some i else dollarFrom? s fuel (i + 1)

/-- The formula that starts with the dollar at a position. -/
def formula? (s : Array Char) (i : Nat) : Option Found :=
  if isEscapedDollar s i then none
  else
    match dollarFrom? s (s.size - i) (i + 1) with
    | some j => if i + 1 = j then none else some ⟨.math (slice s (i + 1) j), j + 1⟩
    | none => none

/-- What the backslash at a position escapes. -/
def escape? (s : Array Char) (limit i : Nat) : Option Found :=
  if i + 1 < limit then
    match s[i + 1]? with
    | none => none
    | some '\n' => some ⟨.hardBreak, skipWhile s limit isGap (i + 2)⟩
    | some c => some ⟨.escaped (if isPunctuation c then [c] else ['\\', c]), i + 2⟩
  else none

/-- The character reference at a position. -/
def reference? (s : Array Char) (limit i : Nat) : Option Found :=
  if i + 1 < limit then
    (textReference? (slice s i (i + 40))).map fun (text, length) => ⟨.escaped text, i + length⟩
  else none

/-! ### Code spans -/

/-- The text of a code span: line feeds are spaces, and one space is taken from either end if
there is one at both and not all are spaces. -/
def codeText (content : List Char) : List Char :=
  let spaced := content.map fun c => if c = '\n' then ' ' else c
  if spaced.head? == some ' ' && spaced.getLast? == some ' ' && !spaced.all (· == ' ')
  then (spaced.drop 1).dropLast else spaced

/-- The first run of exactly `length` backticks from position `i` on, its start and its end, among
at most `fuel` runs. -/
def tickRun? (s : Array Char) (length : Nat) : Nat → Nat → Option (Nat × Nat)
  | 0, _ => none
  | fuel + 1, i =>
    let start := skipWhile s s.size (· != '\x60') i
    if s.size ≤ start then none
    else
      let stop := skipWhile s s.size (· == '\x60') (start + 1)
      if stop - start = length then some (start, stop) else tickRun? s length fuel stop

/-- The code span that starts with the backticks at a position, or else the backticks as text. -/
def ticks (s : Array Char) (i : Nat) : Found :=
  let stop := skipWhile s s.size (· == '\x60') (i + 1)
  match tickRun? s (stop - i) (s.size - stop) stop with
  | some (start, close) => ⟨.code (codeText (slice s stop start)), close⟩
  | none => ⟨.plain, stop⟩

/-! ### Tags and addresses in angle brackets -/

def schemePart (c : Char) : Bool := c.isAlphanum || c == '+' || c == '.' || c == '-'

/-- An absolute address: a scheme of 2 to 32 characters, a colon, and anything but blanks,
control characters and angle brackets. -/
def addressPattern : Pattern :=
  .all [.one Char.isAlpha, .many schemePart 1 (some 31) false, .exactly ":",
    .greedy fun c => HtmlTag.isVisible c && c != '<' && c != '>', .lastLineEnd]

def mailLabel : Pattern :=
  .seq (.one Char.isAlphanum) (.opt (.seq (.many (fun c => c.isAlphanum || c == '-') 0 (some 61)
    false) (.one Char.isAlphanum)))

/-- A mail address. -/
def mailPattern : Pattern :=
  .all [.greedy1 fun c => c.isAlphanum || ".!#$%&'*+/=?^_\x7b|\x7d~-".toList.contains c ||
      c == '\x60',
    .exactly "@", mailLabel, .star (.seq (.exactly ".") mailLabel), .lastLineEnd]

/-- The address in angle brackets at a position. -/
def autolink? (s : Array Char) (limit i : Nat) : Option Found :=
  let stop := skipWhile s limit (fun c => c != '<' && c != '>') (i + 1)
  if stop < limit && s[stop]? = some '>' then
    let address := slice s (i + 1) stop
    let target? :=
      if addressPattern.matchesStart address.toArray then some address
      else if mailPattern.matchesStart address.toArray then some ("mailto:".toList ++ address)
      else none
    match target? with
    | some target =>
      let href := Address.normalize target
      if !Address.isEncodable target then some ⟨.unencodable, limit⟩
      else if Address.isSafe href then some ⟨.autolink href (Address.display address), stop + 1⟩
      else none
    | none => none
  else none

/-- The tag at a position. -/
def tag? (s : Array Char) (limit i : Nat) : Option Found :=
  if i + 2 < limit then (HtmlTag.any.matchEnd? s i).map fun j => ⟨.html, j⟩ else none

/-! ### Links, images and notes -/

/-- The end of the label that opens before position `i`, in at most `fuel` steps.  With `strict`,
a bracketed construct inside the label is a reason to give up. -/
def labelEndFrom (skip : Skip) (s : Array Char) (limit : Nat) (strict : Bool) :
    Nat → Nat → Nat → Memory → Option Nat × Memory
  | 0, _, _, memory => (none, memory)
  | fuel + 1, i, level, memory =>
    if limit ≤ i then (none, memory)
    else
      match s[i]? with
      | none => (none, memory)
      | some c =>
        if c = ']' && level = 1 then (some i, memory)
        else
          let (next, memory) := skip i memory
          let inner := if c = ']' then level - 1 else level
          if c = '[' && next = i + 1 then
            labelEndFrom skip s limit strict fuel next (inner + 1) memory
          else if c = '[' && strict then (none, memory)
          else labelEndFrom skip s limit strict fuel next inner memory

/-- The end of the label whose opening bracket stands at position `i`. -/
def labelEnd (skip : Skip) (s : Array Char) (limit : Nat) (strict : Bool) (i : Nat)
    (memory : Memory) : Option Nat × Memory :=
  labelEndFrom skip s limit strict (limit - i) (i + 1) 1 memory

/-- Whether the destination at a position cannot be encoded. -/
def holdsUnencodable (s : Array Char) (limit i : Nat) : Bool :=
  (destination? s limit i).any fun part => !Address.isEncodable part.text

/-- What follows the opening parenthesis of a destination: the target as far as it could be read
and the position reached. -/
def linkBody (s : Array Char) (limit i : Nat) : LinkTarget × Nat :=
  let skipGap := skipWhile s limit isGapOrFeed
  let (href, afterHref) : List Char × Nat := match destination? s limit i with
    | some part =>
      let href := Address.normalize part.text
      if Address.isSafe href then (href, part.stop) else ([], i)
    | none => ([], i)
  let j := skipGap afterHref
  match title? s limit j with
  | some part =>
    if j < limit && afterHref != j then (⟨href, part.text⟩, skipGap part.stop)
    else (⟨href, []⟩, j)
  | none => (⟨href, []⟩, j)

/-- The body of a link, where the title is looked for only after a destination. -/
def linkBodyAfterDestination (s : Array Char) (limit i : Nat) : LinkTarget × Nat :=
  match destination? s limit i with
  | some _ => linkBody s limit i
  | none => (⟨[], []⟩, i)

/-- The target that a label refers to, where position `i` follows the label of the text between
`labelStart` and `labelEnd`: a label of its own may follow. -/
def referredTarget (scope : Scope) (skip : Skip) (limit i labelStart labelEnd : Nat)
    (memory : Memory) : Option (LinkTarget × Nat) × Memory :=
  if scope.references.isEmpty then (none, memory)
  else
    let s := scope.source
    let own := slice s labelStart labelEnd
    let (label, stop, memory) : List Char × Nat × Memory :=
      if i < limit && s[i]? = some '[' then
        match Markdown.labelEnd skip s limit false i memory with
        | (some j, memory) =>
          let label := slice s (i + 1) j
          (if label.isEmpty then own else label, j + 1, memory)
        | (none, memory) => (own, labelEnd + 1, memory)
      else (own, labelEnd + 1, memory)
    ((scope.references.lookup (normalizeLabel label)).map fun target => (target, stop), memory)

/-- The link at a position. -/
def link? (scope : Scope) (skip : Skip) (limit i : Nat) (memory : Memory) :
    Option Found × Memory :=
  let s := scope.source
  match labelEnd skip s limit true i memory with
  | (none, memory) => (none, memory)
  | (some close, memory) =>
    let referred := fun (from' : Nat) =>
      match referredTarget scope skip limit from' (i + 1) close memory with
      | (some (target, stop), memory) => (some ⟨.link (i + 1) close target, stop⟩, memory)
      | (none, memory) => (none, memory)
    if close + 1 < limit && s[close + 1]? = some '(' then
      let start := skipWhile s limit isGapOrFeed (close + 2)
      if limit ≤ start then (none, memory)
      else if holdsUnencodable s limit start then (some ⟨.unencodable, limit⟩, memory)
      else
        let (target, stop) := linkBodyAfterDestination s limit start
        if stop < limit && s[stop]? = some ')' then
          (some ⟨.link (i + 1) close target, stop + 1⟩, memory)
        else referred (stop + 1)
    else referred (close + 1)

/-- The image at a position. -/
def image? (scope : Scope) (skip : Skip) (limit i : Nat) (memory : Memory) :
    Option Found × Memory :=
  let s := scope.source
  if i + 1 < limit && s[i + 1]? = some '[' then
    match labelEnd skip s limit false (i + 1) memory with
    | (none, memory) => (none, memory)
    | (some close, memory) =>
      if close + 1 < limit && s[close + 1]? = some '(' then
        let start := skipWhile s limit isGapOrFeed (close + 2)
        if limit ≤ start then (none, memory)
        else if holdsUnencodable s limit start then (some ⟨.unencodable, limit⟩, memory)
        else
          let (target, stop) := linkBody s limit start
          if stop < limit && s[stop]? = some ')' then
            (some ⟨.image (i + 2) close target, stop + 1⟩, memory)
          else (none, memory)
      else
        match referredTarget scope skip limit (close + 1) (i + 2) close memory with
        | (some (target, stop), memory) => (some ⟨.image (i + 2) close target, stop⟩, memory)
        | (none, memory) => (none, memory)
  else (none, memory)

/-- The note written in place at a position. -/
def note? (scope : Scope) (skip : Skip) (limit i : Nat) (memory : Memory) :
    Option Found × Memory :=
  if i + 2 < limit && scope.source[i + 1]? = some '[' then
    match labelEnd skip scope.source limit false (i + 1) memory with
    | (some close, memory) => (some ⟨.note, close + 1⟩, memory)
    | (none, memory) => (none, memory)
  else (none, memory)

/-- The reference to a footnote at a position. -/
def noteReference? (scope : Scope) (limit i : Nat) : Option Found :=
  let s := scope.source
  if i + 3 ≤ limit && s[i + 1]? = some '^' then
    let stop := skipWhile s limit (fun c => c != ' ' && c != '\n' && c != ']') (i + 2)
    if i + 2 < stop && stop < limit && s[stop]? = some ']' &&
        scope.notes.contains (slice s (i + 2) stop)
    then some ⟨.note, stop + 1⟩ else none
  else none

/-! ### All of them -/

/-- What stands at a position, where `skip` finds the end of a construct inside a label and
`attach` says whether attributes in braces may follow. -/
def construct? (scope : Scope) (skip : Skip) (attach : Bool) (limit i : Nat) (memory : Memory) :
    Option Found × Memory :=
  let s := scope.source
  match s[i]? with
  | none => (none, memory)
  | some '\n' => (some ⟨.feed, skipWhile s limit isGap (i + 1)⟩, memory)
  | some '$' => (formula? s i, memory)
  | some '\\' => (escape? s limit i, memory)
  | some '\x60' => (some (ticks s i), memory)
  | some '[' =>
    match link? scope skip limit i memory with
    | (some found, memory) => (some found, memory)
    | (none, memory) => (noteReference? scope limit i, memory)
  | some '!' => image? scope skip limit i memory
  | some '^' => note? scope skip limit i memory
  | some '<' =>
    match autolink? s limit i with
    | some found => (some found, memory)
    | none => (tag? s limit i, memory)
  | some '&' => (reference? s limit i, memory)
  | some '{' =>
    if attach then
      ((Group.read? (slice s i s.size)).map fun (attributes, length) =>
        ⟨.group attributes, i + length⟩, memory)
    else (none, memory)
  | some c =>
    if startsConstruct c then (none, memory)
    else (some ⟨.plain, skipWhile s limit (fun c => !startsConstruct c) i⟩, memory)

/-- Skips over the construct at a position, where constructs may be nested `depth` deep. -/
def skip (scope : Scope) (attach : Bool) (limit : Nat) : Nat → Skip
  | depth, i, memory =>
    match memory.getD i 0 with
    | known + 1 => (known + 1, memory)
    | 0 =>
      let remember := fun (stop : Nat) (memory : Memory) => (stop, memory.setIfInBounds i stop)
      match depth with
      | 0 => remember (limit + 1) memory
      | d + 1 =>
        match construct? scope (skip scope attach limit d) attach limit i memory with
        | (some found, memory) => remember found.stop memory
        | (none, memory) => remember (i + 1) memory

end LiveDeck.Markdown
