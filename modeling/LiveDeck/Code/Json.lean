import LiveDeck.Code.Token
import LiveDeck.Text.Blank

/-! # JSON

JSON is cut into runs: blanks, constants, numbers, punctuation, strings and comments.  Nothing
is checked beyond the characters of a run, so `--1--` is a number.  A string is the name of a
member if a colon follows it, blanks, comments and other strings apart. -/

namespace LiveDeck.Code.Json

def isBlank (c : Char) : Bool := c == ' ' || c == '\n' || c == '\r' || c == '\t'

def startsNumber (c : Char) : Bool := c.isDigit || c == '-'

def continuesNumber (c : Char) : Bool :=
  startsNumber c || c == '.' || c == 'e' || c == 'E' || c == '+'

def startsConstant (c : Char) : Bool := c == 'f' || c == 'n' || c == 't'

def continuesConstant (c : Char) : Bool := "truefalsn".toList.contains c

def continuesPunctuation (c : Char) : Bool := "\x7b\x7d[],".toList.contains c

def isHexDigit (c : Char) : Bool :=
  c.isDigit || ('a' ≤ c && c ≤ 'f') || ('A' ≤ c && c ≤ 'F')

/-- The rest of a string up to its closing quote, and what follows it; `none` if it never
closes.  The counter is `some 0` just after a backslash and `some n` while `n` hexadecimal
digits of a `\u` escape are to come. -/
def stringRest : Option Nat → List Char → Option (List Char × List Char)
  | _, [] => none
  | none, '"' :: s => some (['"'], s)
  | none, c :: s =>
    (stringRest (if c = '\\' then some 0 else none) s).map fun (text, rest) => (c :: text, rest)
  | some 0, c :: s =>
    (stringRest (if c = 'u' then some 4 else none) s).map fun (text, rest) => (c :: text, rest)
  | some (n + 1), c :: s =>
    (stringRest (if isHexDigit c && n != 0 then some n else none) s).map
      fun (text, rest) => (c :: text, rest)

/-- The rest of a block comment up to its end, and what follows it. -/
def commentRest : List Char → Option (List Char × List Char)
  | [] => none
  | '*' :: '/' :: s => some (['*', '/'], s)
  | c :: s => (commentRest s).map fun (text, rest) => (c :: text, rest)

/-- The first token of code that is not empty. -/
def token (c : Char) (s : List Char) : Token :=
  if c = '"' then
    match stringRest none s with
    | some (text, _) => ⟨.stringDouble, c :: text⟩
    | none => ⟨.error, c :: s⟩
  else if isBlank c then ⟨.whitespace, c :: s.takeWhile isBlank⟩
  else if startsConstant c then ⟨.keywordConstant, c :: s.takeWhile continuesConstant⟩
  else if startsNumber c then
    let digits := s.takeWhile continuesNumber
    ⟨if digits.all startsNumber then .integer else .float, c :: digits⟩
  else if c = ':' || continuesPunctuation c then
    ⟨.punctuation, c :: s.takeWhile continuesPunctuation⟩
  else if c = '/' then
    match s with
    | '/' :: line => ⟨.commentSingle, c :: '/' :: line.takeWhile (· != '\n')⟩
    | '*' :: block =>
      match commentRest block with
      | some (text, _) => ⟨.commentMultiline, c :: '*' :: text⟩
      | none => ⟨.error, c :: s⟩
    | _ => ⟨.error, [c]⟩
  else ⟨.error, [c]⟩

/-- The tokens of code; `fuel` is at least its length. -/
def tokens : Nat → List Char → List Token
  | _, [] => []
  | 0, _ => []
  | fuel + 1, c :: s =>
    let first := token c s
    first :: tokens fuel (s.drop (first.text.length - 1))

/-- Whether a token may stand between the name of a member and its colon. -/
def isTransparent (token : Token) : Bool :=
  token.kind == .stringDouble || token.kind == .whitespace ||
    token.kind == .commentSingle || token.kind == .commentMultiline

/-- Marks the strings that name a member. -/
def markNames : List Token → List Token
  | [] => []
  | first :: rest =>
    let named := match rest.dropWhile isTransparent with
      | next :: _ => next.text.head? == some ':'
      | [] => false
    (if first.kind == .stringDouble && named then { first with kind := .nameTag } else first) ::
      markNames rest

/-- Cuts JSON into tokens. -/
def lexer : Lexer := fun code => markNames (tokens code.length code)

end LiveDeck.Code.Json
