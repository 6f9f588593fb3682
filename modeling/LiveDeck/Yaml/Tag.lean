import LiveDeck.Text.Pattern

/-! # Tags

The type of a node.  A plain scalar without a tag has the type whose notation its text has, and
is text if it has none. -/

namespace LiveDeck.Yaml

open Text (Pattern)

/-- The type of a node; `merge` and `value` are those of the special keys, and `unknown` stands
for every type that is none of the language's own. -/
inductive Tag where
  | null
  | bool
  | int
  | float
  | timestamp
  | str
  | binary
  | seq
  | map
  | set
  | omap
  | pairs
  | merge
  | value
  | unknown
  deriving DecidableEq, Repr, Inhabited

namespace Tag

/-! ### Tags by name -/

/-- What the names of the language's own types start with. -/
def namespaceName : String := "tag:yaml.org,2002:"

/-- The types by the end of their names. -/
def names : List (String × Tag) :=
  [("null", .null), ("bool", .bool), ("int", .int), ("float", .float), ("timestamp", .timestamp),
    ("str", .str), ("binary", .binary), ("seq", .seq), ("map", .map), ("set", .set),
    ("omap", .omap), ("pairs", .pairs), ("merge", .merge), ("value", .value)]

/-- The type with a full name. -/
def ofName (name : List Char) : Tag :=
  let start := namespaceName.toList
  if start.isPrefixOf name then (names.lookup (String.ofList (name.drop start.length))).getD .unknown
  else .unknown

/-! ### Tags by notation -/

def digit : Pattern := .one Char.isDigit

def digits (n : Nat) : Pattern := .many Char.isDigit n (some n) false

def someDigits : Pattern := .greedy1 Char.isDigit

def oneOrTwoDigits : Pattern := .many Char.isDigit 1 (some 2) false

def sign : Pattern := .opt (.oneOf "-+")

/-- Digits to a base, and underscores. -/
def spaced (digits : String) : Pattern := .greedy fun c => digits.toList.contains c || c == '_'

def spaced1 (digits : String) : Pattern := .greedy1 fun c => digits.toList.contains c || c == '_'

def decimal : String := "0123456789"

/-- Sixty-based digits after colons. -/
def sixties : Pattern := .plus (.all [.exactly ":", .opt (.oneOf "012345"), digit])

def exponent : Pattern := .opt (.all [.oneOf "eE", .oneOf "-+", someDigits])

def floatNotation : Pattern :=
  .any [.all [sign, digit, spaced decimal, .exactly ".", spaced decimal, exponent],
    .all [.exactly ".", digit, spaced decimal, exponent],
    .all [sign, digit, spaced decimal, sixties, .exactly ".", spaced decimal],
    .all [sign, .exactly ".", .any [.exactly "inf", .exactly "Inf", .exactly "INF"]],
    .all [.exactly ".", .any [.exactly "nan", .exactly "NaN", .exactly "NAN"]]]

def intNotation : Pattern :=
  .any [.all [sign, .exactly "0b", spaced1 "01"],
    .all [sign, .exactly "0", spaced1 "01234567"],
    .all [sign, .alt (.exactly "0") (.seq (.oneOf "123456789") (spaced decimal))],
    .all [sign, .exactly "0x", spaced1 "0123456789abcdefABCDEF"],
    .all [sign, .oneOf "123456789", spaced decimal, sixties]]

/-- Spaces and tabs. -/
def gap : Pattern := .greedy fun c => c == ' ' || c == '\t'

def gap1 : Pattern := .greedy1 fun c => c == ' ' || c == '\t'

def zone : Pattern :=
  .seq gap (.alt (.exactly "Z")
    (.all [.oneOf "-+", oneOrTwoDigits, .opt (.all [.exactly ":", digits 2])]))

def timestampNotation : Pattern :=
  .alt (.all [digits 4, .exactly "-", digits 2, .exactly "-", digits 2, .lastLineEnd])
    (.all [digits 4, .exactly "-", oneOrTwoDigits, .exactly "-", oneOrTwoDigits,
      .alt (.oneOf "Tt") gap1, oneOrTwoDigits, .exactly ":", digits 2, .exactly ":", digits 2,
      .opt (.seq (.exactly ".") (.greedy Char.isDigit)), .opt zone])

/-- The texts that stand for nothing. -/
def nullTexts : List String := ["", "~", "null", "Null", "NULL"]

/-- The texts that stand for a truth value. -/
def boolTexts : List String :=
  ["yes", "Yes", "YES", "no", "No", "NO", "true", "True", "TRUE", "false", "False", "FALSE",
    "on", "On", "ON", "off", "Off", "OFF"]

/-- Whether a text has a notation as a whole. -/
def isWritten (form : Pattern) (text : List Char) : Bool :=
  (Pattern.seq form .lastLineEnd).matchesStart text.toArray

/-- The type of a plain scalar. -/
def ofPlain (text : List Char) : Tag :=
  let whole := String.ofList text
  if boolTexts.contains whole then .bool
  else if isWritten floatNotation text then .float
  else if isWritten intNotation text then .int
  else if whole = "<<" then .merge
  else if nullTexts.contains whole then .null
  else if isWritten timestampNotation text then .timestamp
  else if whole = "=" then .value
  else .str

end Tag

end LiveDeck.Yaml
