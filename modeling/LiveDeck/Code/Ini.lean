import LiveDeck.Code.Rules
import LiveDeck.Text.Blank

/-! # Configuration files

Sections in brackets, keys with values, and comments.  A value is quoted, continued on the next
line after a backslash, or runs to the end of the line or to a comment. -/

namespace LiveDeck.Code.Ini

open Text (Pattern isBlank)

/-- Where the lexer stands: between entries, in a quoted value, or in a continued value. -/
inductive State where
  | root
  | quotedValue
  | value
  deriving DecidableEq, Repr

def isGap (c : Char) : Bool := c == ' ' || c == '\t'

def isQuote (c : Char) : Bool := c == '"' || c == '\''

def notFeed (c : Char) : Bool := c != '\n'

def gap : Pattern := .greedy isGap

/-- What may stand in a value outside quotes. -/
def isPlain (c : Char) : Bool := c != ';' && c != '#' && c != '\n'

def plainWord (c : Char) : Bool := isPlain c && c != ' '

def comment : Pattern := .seq (.oneOf ";#") (.greedy notFeed)

/-- The key, the gap, the sign and the gap in front of a value. -/
def key : List (TokenKind × Pattern) :=
  [(.nameAttribute, .lazy notFeed), (.whitespace, gap), (.operator, .oneOf "=:"),
    (.whitespace, gap)]

def rules : State → List (Rule State)
  | .root =>
    [.token .whitespace (.greedy1 isBlank),
      .token .commentSingle comment,
      ⟨[(.keyword, .all [.exactly "[", .lazy notFeed, .exactly "]"]),
        (.whitespace, .seq gap .lineEnd)], .stay⟩,
      ⟨key ++ [(.string, .one isQuote)], .enter .quotedValue⟩,
      ⟨key ++ [(.string, .greedy isPlain), (.text, .exactly "\\"),
        (.whitespace, .greedy1 isBlank)], .enter .value⟩,
      ⟨key ++ [(.string, .seq (.greedy plainWord)
        (.star (.seq (.greedy1 (· == ' ')) (.greedy1 plainWord))))], .stay⟩,
      .token .nameAttribute (.seq (.many notFeed 1 none true) .lineEnd)]
  | .quotedValue =>
    [⟨[(.string, .seq (.greedy fun c => !isQuote c && notFeed c) (.one isQuote)),
        (.whitespace, .greedy isBlank)], .leave⟩,
      .token .commentSingle comment,
      .token .string .lineEnd .leave]
  | .value =>
    [.token .whitespace (.greedy1 isBlank),
      ⟨[(.whitespace, .greedy isBlank), (.string, .greedy notFeed), (.text, .exactly "\\"),
        (.whitespace, gap)], .stay⟩,
      .token .string (.seq (.greedy notFeed) .lineEnd) .leave]

/-- Cuts a configuration file into tokens. -/
def lexer : Lexer := RuleLexer.lexer ⟨.root, rules⟩

end LiveDeck.Code.Ini
