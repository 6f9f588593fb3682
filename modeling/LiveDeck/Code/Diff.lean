import LiveDeck.Code.Rules

/-! # Differences between files

One rule for each kind of line: context, marked, deleted, inserted, hunk headings, headings,
and anything else. -/

namespace LiveDeck.Code.Diff

open Text (Pattern)

def notFeed (c : Char) : Bool := c != '\n'

/-- The rest of the line. -/
def rest : Pattern := .greedy notFeed

def digit : Char → Bool := Text.decimalDigits.contains

/-- A line number or a range of them. -/
def span : Pattern := .seq (.greedy1 digit) (.opt (.seq (.exactly ",") (.greedy1 digit)))

/-- A change between two ranges of lines; the first of them starts with a single digit. -/
def change : Pattern :=
  .all [.one digit, .opt (.seq (.exactly ",") (.greedy1 digit)), .oneOf "acd", span]

/-- A line of one kind, without its line feed. -/
def line (kind : TokenKind) (pattern : Pattern) : Rule Unit :=
  ⟨[(kind, pattern), (.whitespace, .exactly "\n")], .stay⟩

def rules : List (Rule Unit) :=
  [⟨[(.whitespace, .exactly " "), (.text, rest), (.whitespace, .exactly "\n")], .stay⟩,
    line .strong (.alt (.seq (.exactly "!") rest) (.exactly "---")),
    line .deleted (.seq (.alt (.exactly "< ") (.exactly "-")) rest),
    line .inserted (.seq (.alt (.exactly "> ") (.exactly "+")) rest),
    line .subheading (.alt (.seq (.exactly "@") rest) change),
    line .heading (.seq (.alt (.seq (.oneOf "Ii") (.exactly "ndex")) (.exactly "diff")) rest),
    line .heading (.seq (.exactly "=") rest),
    line .text rest]

/-- Cuts a difference into tokens. -/
def lexer : Lexer := RuleLexer.lexer ⟨(), fun _ => rules⟩

end LiveDeck.Code.Diff
