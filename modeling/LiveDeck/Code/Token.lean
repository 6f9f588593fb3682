/-! # Tokens of program code

A token is a piece of code with its kind; `TokenKind.cssClass?` is the class under which a
stylesheet refers to the kind.  Plain text has none. -/

namespace LiveDeck.Code

/-- What a piece of code is. -/
inductive TokenKind where
  | text
  | whitespace
  | error
  | keyword
  | keywordConstant
  | keywordNamespace
  | name
  | nameAttribute
  | nameBuiltin
  | namePseudo
  | nameClass
  | nameDecorator
  | nameException
  | nameFunction
  | nameMagicFunction
  | nameNamespace
  | nameTag
  | nameMagicVariable
  | integer
  | float
  | hexadecimal
  | octal
  | binary
  | string
  | stringAffix
  | stringDoc
  | stringDouble
  | stringSingle
  | stringEscape
  | stringInterpolation
  | operator
  | operatorWord
  | punctuation
  | commentSingle
  | commentMultiline
  | commentHashbang
  | deleted
  | heading
  | inserted
  | output
  | strong
  | subheading
  deriving DecidableEq, Repr

namespace TokenKind

/-- The class of a kind in stylesheets. -/
def cssClass? : TokenKind → Option String
  | .text => none
  | .whitespace => some "w"
  | .error => some "err"
  | .keyword => some "k"
  | .keywordConstant => some "kc"
  | .keywordNamespace => some "kn"
  | .name => some "n"
  | .nameAttribute => some "na"
  | .nameBuiltin => some "nb"
  | .namePseudo => some "bp"
  | .nameClass => some "nc"
  | .nameDecorator => some "nd"
  | .nameException => some "ne"
  | .nameFunction => some "nf"
  | .nameMagicFunction => some "fm"
  | .nameNamespace => some "nn"
  | .nameTag => some "nt"
  | .nameMagicVariable => some "vm"
  | .integer => some "mi"
  | .float => some "mf"
  | .hexadecimal => some "mh"
  | .octal => some "mo"
  | .binary => some "mb"
  | .string => some "s"
  | .stringAffix => some "sa"
  | .stringDoc => some "sd"
  | .stringDouble => some "s2"
  | .stringSingle => some "s1"
  | .stringEscape => some "se"
  | .stringInterpolation => some "si"
  | .operator => some "o"
  | .operatorWord => some "ow"
  | .punctuation => some "p"
  | .commentSingle => some "c1"
  | .commentMultiline => some "cm"
  | .commentHashbang => some "ch"
  | .deleted => some "gd"
  | .heading => some "gh"
  | .inserted => some "gi"
  | .output => some "go"
  | .strong => some "gs"
  | .subheading => some "gu"

end TokenKind

/-- A piece of code and its kind. -/
structure Token where
  kind : TokenKind
  text : List Char
  deriving DecidableEq, Repr

/-- Cuts code into tokens. -/
abbrev Lexer := List Char → List Token

end LiveDeck.Code
