import LiveDeck.Code.Rules
import LiveDeck.Text.Blank

/-! # Python

Statements and expressions, the names after `def`, `class`, `import` and `from`, and string
literals with their escapes and format specifications. -/

namespace LiveDeck.Code.Python

open Text (Pattern isBlank)

/-- The quotes around a string literal. -/
inductive Quotes where
  | double
  | single
  | doubleTriple
  | singleTriple
  deriving DecidableEq, Repr

/-- Which escapes a string literal knows: none, those of bytes, or those of text. -/
inductive Escapes where
  | raw
  | bytes
  | text
  deriving DecidableEq, Repr

/-- Where the lexer stands. -/
inductive State where
  | root
  | functionName
  | className
  | importNames
  | importSource
  | string (quotes : Quotes) (escapes : Escapes)
  deriving DecidableEq, Repr

/-! ### Characters and words -/

def notFeed (c : Char) : Bool := c != '\n'

def digit : Char → Bool := Text.decimalDigits.contains

def wordCharacter : Char → Bool := Text.wordCharacters.contains

def isHexDigit (c : Char) : Bool :=
  c.isDigit || ('a' ≤ c && c ≤ 'f') || ('A' ≤ c && c ≤ 'F')

/-- An identifier. -/
def name : Pattern :=
  .seq (.one Text.identifierStarts.contains) (.greedy Text.identifierParts.contains)

/-- One of the given words; where one starts another, the longer comes first. -/
def wordOf (words : List String) : Pattern := .seq (.any (words.map .exactly)) .wordEdge

def notAfterDot : Pattern := .notAfter (· == '.')

def keywords : List String :=
  ["assert", "async", "await", "break", "continue", "del", "elif", "else", "except", "finally",
    "for", "global", "if", "lambda", "pass", "raise", "nonlocal", "return", "try", "while",
    "yield from", "yield", "as", "with"]

def builtins : List String :=
  ["__import__", "abs", "aiter", "all", "any", "bin", "bool", "bytearray", "breakpoint", "bytes",
    "callable", "chr", "classmethod", "compile", "complex", "delattr", "dict", "dir", "divmod",
    "enumerate", "eval", "filter", "float", "format", "frozenset", "getattr", "globals",
    "hasattr", "hash", "hex", "id", "input", "int", "isinstance", "issubclass", "iter", "len",
    "list", "locals", "map", "max", "memoryview", "min", "next", "object", "oct", "open", "ord",
    "pow", "print", "property", "range", "repr", "reversed", "round", "set", "setattr", "slice",
    "sorted", "staticmethod", "str", "sum", "super", "tuple", "type", "vars", "zip"]

def pseudoBuiltins : List String := ["self", "Ellipsis", "NotImplemented", "cls"]

def exceptions : List String :=
  ["ArithmeticError", "AssertionError", "AttributeError", "BaseException", "BufferError",
    "BytesWarning", "DeprecationWarning", "EOFError", "EnvironmentError", "Exception",
    "FloatingPointError", "FutureWarning", "GeneratorExit", "IOError", "ImportError",
    "ImportWarning", "IndentationError", "IndexError", "KeyError", "KeyboardInterrupt",
    "LookupError", "MemoryError", "NameError", "NotImplementedError", "OSError",
    "OverflowError", "PendingDeprecationWarning", "ReferenceError", "ResourceWarning",
    "RuntimeError", "RuntimeWarning", "StopIteration", "SyntaxError", "SyntaxWarning",
    "SystemError", "SystemExit", "TabError", "TypeError", "UnboundLocalError",
    "UnicodeDecodeError", "UnicodeEncodeError", "UnicodeError", "UnicodeTranslateError",
    "UnicodeWarning", "UserWarning", "ValueError", "VMSError", "Warning", "WindowsError",
    "ZeroDivisionError", "BlockingIOError", "ChildProcessError", "ConnectionError",
    "BrokenPipeError", "ConnectionAbortedError", "ConnectionRefusedError",
    "ConnectionResetError", "FileExistsError", "FileNotFoundError", "InterruptedError",
    "IsADirectoryError", "NotADirectoryError", "PermissionError", "ProcessLookupError",
    "TimeoutError", "StopAsyncIteration", "ModuleNotFoundError", "RecursionError",
    "EncodingWarning"]

def magicFunctions : List String :=
  ["__abs__", "__add__", "__aenter__", "__aexit__", "__aiter__", "__and__", "__anext__",
    "__await__", "__bool__", "__bytes__", "__call__", "__complex__", "__contains__", "__del__",
    "__delattr__", "__delete__", "__delitem__", "__dir__", "__divmod__", "__enter__", "__eq__",
    "__exit__", "__float__", "__floordiv__", "__format__", "__ge__", "__get__", "__getattr__",
    "__getattribute__", "__getitem__", "__gt__", "__hash__", "__iadd__", "__iand__",
    "__ifloordiv__", "__ilshift__", "__imatmul__", "__imod__", "__imul__", "__index__",
    "__init__", "__instancecheck__", "__int__", "__invert__", "__ior__", "__ipow__",
    "__irshift__", "__isub__", "__iter__", "__itruediv__", "__ixor__", "__le__", "__len__",
    "__length_hint__", "__lshift__", "__lt__", "__matmul__", "__missing__", "__mod__",
    "__mul__", "__ne__", "__neg__", "__new__", "__next__", "__or__", "__pos__", "__pow__",
    "__prepare__", "__radd__", "__rand__", "__rdivmod__", "__repr__", "__reversed__",
    "__rfloordiv__", "__rlshift__", "__rmatmul__", "__rmod__", "__rmul__", "__ror__",
    "__round__", "__rpow__", "__rrshift__", "__rshift__", "__rsub__", "__rtruediv__",
    "__rxor__", "__set__", "__setattr__", "__setitem__", "__str__", "__sub__",
    "__subclasscheck__", "__truediv__", "__xor__"]

def magicVariables : List String :=
  ["__annotations__", "__bases__", "__class__", "__closure__", "__code__", "__defaults__",
    "__dict__", "__doc__", "__file__", "__func__", "__globals__", "__kwdefaults__",
    "__module__", "__mro__", "__name__", "__objclass__", "__qualname__", "__self__",
    "__slots__", "__weakref__"]

/-! ### Statements -/

/-- The gap after a statement word, which may be continued on the next line. -/
def statementGap : Pattern :=
  .plus (.alt (.one isBlank) (.seq (.exactly "\\") (.one isBlank)))

/-- A string that stands at the start of a line documents what follows. -/
def docString (quotes : String) : Rule State :=
  ⟨[(.whitespace, .seq .lineStart (.greedy isBlank)),
    (.stringAffix, .many (fun c => "rRuUbB".toList.contains c) 0 (some 2) false),
    (.stringDoc, .all [.exactly quotes, .lazy (fun _ => true), .exactly quotes])], .stay⟩

def statements : List (Rule State) :=
  [.token .whitespace (.exactly "\n"),
    docString "\"\"\"",
    docString "'''",
    .token .commentHashbang
      (.all [.textStart, .exactly "#!", .greedy1 notFeed, .lineEnd]),
    .token .commentSingle (.all [.exactly "#", .greedy notFeed, .lineEnd]),
    .token .text (.exactly "\\\n"),
    .token .text (.exactly "\\"),
    .token .keyword (wordOf keywords),
    .token .keywordConstant (wordOf ["True", "False", "None"]),
    ⟨[(.keyword, .exactly "def"), (.whitespace, statementGap)], .enter .functionName⟩,
    ⟨[(.keyword, .exactly "class"), (.whitespace, statementGap)], .enter .className⟩,
    ⟨[(.keywordNamespace, .exactly "from"), (.whitespace, statementGap)], .enter .importSource⟩,
    ⟨[(.keywordNamespace, .exactly "import"), (.whitespace, statementGap)],
      .enter .importNames⟩]

/-! ### Expressions -/

namespace Quotes

def text : Quotes → String
  | .double => "\""
  | .single => "'"
  | .doubleTriple => "\"\"\""
  | .singleTriple => "'''"

def kind : Quotes → TokenKind
  | .double => .stringDouble
  | .doubleTriple => .stringDouble
  | .single => .stringSingle
  | .singleTriple => .stringSingle

/-- Every kind of quotes, in the order in which they are tried. -/
def all : List Quotes := [.doubleTriple, .singleTriple, .double, .single]

end Quotes

/-- String literals whose affix matches `affix`. -/
def strings (affix : Pattern) (escapes : Escapes) : List (Rule State) :=
  Quotes.all.map fun quotes =>
    ⟨[(.stringAffix, affix), (quotes.kind, .exactly quotes.text)],
      .enter (.string quotes escapes)⟩

def rawAffix : Pattern :=
  .any [.seq (.oneOf "rR") (.oneOf "bB"), .seq (.oneOf "bB") (.oneOf "rR"), .oneOf "rR"]

/-- Digits with single underscores between them. -/
def digits : Pattern := .seq (.one digit) (.star (.seq (.opt (.exactly "_")) (.one digit)))

/-- Digits of another base after their sign, each with an underscore before it or not. -/
def based (signs : String) (p : Char → Bool) : Pattern :=
  .all [.exactly "0", .oneOf signs, .plus (.seq (.opt (.exactly "_")) (.one p))]

def exponent : Pattern := .all [.oneOf "eE", .opt (.oneOf "+-"), digits]

def numbers : List (Rule State) :=
  [.token .float (.seq
      (.alt (.all [digits, .exactly ".", .opt digits]) (.all [.opt digits, .exactly ".", digits]))
      (.opt exponent)),
    .token .float (.all [digits, exponent, .opt (.exactly "j")]),
    .token .octal (based "oO" fun c => '0' ≤ c && c ≤ '7'),
    .token .binary (based "bB" fun c => c == '0' || c == '1'),
    .token .hexadecimal (based "xX" isHexDigit),
    .token .integer digits]

def expressions : List (Rule State) :=
  strings rawAffix .raw ++ strings (.opt (.oneOf "uU")) .text ++ strings (.oneOf "bB") .bytes ++
  [.token .text (.greedy1 fun c => isBlank c && notFeed c)] ++
  numbers ++
  [.token .operator (.any [.exactly "!=", .exactly "==", .exactly "<<", .exactly ">>",
      .exactly ":=", .oneOf "-~+/*%=<>&^|."]),
    .token .punctuation (.oneOf "]\x7b\x7d:(),;["),
    .token .operatorWord (wordOf ["in", "is", "and", "or", "not"]),
    .token .nameBuiltin (.seq notAfterDot (wordOf builtins)),
    .token .namePseudo (.seq notAfterDot (wordOf pseudoBuiltins)),
    .token .nameException (.seq notAfterDot (wordOf exceptions)),
    .token .nameMagicFunction (wordOf magicFunctions),
    .token .nameMagicVariable (wordOf magicVariables),
    .token .nameDecorator (.seq (.exactly "@") name),
    .token .operator (.exactly "@"),
    .token .name name]

/-! ### Inside string literals -/

/-- A backslash and one of the escapes that bytes know. -/
def bytesEscape : Pattern :=
  .seq (.exactly "\\") (.any [.oneOf "\\abfnrtv\"'", .exactly "\n",
    .seq (.exactly "x") (.many isHexDigit 2 (some 2) false),
    .many (fun c => '0' ≤ c && c ≤ '7') 1 (some 3) false])

/-- A backslash and one of the escapes that only text knows. -/
def textEscape : Pattern :=
  .seq (.exactly "\\") (.any [.all [.exactly "N\x7b", .lazy notFeed, .exactly "\x7d"],
    .seq (.exactly "u") (.many isHexDigit 4 (some 4) false),
    .seq (.exactly "U") (.many isHexDigit 8 (some 8) false)])

def escapeRules : Escapes → List (Rule State)
  | .raw => []
  | .bytes => [.token .stringEscape bytesEscape]
  | .text => [.token .stringEscape textEscape, .token .stringEscape bytesEscape]

def between (low high : Char) (c : Char) : Bool := low ≤ c && c ≤ high

/-- A width or a precision, in digits or from an argument. -/
def width : Pattern := .alt (.greedy1 Char.isDigit) (.exactly "*")

/-- A conversion that starts with a percent sign. -/
def percentConversion : Pattern :=
  .all [.exactly "%", .opt (.all [.exactly "(", .greedy1 wordCharacter, .exactly ")"]),
    .greedy fun c => "-#0 +".toList.contains c, .opt width,
    .opt (.seq (.exactly ".") width), .opt (.oneOf "hlL"),
    .one fun c => between 'E' 'G' c || c == 'X' || between 'c' 'g' c ||
      "iorsaux%".toList.contains c]

/-- A replacement field in braces. -/
def replacementField : Pattern :=
  .all [.exactly "\x7b",
    .opt (.seq (.greedy1 wordCharacter) (.star (.alt
      (.seq (.exactly ".") (.greedy1 wordCharacter))
      (.all [.exactly "[", .greedy1 (· != ']'), .exactly "]"])))),
    .opt (.seq (.exactly "!") (.oneOf "sra")),
    .opt (.all [.exactly ":", .opt (.seq (.opt (.one notFeed)) (.oneOf "<>=^")),
      .opt (.oneOf "-+ "), .opt (.exactly "#"), .opt (.exactly "0"), .opt (.greedy1 digit),
      .opt (.exactly ","), .opt (.seq (.exactly ".") (.greedy1 digit)),
      .opt (.one fun c => between 'E' 'G' c || c == 'X' || between 'b' 'g' c ||
        "nosx%".toList.contains c)]),
    .exactly "\x7d"]

def contentRules (kind : TokenKind) : List (Rule State) :=
  [.token .stringInterpolation percentConversion,
    .token .stringInterpolation replacementField,
    .token kind (.greedy1 fun c => !("\\'\"%\x7b\n".toList.contains c)),
    .token kind (.oneOf "'\"\\"),
    .token kind (.exactly "%"),
    .token kind (.many (· == '\x7b') 1 (some 2) false)]

def isTriple : Quotes → Bool
  | .doubleTriple => true
  | .singleTriple => true
  | _ => false

def stringRules (quotes : Quotes) (escapes : Escapes) : List (Rule State) :=
  escapeRules escapes ++
  [.token quotes.kind (.exactly quotes.text) .leave] ++
  (if isTriple quotes then []
    else [.token .stringEscape (.seq (.exactly "\\")
      (.any [.exactly "\\", .exactly quotes.text, .exactly "\n"]))]) ++
  contentRules quotes.kind ++
  (if isTriple quotes then [.token quotes.kind (.exactly "\n")] else [])

/-! ### The rules of every state -/

/-- Leaves the state without consuming anything. -/
def otherwiseLeave : Rule State := ⟨[], .leave⟩

def rules : State → List (Rule State)
  | .root => statements ++ expressions
  | .functionName =>
    [.token .nameMagicFunction (wordOf magicFunctions),
      .token .nameFunction name .leave, otherwiseLeave]
  | .className => [.token .nameClass name .leave]
  | .importNames =>
    [⟨[(.whitespace, .greedy1 isBlank), (.keyword, .exactly "as"),
        (.whitespace, .greedy1 isBlank)], .stay⟩,
      .token .nameNamespace (.exactly "."),
      .token .nameNamespace name,
      ⟨[(.whitespace, .greedy isBlank), (.operator, .exactly ","),
        (.whitespace, .greedy isBlank)], .stay⟩,
      otherwiseLeave]
  | .importSource =>
    [⟨[(.whitespace, .greedy1 isBlank),
        (.keywordNamespace, .seq (.exactly "import") .wordEdge)], .leave⟩,
      .token .nameNamespace (.exactly "."),
      .token .keywordConstant (wordOf ["None"]) .leave,
      .token .nameNamespace name,
      otherwiseLeave]
  | .string quotes escapes => stringRules quotes escapes

/-- Cuts Python code into tokens. -/
def lexer : Lexer := RuleLexer.lexer ⟨.root, rules⟩

end LiveDeck.Code.Python
