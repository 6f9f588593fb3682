import LiveDeck.Code.Diff
import LiveDeck.Code.Ini
import LiveDeck.Code.Json
import LiveDeck.Code.Python
import LiveDeck.Code.StyleSheet
import LiveDeck.Document.Basic
import LiveDeck.Page.Html
import LiveDeck.Text.Lines

/-! # Highlighted code

The first class of a block that names a language decides how its code is cut into tokens; a
block without such a class is not highlighted.  Neighbouring tokens that look alike share one
span, and no span crosses the end of a line. -/

namespace LiveDeck.Code

/-- The languages by name. -/
def languages : List (String × Lexer) :=
  [("text", fun code => [⟨.text, code⟩]),
    ("output", fun code => [⟨.output, code⟩]),
    ("json", Json.lexer), ("json-object", Json.lexer),
    ("ini", Ini.lexer), ("cfg", Ini.lexer), ("dosini", Ini.lexer),
    ("diff", Diff.lexer), ("udiff", Diff.lexer),
    ("python", Python.lexer), ("py", Python.lexer), ("python3", Python.lexer),
    ("py3", Python.lexer)]

/-- The language of a class, in any letter case. -/
def lexer? (name : String) : Option Lexer := languages.lookup name.toLower

/-- Code as it is handed to a lexer: no byte order mark in front, line feeds only, no blank
lines at either end, and a line feed after the last line. -/
def prepare (code : List Char) : List Char :=
  let unmarked := match code with
    | '\ufeff' :: rest => rest
    | code => code
  let isFeed := (· == '\n')
  Text.trimBy isFeed (Text.universal unmarked) ++ ['\n']

/-- Adds a piece in front of a line; pieces that look alike become one. -/
def consPiece (look : Option String) (text : List Char) :
    List (Option String × List Char) → List (Option String × List Char)
  | [] => [(look, text)]
  | (next, rest) :: pieces =>
    if look = next then (look, text ++ rest) :: pieces else (look, text) :: (next, rest) :: pieces

/-- Cuts one token at its line feeds and puts it in front of the lines that follow it. -/
def consToken (look : Option String) : List Char → List (List (Option String × List Char)) →
    List (List (Option String × List Char))
  | [], lines => lines
  | '\n' :: text, lines => [] :: consToken look text lines
  | c :: text, lines =>
    match consToken look text lines with
    | [] => [[(look, [c])]]
    | line :: rest => consPiece look [c] line :: rest

/-- The lines of highlighted code, each a sequence of pieces of different looks. -/
def lines : List Token → List (List (Option String × List Char))
  | [] => [[]]
  | token :: rest => consToken token.kind.cssClass? token.text (lines rest)

/-- A piece of a line. -/
def pieceHtml (piece : Option String × List Char) : Html :=
  let text := .text (String.ofList piece.2)
  match piece.1 with
  | some cssClass => .element "span" [("class", cssClass)] [text]
  | none => text

/-- The lines of code, each with its line feed; the last one only if there is something on it. -/
def linesHtml : List (List (Option String × List Char)) → List Html
  | [] => []
  | [[]] => []
  | line :: rest => line.map pieceHtml ++ .text "\n" :: linesHtml rest

/-- Code as markup, cut into tokens by the lexer. -/
def bodyHtml (lexer : Lexer) (code : String) : List Html :=
  linesHtml (lines (lexer (prepare code.toList)))

/-- A highlighted block of the given language; its classes are written after the common one. -/
def blockHtml (lexer : Lexer) (classes : List String) (code : String) : Html :=
  .element "pre" [("class", " ".intercalate (scope :: classes))]
    [.element "code" [] (bodyHtml lexer code)]

/-- The block highlighted in the language of the first class that names one, where `find` knows
the languages. -/
def highlightWith? (find : String → Option Lexer) (classes : List String) (code : String) :
    Option Html :=
  (classes.findSome? find).map fun lexer => blockHtml lexer classes code

/-- The block highlighted in the language of the first class that names one. -/
def highlight? (classes : List String) (code : String) : Option Html :=
  highlightWith? lexer? classes code

end LiveDeck.Code
