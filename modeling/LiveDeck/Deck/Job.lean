import LiveDeck.Files.Path
import LiveDeck.Page.Render

/-! # Jobs

A job is a source to render, the deck to write, the style of highlighted code, and the stylesheet
of that style.  Unless it is told otherwise, a deck lies in the current directory under the name
of its source, and its stylesheet lies beside it. -/

namespace LiveDeck

/-- A name up to its first dot. -/
def stem (name : String) : String := String.ofList (name.toList.takeWhile (· != '.'))

/-- The deck of a source in a directory. -/
def Path.deckIn (directory source : Path) : Path := directory.child (stem source.name ++ ".html")

/-- The stylesheet beside a deck. -/
def Path.styleSheetBeside (deck : Path) : Path := deck.parent.child codeStylesheet

/-- What to render, and where to. -/
structure Job where
  source : Path
  deck : Path
  style : String
  styleSheet : Path
  deriving DecidableEq, Repr

/-- A job with its stylesheet beside the deck. -/
def Job.beside (source deck : Path) (style : String) : Job :=
  { source, deck, style, styleSheet := deck.styleSheetBeside }

end LiveDeck
