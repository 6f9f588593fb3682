import LiveDeck.Text.CodePoints

/-! # Metadata

What the title slide shows, before its inline markup is read. -/

namespace LiveDeck

/-- Title, authors and date as texts; an empty text stands for a missing one. -/
structure Metadata where
  title : List Char := []
  authors : List (List Char) := []
  date : List Char := []
  deriving DecidableEq, Repr, Inhabited

/-- The same metadata with its texts spelled. -/
def Metadata.spelled (metadata : Metadata) : Metadata where
  title := Text.spelled metadata.title
  authors := metadata.authors.map Text.spelled
  date := Text.spelled metadata.date

end LiveDeck
