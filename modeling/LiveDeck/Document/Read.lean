import LiveDeck.Document.OfMarkdown
import LiveDeck.Markdown.Source
import LiveDeck.Metadata.FrontMatter
import LiveDeck.Metadata.TitleBlock

/-! # Reading documents

`Document.read` makes a document of a Markdown source.  Metadata comes from front matter or, if
there is none, from a title block before the body.  The texts of the document are spelled. -/

namespace LiveDeck

/-- Why a source is no document. -/
inductive ReadError where
  | frontMatter (cause : FrontMatterError)
  | noCounterpart (cause : NoCounterpart)
  | inline (fault : Markdown.InlineFault)
  deriving DecidableEq, Repr

namespace ReadError

/-- The text of an error. -/
def message : ReadError → String
  | .frontMatter cause => cause.message
  | .noCounterpart cause => cause.message
  | .inline fault => fault.message

end ReadError

namespace Document

/-- The inline nodes of a metadata text. -/
def readText (text : List Char) : Except ReadError (List Node) :=
  if text.isEmpty then .ok []
  else match Markdown.parseInline text with
    | .ok inlines => (Node.ofInlines inlines).mapError .noCounterpart
    | .error fault => .error (.inline fault)

/-- The metadata of a source and its blocks: front matter at the start replaces the metadata of
the title block. -/
def readMetadata (fromTitle : Metadata) : List (Markdown.Block (List Markdown.Inline)) →
    Except ReadError (Metadata × List (Markdown.Block (List Markdown.Inline)))
  | .frontMatter content :: blocks => do
    let metadata ← (Metadata.ofFrontMatter content).mapError .frontMatter
    .ok (metadata, blocks)
  | blocks => .ok (fromTitle, blocks)

/-- The nodes of a body. -/
def readBlocks (blocks : List (Markdown.Block (List Markdown.Inline))) :
    Except ReadError (List Node) :=
  (Node.ofBlocks blocks).mapError .noCounterpart

/-- The document of a Markdown source. -/
def read (source : List Char) : Except ReadError Document := do
  let (fromTitle, body) := TitleBlock.split source
  match Markdown.parse? body with
  | none => .error (.inline .unbalanced)
  | some parsed =>
    let (metadata, content) ← readMetadata fromTitle.spelled parsed
    let blocks ← readBlocks content
    let title ← readText metadata.title
    let authors ← metadata.authors.mapM readText
    let date ← readText metadata.date
    .ok { title, authors, date, blocks }

end Document

end LiveDeck
