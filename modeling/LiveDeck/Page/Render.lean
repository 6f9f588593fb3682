import LiveDeck.Code.Highlight
import LiveDeck.Document.LineBreaks
import LiveDeck.Document.Slides
import LiveDeck.Page.Error

/-! # Rendering

`Node.inlineHtml` and `Node.blockHtml` give the markup of a node where an inline or a block is
expected; `Document.page` is the complete page: a title slide, then one article for every group
of `slides`.  Rendering stops at the first node that cannot be shown, in the order in which the
nodes are visited: the title on one line, the authors, the title, the date, the blocks; in a
table the header cells, the rows, the caption. -/

namespace LiveDeck

/-- The only attributes that inline code may carry. -/
def urlCode : Attr := ⟨"", ["url"], []⟩

/-- The class that keeps the slide script from highlighting a block again. -/
def noPrettyPrint : String := "noprettyprint"

namespace Style

/-- The element of a styled node. -/
def tag : Style → String
  | .emph => "em"
  | .strong => "strong"
  | .strikeout => "del"
  | .superscript => "sup"
  | .subscript => "sub"
  | .smallCaps => "small"

end Style

namespace QuoteKind

/-- The mark around a quotation on a slide. -/
def mark : QuoteKind → String
  | .double => "\""
  | _ => "'"

end QuoteKind

/-- The element of a header, if there is one for its level. -/
def headerTag? (level : Int) : Option String :=
  if 1 ≤ level ∧ level ≤ 6 then some ("h" ++ toString level) else none

/-- A code block, highlighted if one of its classes names a language. -/
def codeBlockHtml (attr : Attr) (text : String) : Html :=
  match Code.highlight? (attr.classes ++ [noPrettyPrint]) text with
  | some html => html
  | none => .element "pre" [] [.text text]

/-- An image with the text that stands for it. -/
def imageHtml (url alt title : String) : Html :=
  .void "img" [("src", url), ("alt", alt), ("title", title), ("class", "centered")]

namespace Node

mutual

/-- The markup of a node where an inline is expected. -/
def inlineHtml : Node → Except RenderError (List Html)
  | .str text => .ok [.text text]
  | .styled style inlines => do
    let children ← inlinesHtml inlines
    .ok [.element style.tag [] children]
  | .quoted kind inlines => do
    let children ← inlinesHtml inlines
    .ok (.text kind.mark :: children ++ [.text kind.mark])
  | .cite _ inlines => do
    let children ← inlinesHtml inlines
    .ok [.element "cite" [] children]
  | .code attr text =>
    if attr = urlCode then .ok [.verbatim text] else .error (.unsupported (.codeAttributes attr))
  | .space => .ok [.hardSpace]
  | .lineBreak => .ok [.void "br" []]
  | .math _ _ => .error (.unsupported .math)
  | .rawInline format text =>
    if format = "html" then .ok [.verbatim text] else .error (.unsupported (.rawFormat format))
  | .link inlines url title => do
    let children ← inlinesHtml inlines
    .ok [.element "a" [("href", url), ("title", title)] children]
  | .image inlines url title =>
    match plainTexts inlines with
    | .ok alt => .ok [imageHtml url alt title]
    | .error cause => .error (.noInlines cause)
  | .note _ => .error (.unsupported .note)
  | .plain _ => .error (.unsupported (.inline "Plain"))
  | .para _ => .error (.unsupported (.inline "Para"))
  | .codeBlock _ _ => .error (.unsupported (.inline "CodeBlock"))
  | .rawBlock _ _ => .error (.unsupported (.inline "RawBlock"))
  | .blockQuote _ => .error (.unsupported (.inline "BlockQuote"))
  | .orderedList _ _ => .error (.unsupported (.inline "OrderedList"))
  | .bulletList _ => .error (.unsupported (.inline "BulletList"))
  | .definitionList _ => .error (.unsupported (.inline "DefinitionList"))
  | .header _ _ => .error (.unsupported (.inline "Header"))
  | .horizontalRule => .error (.unsupported (.inline "HorizontalRule"))
  | .table _ _ _ _ _ => .error (.unsupported (.inline "Table"))
  | .null => .error (.unsupported (.inline "Null"))

/-- The markup of inline content. -/
def inlinesHtml : List Node → Except RenderError (List Html)
  | [] => .ok []
  | node :: rest => do
    let first ← inlineHtml node
    let others ← inlinesHtml rest
    .ok (first ++ others)

end

mutual

/-- The markup of a node where a block is expected. -/
def blockHtml : Node → Except RenderError (List Html)
  | .plain inlines => inlinesHtml inlines
  | .para inlines => do
    let children ← inlinesHtml inlines
    .ok [.element "p" [] children]
  | .codeBlock attr text => .ok [codeBlockHtml attr text]
  | .rawBlock _ text => .ok [.verbatim text]
  | .blockQuote blocks => do
    let children ← blocksHtml blocks
    .ok [.element "blockquote" [] children]
  | .orderedList items _ => do
    let children ← wrappedHtml "li" items
    .ok [.element "ol" [] children]
  | .bulletList items => do
    let children ← wrappedHtml "li" items
    .ok [.element "ul" [] children]
  | .definitionList items => do
    let children ← definitionsHtml items
    .ok [.element "dl" [] children]
  | .header level inlines =>
    match headerTag? level with
    | none => .error (.unsupported (.headerLevel level))
    | some tag => do
      let children ← inlinesHtml inlines
      .ok [.element tag [] children]
  | .horizontalRule => .ok [.void "hr" []]
  | .table caption _ _ headings rows => do
    let headerCells ← wrappedHtml "td" headings
    let body ← rowsHtml rows
    let title ← inlinesHtml caption
    .ok [.element "table" []
      [.element "caption" [] title,
        .element "thead" [] [.element "tr" [] headerCells],
        .element "tbody" [] body]]
  | .null => .ok []
  | .str _ => .error (.unsupported (.block "Str"))
  | .styled style _ => .error (.unsupported (.block style.kindName))
  | .quoted _ _ => .error (.unsupported (.block "Quoted"))
  | .cite _ _ => .error (.unsupported (.block "Cite"))
  | .code _ _ => .error (.unsupported (.block "Code"))
  | .space => .error (.unsupported (.block "Space"))
  | .lineBreak => .error (.unsupported (.block "LineBreak"))
  | .math _ _ => .error (.unsupported (.block "Math"))
  | .rawInline _ _ => .error (.unsupported (.block "RawInline"))
  | .link _ _ _ => .error (.unsupported (.block "Link"))
  | .image _ _ _ => .error (.unsupported (.block "Image"))
  | .note _ => .error (.unsupported (.block "Note"))

/-- The markup of blocks in sequence. -/
def blocksHtml : List Node → Except RenderError (List Html)
  | [] => .ok []
  | node :: rest => do
    let first ← blockHtml node
    let others ← blocksHtml rest
    .ok (first ++ others)

/-- Block sequences, each in an element of its own. -/
def wrappedHtml (tag : String) : List (List Node) → Except RenderError (List Html)
  | [] => .ok []
  | blocks :: rest => do
    let children ← blocksHtml blocks
    let others ← wrappedHtml tag rest
    .ok (.element tag [] children :: others)

/-- Block sequences one after another, without elements of their own. -/
def unwrappedHtml : List (List Node) → Except RenderError (List Html)
  | [] => .ok []
  | blocks :: rest => do
    let first ← blocksHtml blocks
    let others ← unwrappedHtml rest
    .ok (first ++ others)

/-- Terms with their definitions: the term in a `dd` element, the definitions after it. -/
def definitionsHtml : List (List Node × List (List Node)) → Except RenderError (List Html)
  | [] => .ok []
  | (term, definitions) :: rest => do
    let title ← inlinesHtml term
    let body ← unwrappedHtml definitions
    let others ← definitionsHtml rest
    .ok (.element "dd" [] title :: body ++ others)

/-- The rows of a table. -/
def rowsHtml : List (List (List Node)) → Except RenderError (List Html)
  | [] => .ok []
  | cells :: rest => do
    let children ← wrappedHtml "td" cells
    let others ← rowsHtml rest
    .ok (.element "tr" [] children :: others)

end

end Node

/-! ### The page -/

/-- The slide script. -/
def slidesScript : String := "http://html5slides.googlecode.com/svn/trunk/slides.js"

/-- The stylesheet that the author of a deck provides. -/
def authorStylesheet : String := "style.css"

/-- The stylesheet for highlighted code. -/
def codeStylesheet : String := "syntax.css"

/-- The classes of the section that holds the slides. -/
def templateClass : String := "slides layout-regular template-pfi"

/-- The head of a page. -/
def headHtml (title : List Html) (stylesheet : String) : Html :=
  .element "head" []
    [.element "title" [] title,
      .void "meta" [("charset", "utf-8")],
      .element "script" [("src", slidesScript)] [],
      .void "link" [("rel", "stylesheet"), ("href", stylesheet)],
      .void "link" [("rel", "stylesheet"), ("href", authorStylesheet)]]

/-- The title slide. -/
def titleSlideHtml (title authors date : List Html) : Html :=
  .element "article" []
    [.element "h1" [] title, .element "p" [] (authors ++ .void "br" [] :: date)]

/-- One article for every slide. -/
def articlesHtml : List (List Node) → Except RenderError (List Html)
  | [] => .ok []
  | group :: rest => do
    let children ← Node.blocksHtml group
    let others ← articlesHtml rest
    .ok (.element "article" [] children :: others)

/-- A page as text. -/
def printPage (root : Html) : String := "<!DOCTYPE html>\n" ++ root.print

namespace Document

/-- The markup of a document. -/
def html (doc : Document) (stylesheet : String) : Except RenderError Html := do
  let headTitle ← Node.inlinesHtml (Node.allOnOneLine doc.title)
  let authors ← Node.inlinesHtml doc.authors.flatten
  let title ← Node.inlinesHtml doc.title
  let date ← Node.inlinesHtml doc.date
  let articles ← articlesHtml (slides doc.blocks)
  .ok (.element "html" []
    [headHtml headTitle stylesheet,
      .element "body" [("style", "display: none")]
        [.element "section" [("class", templateClass)]
          (titleSlideHtml title authors date :: articles)]])

/-- The complete page of a document. -/
def page (doc : Document) (stylesheet : String) : Except RenderError String := do
  let root ← doc.html stylesheet
  .ok (printPage root)

end Document

/-- The outcome of rendering: the page, or what cannot be shown. -/
inductive Rendering where
  | page (html : String)
  | refused (cause : Unsupported)
  deriving DecidableEq, Repr

namespace Document

/-- Renders a document; what cannot be shown is an outcome, not an error. -/
def render (doc : Document) (stylesheet : String) : Except NoInlines Rendering :=
  match doc.page stylesheet with
  | .ok html => .ok (.page html)
  | .error (.unsupported cause) => .ok (.refused cause)
  | .error (.noInlines cause) => .error cause

end Document

end LiveDeck
