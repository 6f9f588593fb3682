import LiveDeck.Text.Quoted

/-! # Highlighting stylesheets

A style says how each kind of token looks; `Style.css` writes it as rules scoped to the code
blocks of a deck.  A name that belongs to no style is an error. -/

namespace LiveDeck.Code

/-- The class that every highlighted code block carries. -/
def scope : String := "sourceCode"

/-- No style has the name. -/
structure UnknownStyle where
  name : String
  deriving DecidableEq, Repr

/-- The missing style in words. -/
def UnknownStyle.message (cause : UnknownStyle) : String :=
  "Could not find style module " ++ Text.quoted ("pygments.styles." ++ cause.name) ++ "."

/-- How one kind of token looks: its class, the declarations, and what it is called. -/
structure StyleRule where
  cssClass : String
  declarations : String
  title : String
  deriving DecidableEq, Repr

/-- A style: the colour of marked lines, how the block itself looks, and the rules in order. -/
structure StyleSheet where
  marked : String
  block : String
  rules : List StyleRule
  deriving DecidableEq, Repr

namespace StyleSheet

/-- The rules for line numbers, which are the same in every style. -/
def lineNumbers : List String :=
  ["pre \x7b line-height: 125%; \x7d",
    "td.linenos .normal \x7b color: inherit; background-color: transparent; " ++
      "padding-left: 5px; padding-right: 5px; \x7d",
    "span.linenos \x7b color: inherit; background-color: transparent; padding-left: " ++
      "5px; padding-right: 5px; \x7d",
    "td.linenos .special \x7b color: #000000; background-color: #ffffc0; " ++
      "padding-left: 5px; padding-right: 5px; \x7d",
    "span.linenos.special \x7b color: #000000; background-color: #ffffc0; " ++
      "padding-left: 5px; padding-right: 5px; \x7d"]

/-- A style as the text of a stylesheet. -/
def css (sheet : StyleSheet) : String :=
  let selector := "." ++ scope
  "\n".intercalate (lineNumbers ++
    [selector ++ " .hll \x7b background-color: " ++ sheet.marked ++ " \x7d",
      selector ++ " \x7b " ++ sheet.block ++ " \x7d"] ++
    sheet.rules.map fun rule =>
      selector ++ " ." ++ rule.cssClass ++ " \x7b " ++ rule.declarations ++ " \x7d /* " ++
        rule.title ++ " */")

end StyleSheet

/-- Black on white: weights and slants only. -/
def plainStyle : StyleSheet where
  marked := "#ffffcc"
  block := "background: #ffffff;"
  rules := [
    ⟨"c", "font-style: italic", "Comment"⟩,
    ⟨"err", "border: 1px solid #F00", "Error"⟩,
    ⟨"k", "font-weight: bold", "Keyword"⟩,
    ⟨"ch", "font-style: italic", "Comment.Hashbang"⟩,
    ⟨"cm", "font-style: italic", "Comment.Multiline"⟩,
    ⟨"cpf", "font-style: italic", "Comment.PreprocFile"⟩,
    ⟨"c1", "font-style: italic", "Comment.Single"⟩,
    ⟨"cs", "font-style: italic", "Comment.Special"⟩,
    ⟨"ge", "font-style: italic", "Generic.Emph"⟩,
    ⟨"ges", "font-weight: bold; font-style: italic", "Generic.EmphStrong"⟩,
    ⟨"gh", "font-weight: bold", "Generic.Heading"⟩,
    ⟨"gp", "font-weight: bold", "Generic.Prompt"⟩,
    ⟨"gs", "font-weight: bold", "Generic.Strong"⟩,
    ⟨"gu", "font-weight: bold", "Generic.Subheading"⟩,
    ⟨"kc", "font-weight: bold", "Keyword.Constant"⟩,
    ⟨"kd", "font-weight: bold", "Keyword.Declaration"⟩,
    ⟨"kn", "font-weight: bold", "Keyword.Namespace"⟩,
    ⟨"kr", "font-weight: bold", "Keyword.Reserved"⟩,
    ⟨"s", "font-style: italic", "Literal.String"⟩,
    ⟨"nc", "font-weight: bold", "Name.Class"⟩,
    ⟨"ni", "font-weight: bold", "Name.Entity"⟩,
    ⟨"ne", "font-weight: bold", "Name.Exception"⟩,
    ⟨"nn", "font-weight: bold", "Name.Namespace"⟩,
    ⟨"nt", "font-weight: bold", "Name.Tag"⟩,
    ⟨"ow", "font-weight: bold", "Operator.Word"⟩,
    ⟨"sa", "font-style: italic", "Literal.String.Affix"⟩,
    ⟨"sb", "font-style: italic", "Literal.String.Backtick"⟩,
    ⟨"sc", "font-style: italic", "Literal.String.Char"⟩,
    ⟨"dl", "font-style: italic", "Literal.String.Delimiter"⟩,
    ⟨"sd", "font-style: italic", "Literal.String.Doc"⟩,
    ⟨"s2", "font-style: italic", "Literal.String.Double"⟩,
    ⟨"se", "font-weight: bold; font-style: italic", "Literal.String.Escape"⟩,
    ⟨"sh", "font-style: italic", "Literal.String.Heredoc"⟩,
    ⟨"si", "font-weight: bold; font-style: italic", "Literal.String.Interpol"⟩,
    ⟨"sx", "font-style: italic", "Literal.String.Other"⟩,
    ⟨"sr", "font-style: italic", "Literal.String.Regex"⟩,
    ⟨"s1", "font-style: italic", "Literal.String.Single"⟩,
    ⟨"ss", "font-style: italic", "Literal.String.Symbol"⟩]

/-- The style used unless another one is asked for. -/
def colourStyle : StyleSheet where
  marked := "#ffffcc"
  block := "background: #f8f8f8;"
  rules := [
    ⟨"c", "color: #3D7B7B; font-style: italic", "Comment"⟩,
    ⟨"err", "border: 1px solid #F00", "Error"⟩,
    ⟨"k", "color: #008000; font-weight: bold", "Keyword"⟩,
    ⟨"o", "color: #666", "Operator"⟩,
    ⟨"ch", "color: #3D7B7B; font-style: italic", "Comment.Hashbang"⟩,
    ⟨"cm", "color: #3D7B7B; font-style: italic", "Comment.Multiline"⟩,
    ⟨"cp", "color: #9C6500", "Comment.Preproc"⟩,
    ⟨"cpf", "color: #3D7B7B; font-style: italic", "Comment.PreprocFile"⟩,
    ⟨"c1", "color: #3D7B7B; font-style: italic", "Comment.Single"⟩,
    ⟨"cs", "color: #3D7B7B; font-style: italic", "Comment.Special"⟩,
    ⟨"gd", "color: #A00000", "Generic.Deleted"⟩,
    ⟨"ge", "font-style: italic", "Generic.Emph"⟩,
    ⟨"ges", "font-weight: bold; font-style: italic", "Generic.EmphStrong"⟩,
    ⟨"gr", "color: #E40000", "Generic.Error"⟩,
    ⟨"gh", "color: #000080; font-weight: bold", "Generic.Heading"⟩,
    ⟨"gi", "color: #008400", "Generic.Inserted"⟩,
    ⟨"go", "color: #717171", "Generic.Output"⟩,
    ⟨"gp", "color: #000080; font-weight: bold", "Generic.Prompt"⟩,
    ⟨"gs", "font-weight: bold", "Generic.Strong"⟩,
    ⟨"gu", "color: #800080; font-weight: bold", "Generic.Subheading"⟩,
    ⟨"gt", "color: #04D", "Generic.Traceback"⟩,
    ⟨"kc", "color: #008000; font-weight: bold", "Keyword.Constant"⟩,
    ⟨"kd", "color: #008000; font-weight: bold", "Keyword.Declaration"⟩,
    ⟨"kn", "color: #008000; font-weight: bold", "Keyword.Namespace"⟩,
    ⟨"kp", "color: #008000", "Keyword.Pseudo"⟩,
    ⟨"kr", "color: #008000; font-weight: bold", "Keyword.Reserved"⟩,
    ⟨"kt", "color: #B00040", "Keyword.Type"⟩,
    ⟨"m", "color: #666", "Literal.Number"⟩,
    ⟨"s", "color: #BA2121", "Literal.String"⟩,
    ⟨"na", "color: #687822", "Name.Attribute"⟩,
    ⟨"nb", "color: #008000", "Name.Builtin"⟩,
    ⟨"nc", "color: #00F; font-weight: bold", "Name.Class"⟩,
    ⟨"no", "color: #800", "Name.Constant"⟩,
    ⟨"nd", "color: #A2F", "Name.Decorator"⟩,
    ⟨"ni", "color: #717171; font-weight: bold", "Name.Entity"⟩,
    ⟨"ne", "color: #CB3F38; font-weight: bold", "Name.Exception"⟩,
    ⟨"nf", "color: #00F", "Name.Function"⟩,
    ⟨"nl", "color: #767600", "Name.Label"⟩,
    ⟨"nn", "color: #00F; font-weight: bold", "Name.Namespace"⟩,
    ⟨"nt", "color: #008000; font-weight: bold", "Name.Tag"⟩,
    ⟨"nv", "color: #19177C", "Name.Variable"⟩,
    ⟨"ow", "color: #A2F; font-weight: bold", "Operator.Word"⟩,
    ⟨"w", "color: #BBB", "Text.Whitespace"⟩,
    ⟨"mb", "color: #666", "Literal.Number.Bin"⟩,
    ⟨"mf", "color: #666", "Literal.Number.Float"⟩,
    ⟨"mh", "color: #666", "Literal.Number.Hex"⟩,
    ⟨"mi", "color: #666", "Literal.Number.Integer"⟩,
    ⟨"mo", "color: #666", "Literal.Number.Oct"⟩,
    ⟨"sa", "color: #BA2121", "Literal.String.Affix"⟩,
    ⟨"sb", "color: #BA2121", "Literal.String.Backtick"⟩,
    ⟨"sc", "color: #BA2121", "Literal.String.Char"⟩,
    ⟨"dl", "color: #BA2121", "Literal.String.Delimiter"⟩,
    ⟨"sd", "color: #BA2121; font-style: italic", "Literal.String.Doc"⟩,
    ⟨"s2", "color: #BA2121", "Literal.String.Double"⟩,
    ⟨"se", "color: #AA5D1F; font-weight: bold", "Literal.String.Escape"⟩,
    ⟨"sh", "color: #BA2121", "Literal.String.Heredoc"⟩,
    ⟨"si", "color: #A45A77; font-weight: bold", "Literal.String.Interpol"⟩,
    ⟨"sx", "color: #008000", "Literal.String.Other"⟩,
    ⟨"sr", "color: #A45A77", "Literal.String.Regex"⟩,
    ⟨"s1", "color: #BA2121", "Literal.String.Single"⟩,
    ⟨"ss", "color: #19177C", "Literal.String.Symbol"⟩,
    ⟨"bp", "color: #008000", "Name.Builtin.Pseudo"⟩,
    ⟨"fm", "color: #00F", "Name.Function.Magic"⟩,
    ⟨"vc", "color: #19177C", "Name.Variable.Class"⟩,
    ⟨"vg", "color: #19177C", "Name.Variable.Global"⟩,
    ⟨"vi", "color: #19177C", "Name.Variable.Instance"⟩,
    ⟨"vm", "color: #19177C", "Name.Variable.Magic"⟩,
    ⟨"il", "color: #666", "Literal.Number.Integer.Long"⟩]

/-- Bright colours on a dark background. -/
def darkStyle : StyleSheet where
  marked := "#49483e"
  block := "background: #272822; color: #F8F8F2"
  rules := [
    ⟨"c", "color: #959077", "Comment"⟩,
    ⟨"err", "color: #ED007E; background-color: #1E0010", "Error"⟩,
    ⟨"k", "color: #66D9EF", "Keyword"⟩,
    ⟨"l", "color: #AE81FF", "Literal"⟩,
    ⟨"n", "color: #F8F8F2", "Name"⟩,
    ⟨"o", "color: #FF4689", "Operator"⟩,
    ⟨"p", "color: #F8F8F2", "Punctuation"⟩,
    ⟨"ch", "color: #959077", "Comment.Hashbang"⟩,
    ⟨"cm", "color: #959077", "Comment.Multiline"⟩,
    ⟨"cp", "color: #959077", "Comment.Preproc"⟩,
    ⟨"c1", "color: #959077", "Comment.Single"⟩,
    ⟨"cs", "color: #959077", "Comment.Special"⟩,
    ⟨"gd", "color: #FF4689", "Generic.Deleted"⟩,
    ⟨"ge", "color: #F8F8F2; font-style: italic", "Generic.Emph"⟩,
    ⟨"gi", "color: #A6E22E", "Generic.Inserted"⟩,
    ⟨"go", "color: #66D9EF", "Generic.Output"⟩,
    ⟨"gp", "color: #FF4689; font-weight: bold", "Generic.Prompt"⟩,
    ⟨"gs", "color: #F8F8F2; font-weight: bold", "Generic.Strong"⟩,
    ⟨"gu", "color: #959077", "Generic.Subheading"⟩,
    ⟨"kc", "color: #66D9EF", "Keyword.Constant"⟩,
    ⟨"kn", "color: #FF4689", "Keyword.Namespace"⟩,
    ⟨"m", "color: #AE81FF", "Literal.Number"⟩,
    ⟨"s", "color: #E6DB74", "Literal.String"⟩,
    ⟨"na", "color: #A6E22E", "Name.Attribute"⟩,
    ⟨"nb", "color: #F8F8F2", "Name.Builtin"⟩,
    ⟨"nc", "color: #A6E22E", "Name.Class"⟩,
    ⟨"nd", "color: #A6E22E", "Name.Decorator"⟩,
    ⟨"ne", "color: #A6E22E", "Name.Exception"⟩,
    ⟨"nf", "color: #A6E22E", "Name.Function"⟩,
    ⟨"nn", "color: #F8F8F2", "Name.Namespace"⟩,
    ⟨"nt", "color: #FF4689", "Name.Tag"⟩,
    ⟨"nv", "color: #F8F8F2", "Name.Variable"⟩,
    ⟨"ow", "color: #FF4689", "Operator.Word"⟩,
    ⟨"w", "color: #F8F8F2", "Text.Whitespace"⟩,
    ⟨"mf", "color: #AE81FF", "Literal.Number.Float"⟩,
    ⟨"mh", "color: #AE81FF", "Literal.Number.Hex"⟩,
    ⟨"mi", "color: #AE81FF", "Literal.Number.Integer"⟩,
    ⟨"s2", "color: #E6DB74", "Literal.String.Double"⟩,
    ⟨"se", "color: #AE81FF", "Literal.String.Escape"⟩,
    ⟨"s1", "color: #E6DB74", "Literal.String.Single"⟩,
    ⟨"bp", "color: #F8F8F2", "Name.Builtin.Pseudo"⟩,
    ⟨"fm", "color: #A6E22E", "Name.Function.Magic"⟩]

/-- The name of the style that is used unless another one is asked for. -/
def defaultStyle : String := "default"

/-- The styles by name. -/
def styles : List (String × StyleSheet) :=
  [(defaultStyle, colourStyle), ("bw", plainStyle), ("monokai", darkStyle)]

/-- The stylesheet of a style. -/
def styleSheet (name : String) : Except UnknownStyle String :=
  match styles.lookup name with
  | some sheet => .ok sheet.css
  | none => .error ⟨name⟩

end LiveDeck.Code
