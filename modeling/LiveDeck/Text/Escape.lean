/-! # Character references

Writing text so that markup cannot be read out of it.  Element content escapes the three
characters that start or end markup, attribute values the two quotes as well. -/

namespace LiveDeck.Text

/-- A character as element content. -/
def contentReference : Char → List Char
  | '&' => "&amp;".toList
  | '<' => "&lt;".toList
  | '>' => "&gt;".toList
  | c => [c]

/-- A character inside a quoted attribute value. -/
def valueReference : Char → List Char
  | '"' => "&quot;".toList
  | '\'' => "&#x27;".toList
  | c => contentReference c

/-- Every character of a text replaced by what stands for it. -/
def substitute (f : Char → List Char) (s : String) : String := String.ofList (s.toList.flatMap f)

/-- Text as element content. -/
def escapeContent (s : String) : String := substitute contentReference s

/-- Text as an attribute value. -/
def escapeValue (s : String) : String := substitute valueReference s

end LiveDeck.Text
