import LiveDeck.Text.Escape

/-! # Markup

The output vocabulary of a deck: text, elements, elements without content,
and markup taken over as it stands.  `Html.print` is the only place where markup becomes text,
so escaping and closing tags are decided here alone. -/

namespace LiveDeck

/-- A piece of markup. -/
inductive Html where
  | text (content : String)
  | hardSpace
  | verbatim (markup : String)
  | element (tag : String) (attributes : List (String × String)) (children : List Html)
  | void (tag : String) (attributes : List (String × String))
  deriving Repr, Inhabited

namespace Html

/-- An attribute with the blank before it. -/
def printAttribute (pair : String × String) : String :=
  " " ++ pair.1 ++ "=\"" ++ Text.escapeValue pair.2 ++ "\""

/-- A start tag. -/
def printTag (tag : String) (attributes : List (String × String)) : String :=
  "<" ++ tag ++ String.join (attributes.map printAttribute) ++ ">"

mutual

/-- One piece of markup as text. -/
def print : Html → String
  | .text content => Text.escapeContent content
  | .hardSpace => "&nbsp;"
  | .verbatim markup => markup
  | .element tag attributes children =>
    printTag tag attributes ++ printAll children ++ "</" ++ tag ++ ">"
  | .void tag attributes => printTag tag attributes

/-- Markup in sequence as text. -/
def printAll : List Html → String
  | [] => ""
  | piece :: rest => print piece ++ printAll rest

end

theorem printAll_append (pieces rest : List Html) :
    printAll (pieces ++ rest) = printAll pieces ++ printAll rest := by
  induction pieces with
  | nil => simp [printAll]
  | cons piece pieces ih => simp [printAll, ih, String.append_assoc]

end Html

end LiveDeck
