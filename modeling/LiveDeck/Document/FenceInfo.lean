import LiveDeck.Document.Basic
import LiveDeck.Text.Blank

/-! # Fence information

What stands after the marks of a fence: the name of a language, or attributes in braces, as in
`python` and `{#id .python key="value"}`. -/

namespace LiveDeck

open Text (strip words trimBy)

/-- One word of a fence information in braces. -/
inductive FencePart where
  | identifier (name : List Char)
  | cssClass (name : List Char)
  | pair (key value : List Char)
  deriving DecidableEq, Repr

namespace FencePart

/-- Text without the double quotes at its ends. -/
def unquote (text : List Char) : List Char := trimBy (· == '"') text

/-- Reads a word: what has neither a mark in front nor an equals sign is a class. -/
def ofWord : List Char → FencePart
  | '#' :: name => .identifier name
  | '.' :: name => .cssClass name
  | word =>
    match word.dropWhile (· != '=') with
    | _ :: value => .pair (word.takeWhile (· != '=')) (unquote value)
    | [] => .cssClass word

end FencePart

namespace Attr

/-- Adds a part: the last identifier counts, classes and pairs come in order. -/
def addPart (attr : Attr) : FencePart → Attr
  | .identifier name => { attr with identifier := String.ofList name }
  | .cssClass name => { attr with classes := attr.classes ++ [String.ofList name] }
  | .pair key value =>
    { attr with attributes := attr.attributes ++ [(String.ofList key, String.ofList value)] }

/-- The attributes that parts make up. -/
def ofParts (parts : List FencePart) : Attr := parts.foldl addPart {}

/-- The content of a text in braces. -/
def inBraces? : List Char → Option (List Char)
  | '\x7b' :: rest => if rest.getLast? = some '\x7d' then some rest.dropLast else none
  | _ => none

/-- The attributes that a fence information gives: those in braces, or its first word as a
class. -/
def ofFenceInfo (info : List Char) : Attr :=
  let text := strip info
  match inBraces? text with
  | some inner => ofParts ((words inner).map FencePart.ofWord)
  | none => { classes := ((words text).take 1).map String.ofList }

end Attr

end LiveDeck
