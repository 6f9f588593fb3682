import LiveDeck.CommandLine.Flag
import LiveDeck.Text.WordCharacters

/-! # Words of a command line

A word is a value, an option or the separator `--`, after which every word is a value.  An option
may be shortened as long as one spelling alone begins like it, and its value may follow an equals
sign.  A word that looks like a negative number is a value, and so is one with a space in it that
begins no option. -/

namespace LiveDeck.CommandLine

/-- Text that comes with an option in the same word: after an equals sign, or right behind the
letter of a short option. -/
inductive Attached where
  | afterEquals (text : String)
  | afterLetter (text : String)
  deriving DecidableEq, Repr

/-- What a word is. -/
inductive Word where
  | value (text : String)
  | separator
  | flag (flag : Flag) (attached? : Option Attached)
  | unknown (text : String)
  deriving DecidableEq, Repr

/-- A word before and after its first equals sign. -/
def splitAtEquals (word : List Char) : List Char × Option Attached :=
  match word.dropWhile (· != '=') with
  | _ :: value => (word.takeWhile (· != '='), some (.afterEquals (String.ofList value)))
  | [] => (word, none)

/-- Whether a character is a decimal digit of any script. -/
def isDigit (c : Char) : Bool := (Text.digitValue? c).isSome

/-- Whether what follows a minus sign is a number: digits, or digits with a point that more
digits follow.  One line feed may stand at the end. -/
def isNumber (text : List Char) : Bool :=
  let text := if text.getLast? = some '\n' then text.dropLast else text
  match text.dropWhile isDigit with
  | [] => !text.isEmpty
  | '.' :: fraction => !fraction.isEmpty && fraction.all isDigit
  | _ => false

/-- What a word with a dash in front is that begins no option. -/
def plainWord (word : String) : Word :=
  if isNumber (word.toList.drop 1) || word.toList.contains ' ' then .value word else .unknown word

/-- What a word with two dashes in front is: the one option that it begins. -/
def longWord (word : String) : Except Misuse Word :=
  let (start, attached?) := splitAtEquals word.toList
  let matching := spellings.filter fun item => start.isPrefixOf item.1.toList
  match matching with
  | [] => .ok (plainWord word)
  | [(_, flag)] => .ok (.flag flag attached?)
  | _ => .error (.ambiguous word (matching.map Prod.fst))

/-- What a word with one dash in front is: a short option with text behind it. -/
def shortWord (word : String) (letter : Char) (rest : List Char) : Word :=
  match spellings.lookup (String.ofList ['-', letter]) with
  | some flag => .flag flag (some (.afterLetter (String.ofList rest)))
  | none => plainWord word

/-- What a word before the separator is. -/
def wordOf (word : String) : Except Misuse Word :=
  match word.toList with
  | '-' :: second :: rest =>
    let (start, attached?) := splitAtEquals word.toList
    match spellings.lookup (String.ofList start) with
    | some flag => .ok (.flag flag attached?)
    | none => if second = '-' then longWord word else .ok (shortWord word second rest)
  | _ => .ok (.value word)

/-- What the words of a command line are. -/
def wordsOf : List String → Except Misuse (List Word)
  | [] => .ok []
  | "--" :: rest => .ok (.separator :: rest.map .value)
  | word :: rest =>
    match wordOf word, wordsOf rest with
    | .ok first, .ok others => .ok (first :: others)
    | .error misuse, _ => .error misuse
    | _, .error misuse => .error misuse

end LiveDeck.CommandLine
