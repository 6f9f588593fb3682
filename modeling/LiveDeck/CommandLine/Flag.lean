import LiveDeck.Number.Double
import LiveDeck.Text.Quoted

/-! # Flags

The options of the command line, how they are spelled and which of them take a value, the texts
that explain them, and what can be wrong with a command line. -/

namespace LiveDeck.CommandLine

/-- An option of the command line. -/
inductive Flag where
  | help
  | output
  | interval
  | style
  | once
  deriving DecidableEq, Repr

/-- How options are written. -/
def spellings : List (String × Flag) :=
  [("-h", .help), ("--help", .help), ("--output", .output), ("--interval", .interval),
    ("--style", .style), ("--once", .once)]

namespace Flag

/-- Whether a value belongs to an option. -/
def takesValue : Flag → Bool
  | .help => false
  | .output => true
  | .interval => true
  | .style => true
  | .once => false

/-- What an option is called in messages: all its spellings. -/
def title (flag : Flag) : String :=
  "/".intercalate ((spellings.filter fun item => item.2 == flag).map Prod.fst)

end Flag

/-- What is wrong with a command line. -/
inductive Misuse where
  | ambiguous (word : String) (matching : List String)
  | missingValue (flag : Flag)
  | needlessValue (flag : Flag) (value : String)
  | notNumber (flag : Flag) (value : String)
  | noSource
  | unrecognized (words : List String)
  | notPositive
  | unknownStyle (name : String)
  deriving DecidableEq, Repr

/-- A misuse in words. -/
def Misuse.message : Misuse → String
  | .ambiguous word matching =>
    s!"ambiguous option: {word} could match " ++ ", ".intercalate matching
  | .missingValue flag => s!"argument {flag.title}: expected one argument"
  | .needlessValue flag value =>
    s!"argument {flag.title}: ignored explicit argument {Text.quoted value}"
  | .notNumber flag value => s!"argument {flag.title}: invalid float value: {Text.quoted value}"
  | .noSource => "the following arguments are required: source"
  | .unrecognized words => "unrecognized arguments: " ++ " ".intercalate words
  | .notPositive => "--interval must be positive"
  | .unknownStyle name => s!"unknown Pygments style: {name}"

/-- The name of the program. -/
def program : String := "html5slide"

/-- How to call the program, in short. -/
def usage : String :=
  s!"usage: {program} [-h] [--output OUTPUT] [--interval INTERVAL] [--style STYLE]\n" ++
  "                  [--once]\n" ++
  "                  source\n"

/-- How to call the program, at length. -/
def helpText : String :=
  usage ++ "\n" ++
  "Watch a markdown file and regenerate its html5slides deck on change\n\n" ++
  "positional arguments:\n" ++
  "  source               Markdown source file\n\n" ++
  "options:\n" ++
  "  -h, --help           show this help message and exit\n" ++
  "  --output OUTPUT      Deck path (default: <source name up to first dot>.html\n" ++
  "                       in the current directory)\n" ++
  "  --interval INTERVAL  Seconds between polls (env: HTML5SLIDE_INTERVAL)\n" ++
  "  --style STYLE        Pygments style for syntax.css (env: HTML5SLIDE_STYLE)\n" ++
  "  --once               Render a single time and exit\n"

/-- How a misuse is reported. -/
def Misuse.report (misuse : Misuse) : String :=
  usage ++ s!"{program}: error: {misuse.message}\n"

end LiveDeck.CommandLine
