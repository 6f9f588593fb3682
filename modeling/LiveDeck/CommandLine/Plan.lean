import LiveDeck.CommandLine.Arguments
import LiveDeck.Deck.Job

/-! # Plans

What a command line makes the program do: explain itself, report a misuse, render a source once,
or watch it.  The paths of a source and its deck may begin with a home directory, and a deck lies
in the current directory if no other path is given for it; without these directories there is no
plan. -/

namespace LiveDeck.CommandLine

/-- What the program is to do. -/
inductive Plan where
  | explain
  | reject (misuse : Misuse)
  | once (job : Job)
  | watch (job : Job) (interval : Double)
  deriving DecidableEq, Repr

/-- Why a path has no home directory to begin with: nobody knows it, or no user is called so. -/
inductive NoHome where
  | unknown
  | badName
  deriving DecidableEq, Repr

namespace NoHome

/-- The kind of a missing home, by name. -/
def kind : NoHome → String
  | .unknown => "RuntimeError"
  | .badName => "ValueError"

/-- A missing home in words. -/
def message : NoHome → String
  | .unknown => "Could not determine home directory."
  | .badName => "embedded null byte"

/-- Why the home directory of a path is missing. -/
def ofPath (path : Path) : NoHome :=
  if (path.names.headD "").contains '\x00' then .badName else .unknown

end NoHome

/-- Why a command line has no plan: a path has no home directory to begin with, or there is no
current directory for the deck to lie in. -/
inductive NoPlan where
  | home (cause : NoHome)
  | here
  deriving DecidableEq, Repr

namespace NoPlan

/-- The kind of a missing plan, by name. -/
def kind : NoPlan → String
  | .home cause => cause.kind
  | .here => "FileNotFoundError"

/-- A missing plan in words. -/
def message : NoPlan → String
  | .home cause => cause.message
  | .here => "[Errno 2] No such file or directory"

end NoPlan

/-- The path that an argument names. -/
def pathOf (env : Environment) (argument : String) : Except NoPlan Path :=
  let path := Path.ofText argument
  match path.expandHome? env.homes with
  | some expanded => .ok expanded
  | none => .error (.home (.ofPath path))

/-- The deck of a source in the current directory. -/
def deckHere (here? : Option Path) (source : Path) : Except NoPlan Path :=
  match here? with
  | some here => .ok (here.deckIn source)
  | none => .error .here

/-- The deck that arguments ask for; an empty path counts as none. -/
def deckOf (env : Environment) (here? : Option Path) (source : Path) (output? : Option String) :
    Except NoPlan Path :=
  match output? with
  | none => deckHere here? source
  | some output => if output.isEmpty then deckHere here? source else pathOf env output

/-- What the program is to do for arguments. -/
def Arguments.plan (arguments : Arguments) (env : Environment) (here? : Option Path) :
    Except NoPlan Plan := do
  let source ← pathOf env arguments.source
  let deck ← deckOf env here? source arguments.output?
  let job := Job.beside source deck arguments.style
  .ok (if arguments.once then .once job else .watch job arguments.interval)

/-- What the program is to do for a command line in a directory, if that is still there. -/
def plan (env : Environment) (here? : Option Path) (words : List String) : Except NoPlan Plan :=
  match readArguments env words with
  | .error misuse => .ok (.reject misuse)
  | .ok none => .ok .explain
  | .ok (some arguments) => arguments.plan env here?

end LiveDeck.CommandLine
