/-! # Paths

A path names a file from the current directory or from the root.  Reading one leaves out what
says nothing: empty names and single dots.  Two dots are a name like any other.  Two slashes in
front, and no more than two, are kept apart from one. -/

namespace LiveDeck

/-- Where a path starts. -/
inductive Anchor where
  | here
  | root
  | doubleRoot
  deriving DecidableEq, Repr

/-- The slashes in front of a path. -/
def Anchor.text : Anchor → String
  | .here => ""
  | .root => "/"
  | .doubleRoot => "//"

/-- A path: where it starts, and the names to follow. -/
structure Path where
  anchor : Anchor
  names : List String
  deriving DecidableEq, Repr

namespace Path

/-- Where a written path starts. -/
def anchorOf : List Char → Anchor
  | '/' :: '/' :: '/' :: _ => .root
  | '/' :: '/' :: _ => .doubleRoot
  | '/' :: _ => .root
  | _ => .here

/-- Whether a part between slashes is a name. -/
def isName (part : List Char) : Bool := part != [] && part != ['.']

/-- The names of a written path. -/
def namesOf (text : List Char) : List String :=
  ((text.splitOn '/').filter isName).map String.ofList

/-- Reads a path. -/
def ofText (text : String) : Path := ⟨anchorOf text.toList, namesOf text.toList⟩

/-- Writes a path; the current directory itself is a dot. -/
def text (path : Path) : String :=
  if path.anchor = .here ∧ path.names = [] then "."
  else path.anchor.text ++ "/".intercalate path.names

/-- The last name; nothing if there is none. -/
def name (path : Path) : String := path.names.getLastD ""

/-- The directory that holds what a path names. -/
def parent (path : Path) : Path := { path with names := path.names.dropLast }

/-- What a name stands for inside the directory of a path. -/
def child (path : Path) (name : String) : Path := { path with names := path.names ++ [name] }

theorem parent_child (path : Path) (name : String) : (path.child name).parent = path := by
  simp [child, parent]

theorem name_child (path : Path) (name : String) : (path.child name).name = name := by
  simp [child, Path.name]

/-- The home directories a path may begin with: the user's own, and those of others by name. -/
structure Homes where
  own? : Option String
  others : List (String × String)
  deriving DecidableEq, Repr

/-- The home directory that a first name such as `~` or `~user` stands for. -/
def Homes.find? (homes : Homes) (user : String) : Option String :=
  if user = "" then homes.own? else homes.others.lookup user

/-- The home directory in a line of an account table, by the name of its user. -/
def ofAccount? (line : String) : Option (String × String) :=
  match line.toList.splitOn ':' with
  | user :: _ :: _ :: _ :: _ :: home :: _ => some (String.ofList user, String.ofList home)
  | _ => none

/-- The user whose home directory a name stands for. -/
def userOf? (name : String) : Option String :=
  match name.toList with
  | '~' :: user => some (String.ofList user)
  | _ => none

/-- A home directory without the slashes at its end; the root stays. -/
def ofHome (home : String) : Path :=
  let kept := (home.toList.reverse.dropWhile (· == '/')).reverse
  if kept.isEmpty then ofText "/" else ofText (String.ofList kept)

/-- A path with its home directory in place of a first name such as `~` or `~user`.  There is no
such path if the home is unknown or begins with a tilde itself. -/
def expandHome? (homes : Homes) (path : Path) : Option Path :=
  match path.anchor, path.names with
  | .here, first :: rest =>
    match userOf? first with
    | none => some path
    | some user => do
      let home ← homes.find? user
      if home.toList.head? = some '~' then none
      else
        let start := ofHome home
        some { start with names := start.names ++ rest }
  | _, _ => some path

end Path

end LiveDeck
