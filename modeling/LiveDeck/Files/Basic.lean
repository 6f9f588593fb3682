import LiveDeck.Files.Path
import LiveDeck.Text.Quoted

/-! # Files

What stands at each place of a tree of directories, and a current directory in it.  A place is
the names that lead to it from the root; a path is resolved to its place by following its names
through directories.  `find?` is the view of the tree: `find?_put` and `find?_remove` say what
the two changes do to it, and that they do nothing anywhere else. -/

namespace LiveDeck

/-- What stands at a place. -/
inductive Entry where
  | directory
  | file (bytes : List UInt8)
  deriving DecidableEq, Repr

/-- The names that lead from the root to a place. -/
abbrev Place := List String

/-- A tree of files and the current directory. -/
structure Files where
  here : Place
  entries : List (Place × Entry)
  deriving DecidableEq, Repr

/-- Why a file operation cannot be done. -/
inductive Obstacle where
  | missing
  | present
  | notDirectory
  | isDirectory
  | badName
  deriving DecidableEq, Repr

/-- A file operation that cannot be done, and the path it was about. -/
structure FileFault where
  obstacle : Obstacle
  path : String
  deriving DecidableEq, Repr

namespace FileFault

/-- The kind of a fault, by name. -/
def kind (fault : FileFault) : String :=
  match fault.obstacle with
  | .missing => "FileNotFoundError"
  | .present => "FileExistsError"
  | .notDirectory => "NotADirectoryError"
  | .isDirectory => "IsADirectoryError"
  | .badName => "ValueError"

/-- The text of a fault. -/
def message (fault : FileFault) : String :=
  match fault.obstacle with
  | .missing => s!"[Errno 2] No such file or directory: {Text.quoted fault.path}"
  | .present => s!"[Errno 17] File exists: {Text.quoted fault.path}"
  | .notDirectory => s!"[Errno 20] Not a directory: {Text.quoted fault.path}"
  | .isDirectory => s!"[Errno 21] Is a directory: {Text.quoted fault.path}"
  | .badName => "embedded null byte"

end FileFault

namespace Files

/-! ### Places -/

/-- Puts an entry at a place of a list of entries, in its old position if there is one. -/
def putIn (place : Place) (entry : Entry) : List (Place × Entry) → List (Place × Entry)
  | [] => [(place, entry)]
  | (other, old) :: rest =>
    if other = place then (place, entry) :: rest else (other, old) :: putIn place entry rest

/-- What stands at a place. -/
def find? (files : Files) (place : Place) : Option Entry := files.entries.lookup place

/-- Puts an entry at a place. -/
def put (files : Files) (place : Place) (entry : Entry) : Files :=
  { files with entries := putIn place entry files.entries }

/-- Takes away what stands at a place. -/
def remove (files : Files) (place : Place) : Files :=
  { files with entries := files.entries.filter fun item => item.1 != place }

/-- A tree that holds nothing but the current directory and the directories around it. -/
def inside (here : Place) : Files :=
  ⟨here, (List.range (here.length + 1)).map fun depth => (here.take depth, .directory)⟩

theorem lookup_cons_ne {first other : Place} (h : other ≠ first) (entry : Entry)
    (entries : List (Place × Entry)) :
    ((first, entry) :: entries).lookup other = entries.lookup other := by
  simp [List.lookup_cons, beq_eq_false_iff_ne.2 h]

theorem lookup_putIn (place other : Place) (entry : Entry) (entries : List (Place × Entry)) :
    (putIn place entry entries).lookup other =
      if other = place then some entry else entries.lookup other := by
  induction entries with
  | nil =>
    by_cases h : other = place
    · simp [putIn, h]
    · simp [putIn, h, lookup_cons_ne h]
  | cons item rest ih =>
    obtain ⟨first, old⟩ := item
    by_cases h : first = place
    · subst h
      by_cases h' : other = first
      · simp [putIn, h']
      · simp [putIn, h', lookup_cons_ne h']
    · by_cases h' : other = first
      · subst h'
        simp [putIn, h]
      · simp [putIn, h, lookup_cons_ne h', ih]

/-- Putting an entry changes one place only. -/
theorem find?_put (files : Files) (place other : Place) (entry : Entry) :
    (files.put place entry).find? other =
      if other = place then some entry else files.find? other :=
  lookup_putIn place other entry files.entries

theorem lookup_filter_ne (place other : Place) (entries : List (Place × Entry)) :
    (entries.filter fun item => item.1 != place).lookup other =
      if other = place then none else entries.lookup other := by
  induction entries with
  | nil => simp
  | cons item rest ih =>
    obtain ⟨first, old⟩ := item
    by_cases h : first = place
    · subst h
      by_cases h' : other = first
      · simpa [h'] using ih
      · simpa [h', lookup_cons_ne h'] using ih
    · by_cases h' : other = first
      · subst h'
        simp [h]
      · simp [h, lookup_cons_ne h', ih]

/-- Removing changes one place only. -/
theorem find?_remove (files : Files) (place other : Place) :
    (files.remove place).find? other =
      if other = place then none else files.find? other :=
  lookup_filter_ne place other files.entries

/-! ### Resolving paths -/

/-- Follows names from a place; each but the last must lead to a directory. -/
def walk (files : Files) (place : Place) : List String → Except Obstacle Place
  | [] => .ok place
  | name :: rest =>
    match files.find? place with
    | some .directory => walk files (if name = ".." then place.dropLast else place ++ [name]) rest
    | some (.file _) => .error .notDirectory
    | none => .error .missing

/-- The place a path leads to. -/
def place (files : Files) (path : Path) : Except Obstacle Place :=
  if path.names.any fun name => name.contains '\x00' then .error .badName
  else files.walk (if path.anchor = .here then files.here else []) path.names

/-- Whether something stands where a path leads. -/
def holds (files : Files) (path : Path) : Bool :=
  match files.place path with
  | .ok place => (files.find? place).isSome
  | .error _ => false

/-! ### Operations -/

/-- The bytes of a file. -/
def read (files : Files) (path : Path) : Except FileFault (List UInt8) :=
  match files.place path with
  | .error obstacle => .error ⟨obstacle, path.text⟩
  | .ok place =>
    match files.find? place with
    | some (.file bytes) => .ok bytes
    | some .directory => .error ⟨.isDirectory, path.text⟩
    | none => .error ⟨.missing, path.text⟩

/-- Makes a file hold bytes and nothing else, whether it is there or not. -/
def write (files : Files) (path : Path) (bytes : List UInt8) : Except FileFault Files :=
  match files.place path with
  | .error obstacle => .error ⟨obstacle, path.text⟩
  | .ok place =>
    if files.find? place = some .directory then .error ⟨.isDirectory, path.text⟩
    else .ok (files.put place (.file bytes))

/-- Makes a directory where nothing stands. -/
def makeDirectory (files : Files) (path : Path) : Except FileFault Files :=
  match files.place path with
  | .error obstacle => .error ⟨obstacle, path.text⟩
  | .ok place =>
    if (files.find? place).isSome then .error ⟨.present, path.text⟩
    else .ok (files.put place .directory)

/-- Takes away a file. -/
def delete (files : Files) (path : Path) : Except FileFault Files :=
  match files.place path with
  | .error obstacle => .error ⟨obstacle, path.text⟩
  | .ok place =>
    match files.find? place with
    | some (.file _) => .ok (files.remove place)
    | some .directory => .error ⟨.isDirectory, path.text⟩
    | none => .error ⟨.missing, path.text⟩

end Files

end LiveDeck
