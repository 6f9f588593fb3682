import LiveDeck.Files.Basic

/-! # Where paths lead

A path that can be followed leads to a place that its names alone decide: `Path.target`, one name
after another from the current directory or the root.  The tree only decides whether the path can
be followed (`place_eq_ok`).  Each operation that succeeds therefore changes the target of its path
and nothing else (`write_eq_ok`, `delete_eq_ok`, `makeDirectory_eq_ok`).

`SameAt place` relates two trees with one current directory and the same entry at a place; an
operation on a path with another target is such a step (`sameAt_write`, `sameAt_delete`,
`sameAt_makeDirectory`). -/

namespace LiveDeck

namespace Path

/-- One name further from a place. -/
def follow (place : Place) (name : String) : Place :=
  if name = ".." then place.dropLast else place ++ [name]

/-- The place that a path leads to if it can be followed. -/
def target (here : Place) (path : Path) : Place :=
  path.names.foldl follow (if path.anchor = .here then here else [])

end Path

namespace Files

/-- One current directory, and the same entry at a place. -/
def SameAt (place : Place) (before after : Files) : Prop :=
  after.here = before.here ∧ after.find? place = before.find? place

theorem SameAt.refl (place : Place) (files : Files) : SameAt place files files := ⟨rfl, rfl⟩

/-! ### Targets -/

theorem walk_eq_ok {files : Files} {names : List String} : ∀ {place final : Place},
    files.walk place names = .ok final → final = names.foldl Path.follow place := by
  induction names with
  | nil =>
      intro place final h
      simp only [walk, Except.ok.injEq] at h
      exact h.symm
  | cons name rest ih =>
      intro place final h
      unfold walk at h
      split at h
      · exact ih h
      · cases h
      · cases h

theorem place_eq_ok {files : Files} {path : Path} {place : Place}
    (h : files.place path = .ok place) : place = path.target files.here := by
  unfold Files.place at h
  split at h
  · cases h
  · exact walk_eq_ok h

/-! ### What the operations change -/

theorem write_eq_ok {files after : Files} {path : Path} {bytes : List UInt8}
    (h : files.write path bytes = .ok after) :
    after = files.put (path.target files.here) (.file bytes) := by
  unfold write at h
  split at h
  · cases h
  · rename_i place hplace
    split at h
    · cases h
    · rw [← place_eq_ok hplace]
      exact (Except.ok.inj h).symm

theorem delete_eq_ok {files after : Files} {path : Path} (h : files.delete path = .ok after) :
    after = files.remove (path.target files.here) := by
  unfold delete at h
  split at h
  · cases h
  · rename_i place hplace
    rw [← place_eq_ok hplace]
    split at h
    · exact (Except.ok.inj h).symm
    · cases h
    · cases h

theorem makeDirectory_eq_ok {files after : Files} {path : Path}
    (h : files.makeDirectory path = .ok after) :
    after = files.put (path.target files.here) .directory := by
  unfold makeDirectory at h
  split at h
  · cases h
  · rename_i place hplace
    split at h
    · cases h
    · rw [← place_eq_ok hplace]
      exact (Except.ok.inj h).symm

theorem find?_target_of_write {files after : Files} {path : Path} {bytes : List UInt8}
    (h : files.write path bytes = .ok after) :
    after.find? (path.target files.here) = some (.file bytes) := by
  rw [write_eq_ok h, find?_put, if_pos rfl]

theorem sameAt_put {files : Files} {place other : Place} (hne : other ≠ place) (entry : Entry) :
    SameAt other files (files.put place entry) := by
  refine ⟨rfl, ?_⟩
  rw [find?_put, if_neg hne]

theorem sameAt_write {files after : Files} {path : Path} {bytes : List UInt8} {place : Place}
    (hne : place ≠ path.target files.here) (h : files.write path bytes = .ok after) :
    SameAt place files after := by
  rw [write_eq_ok h]
  exact sameAt_put hne _

theorem sameAt_delete {files after : Files} {path : Path} {place : Place}
    (hne : place ≠ path.target files.here) (h : files.delete path = .ok after) :
    SameAt place files after := by
  rw [delete_eq_ok h]
  refine ⟨rfl, ?_⟩
  rw [find?_remove, if_neg hne]

theorem sameAt_makeDirectory {files after : Files} {path : Path} {place : Place}
    (hne : place ≠ path.target files.here) (h : files.makeDirectory path = .ok after) :
    SameAt place files after := by
  rw [makeDirectory_eq_ok h]
  exact sameAt_put hne _

end Files

end LiveDeck
