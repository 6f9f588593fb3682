import LiveDeck.Proofs.Files.Targets

/-! # Directories

A path that can be followed leads through directories only, so two trees with the same directories
(`SameDirectories`) lead it to the same place (`place_eq_ok_iff`).  A write makes no directory and
takes none away (`sameDirectories_write`).  So what was written stands where its path leads
(`holds_of_written`), what stood anywhere before is still there (`holds_of_write`), and a file that
the path does not lead to holds the same bytes (`read_of_write`). -/

namespace LiveDeck

namespace Files

variable {files before after : Files} {path other : Path} {place : Place}

/-! ### Directories -/

/-- One current directory, and directories at the same places. -/
def SameDirectories (before after : Files) : Prop :=
  after.here = before.here ∧
    ∀ place, after.find? place = some .directory ↔ before.find? place = some .directory

theorem SameDirectories.refl (files : Files) : SameDirectories files files :=
  ⟨rfl, fun _ => Iff.rfl⟩

theorem walk_cons_eq_ok_iff {name : String} {rest : List String} {final : Place} :
    files.walk place (name :: rest) = .ok final ↔
      files.find? place = some .directory ∧ files.walk (Path.follow place name) rest = .ok final := by
  rw [walk]
  cases hplace : files.find? place with
  | none => simp
  | some entry =>
      cases entry with
      | directory => simp [Path.follow]
      | file bytes => simp

theorem walk_eq_ok_iff (h : SameDirectories before after) {names : List String} :
    ∀ {place final : Place},
      after.walk place names = .ok final ↔ before.walk place names = .ok final := by
  induction names with
  | nil =>
      intro place final
      unfold walk
      exact Iff.rfl
  | cons name rest ih =>
      intro place final
      rw [walk_cons_eq_ok_iff, walk_cons_eq_ok_iff, h.2 place, ih]

theorem place_eq_ok_iff (h : SameDirectories before after) :
    after.place path = .ok place ↔ before.place path = .ok place := by
  unfold Files.place
  rw [h.1]
  split
  · exact Iff.rfl
  · exact walk_eq_ok_iff h

theorem place_of_name {name : String} (hname : '\x00' ∉ name.toList) (hdots : name ≠ "..")
    (hhere : files.find? files.here = some .directory) :
    files.place ⟨.here, [name]⟩ = .ok (files.here ++ [name]) := by
  have hcontains : name.contains '\x00' = false := by
    rw [String.contains_char_eq]
    exact decide_eq_false hname
  unfold Files.place
  rw [List.any_cons, hcontains, List.any_nil, if_neg (by decide), if_pos rfl, walk_cons_eq_ok_iff]
  refine ⟨hhere, ?_⟩
  rw [walk, Path.follow, if_neg hdots]

/-- A write puts a file where its path leads, unless that is a directory. -/
theorem write_eq_ok_iff {bytes : List UInt8} :
    before.write path bytes = .ok after ↔
      ∃ target, before.place path = .ok target ∧ before.find? target ≠ some .directory ∧
        after = before.put target (.file bytes) := by
  unfold write
  split
  · rename_i hplace
    simp [hplace]
  · rename_i target hplace
    split
    · rename_i hdirectory
      simp [hplace, hdirectory]
    · rename_i hfree
      constructor
      · intro h
        exact ⟨target, hplace, hfree, (Except.ok.inj h).symm⟩
      · rintro ⟨other, hother, _, rfl⟩
        cases hplace.symm.trans hother
        rfl

theorem sameDirectories_write {bytes : List UInt8} (h : before.write path bytes = .ok after) :
    SameDirectories before after := by
  obtain ⟨target, _, hfree, rfl⟩ := write_eq_ok_iff.mp h
  refine ⟨rfl, fun place => ?_⟩
  rw [find?_put]
  split
  · rename_i heq
    subst heq
    simp [hfree]
  · exact Iff.rfl

/-! ### What stands at a path after a write -/

theorem holds_iff :
    files.holds path = true ↔ ∃ place, files.place path = .ok place ∧ files.find? place ≠ none := by
  unfold holds
  split
  · rename_i place hplace
    simp [hplace, Option.isSome_iff_ne_none]
  · rename_i hplace
    simp [hplace]

theorem read_eq_ok_iff {bytes : List UInt8} :
    files.read path = .ok bytes ↔
      ∃ place, files.place path = .ok place ∧ files.find? place = some (.file bytes) := by
  unfold read
  split
  · rename_i hplace
    simp [hplace]
  · rename_i place hplace
    split
    · rename_i hfound
      simp [hplace, hfound]
    · rename_i hfound
      simp [hplace, hfound]
    · rename_i hfound
      simp [hplace, hfound]

theorem holds_of_written {bytes : List UInt8} (h : before.write path bytes = .ok after) :
    after.holds path = true := by
  obtain ⟨target, hplace, _, rfl⟩ := write_eq_ok_iff.mp h
  rw [holds_iff]
  refine ⟨target, (place_eq_ok_iff (sameDirectories_write h)).mpr hplace, ?_⟩
  rw [find?_put, if_pos rfl]
  simp

theorem putIn_putIn (place : Place) (old new : Entry) (entries : List (Place × Entry)) :
    putIn place new (putIn place old entries) = putIn place new entries := by
  induction entries with
  | nil => simp [putIn]
  | cons item entries ih =>
      obtain ⟨other, entry⟩ := item
      by_cases h : other = place
      · rw [putIn, if_pos h, putIn, if_pos rfl, putIn, if_pos h]
      · rw [putIn, if_neg h, putIn, if_neg h, ih, putIn, if_neg h]

/-- A write that is repeated changes nothing. -/
theorem write_again {bytes : List UInt8} (h : before.write path bytes = .ok after) :
    after.write path bytes = .ok after := by
  have hsame := sameDirectories_write h
  obtain ⟨target, hplace, _, rfl⟩ := write_eq_ok_iff.mp h
  refine write_eq_ok_iff.mpr ⟨target, (place_eq_ok_iff hsame).mpr hplace, ?_, ?_⟩
  · rw [find?_put, if_pos rfl]
    nofun
  · unfold put
    rw [putIn_putIn]

theorem holds_of_write {bytes : List UInt8} (hholds : before.holds path = true)
    (h : before.write other bytes = .ok after) : after.holds path = true := by
  obtain ⟨target, _, _, rfl⟩ := write_eq_ok_iff.mp h
  obtain ⟨place, hplace, hfound⟩ := holds_iff.mp hholds
  rw [holds_iff]
  refine ⟨place, (place_eq_ok_iff (sameDirectories_write h)).mpr hplace, ?_⟩
  rw [find?_put]
  split
  · simp
  · exact hfound

/-- Two paths that do not lead to one place. -/
def Apart (files : Files) (path other : Path) : Prop :=
  ∀ place, files.place path = .ok place → files.place other ≠ .ok place

theorem Apart.of_target_ne (h : path.target files.here ≠ other.target files.here) :
    files.Apart path other := by
  intro place hpath hother
  exact h ((place_eq_ok hpath).symm.trans (place_eq_ok hother))

theorem Apart.of_sameDirectories (h : before.Apart path other) (hsame : SameDirectories before after) :
    after.Apart path other := by
  intro place hpath hother
  exact h place ((place_eq_ok_iff hsame).mp hpath) ((place_eq_ok_iff hsame).mp hother)

theorem read_of_write {bytes written : List UInt8} (hapart : before.Apart path other)
    (hread : before.read path = .ok bytes) (h : before.write other written = .ok after) :
    after.read path = .ok bytes := by
  obtain ⟨target, htarget, _, rfl⟩ := write_eq_ok_iff.mp h
  obtain ⟨place, hplace, hfound⟩ := read_eq_ok_iff.mp hread
  have hne : place ≠ target := by
    rintro rfl
    exact hapart place hplace htarget
  rw [read_eq_ok_iff]
  refine ⟨place, (place_eq_ok_iff (sameDirectories_write h)).mpr hplace, ?_⟩
  rw [find?_put, if_neg hne, hfound]

end Files

end LiveDeck
