import Magnetometer.Proofs.FileSystem.Overwrite

/-!
# What a write leaves alone

Missing directories are made where nothing stands, and a file is put where its
path leads.  Everything else that stands in the tree stays as it is, so that a
write to one file is felt by no reader of another one.
-/

namespace Magnetometer.FileSystem

variable {fs : FileSystem} {place : Location} {entry : Entry}

/-- A directory is made where nothing stands. -/
theorem find?_makeDirectory {after : FileSystem} {path : Path}
    (made : fs.makeDirectory path = .ok after) (stands : fs.find? place = some entry) :
    after.find? place = some entry := by
  obtain ⟨destination, placed, made⟩ := bind_eq_ok_iff.mp made
  split at made
  · contradiction
  · rename_i directory name slashes
    split at made
    · contradiction
    · split at made
      · contradiction
      · rename_i free
        cases made
        rw [find?_put_other]
        · exact stands
        · rintro rfl
          rw [stands] at free
          exact free rfl

theorem find?_makeDirectoriesWithin (depth : Nat) (path : Path)
    (stands : fs.find? place = some entry) :
    (fs.makeDirectoriesWithin depth path).1.find? place = some entry := by
  induction depth generalizing fs path with
  | zero => exact stands
  | succ depth ih =>
      unfold makeDirectoriesWithin
      split
      · exact stands
      · split
        · rename_i made
          exact find?_makeDirectory made stands
        · split
          · exact stands
          · rename_i above parent
            have standsAbove := ih above stands
            split
            · rename_i failed
              rw [failed] at standsAbove
              exact standsAbove
            · rename_i madeAbove
              rw [madeAbove] at standsAbove
              split
              · rename_i made
                exact find?_makeDirectory made standsAbove
              · exact standsAbove
        · exact stands

/-- A file is written once its directories are made, and what stood before stands
then. -/
theorem exists_write_of_writeWithDirectories {after : FileSystem} {path : Path} {content : Bytes}
    (written : fs.writeWithDirectories path content = (after, .ok ())) :
    ∃ base : FileSystem, base.write path content = .ok after ∧
      ∀ place entry, fs.find? place = some entry → base.find? place = some entry := by
  unfold writeWithDirectories at written
  cases parent : path.parent? with
  | none =>
      rw [parent] at written
      dsimp only at written
      split at written
      · rename_i wrote
        cases written
        exact ⟨fs, wrote, fun _ _ stands => stands⟩
      · cases written
  | some above =>
      rw [parent] at written
      dsimp only at written
      split at written
      · cases written
      · split at written
        · rename_i wrote
          cases written
          exact ⟨_, wrote, fun _ _ stands => find?_makeDirectoriesWithin _ _ stands⟩
        · cases written

/-- What stands in the tree stays as it is unless the file is written there. -/
theorem find?_writeWithDirectories {after : FileSystem} {path : Path} {content : Bytes}
    (written : fs.writeWithDirectories path content = (after, .ok ()))
    (elsewhere : after.resolve path ≠ .ok place) (stands : fs.find? place = some entry) :
    after.find? place = some entry := by
  obtain ⟨base, wrote, stays⟩ := exists_write_of_writeWithDirectories written
  obtain ⟨location, after_eq, -, resolved, -⟩ := exists_of_write wrote
  rw [after_eq, find?_put_other]
  · exact stays place entry stands
  · rintro rfl
    exact elsewhere resolved

/-! ## Paths of files -/

/-- A file can be kept at a path: the one that is there can be read, or none is
there and one can be made. -/
def Keeps (fs : FileSystem) (path : Path) : Prop :=
  (∃ content, fs.read path = .ok content) ∨
    fs.read path = .error .notFound ∧ ∃ after, fs.writeWithDirectories path [] = (after, .ok ())

/-- A file that is written at a path does not come to stand where another path
leads. -/
def Apart (fs : FileSystem) (path other : Path) : Prop :=
  ∀ content after, fs.writeWithDirectories path content = (after, .ok ()) →
    after.resolve path ≠ fs.resolve other

/-- Where a file can be kept, every write succeeds. -/
theorem Keeps.exists_written {path : Path} (keeps : fs.Keeps path) (content : Bytes) :
    ∃ after, fs.writeWithDirectories path content = (after, .ok ()) := by
  rcases keeps with ⟨old, read⟩ | ⟨-, made, written⟩
  · obtain ⟨location, -, accepted⟩ := writeWithDirectories_of_read read
    exact ⟨_, accepted content⟩
  · obtain ⟨base, location, -, -, accepted⟩ := exists_of_writeWithDirectories written
    exact ⟨_, accepted content⟩

/-- A tree in which something was put tells where. -/
theorem location_eq_of_put_eq {base basis : FileSystem} {location : Location} {other : Entry}
    (same : base.put location entry = basis.put place other) : location = place :=
  congrArg Prod.fst (Option.some.inj (congrArg (fun files => files.entries.head?) same))

/-- Where a file is written does not depend on its content. -/
theorem resolve_eq_of_written {first second : FileSystem} {path : Path} {content other : Bytes}
    (writtenFirst : fs.writeWithDirectories path content = (first, .ok ()))
    (writtenSecond : fs.writeWithDirectories path other = (second, .ok ())) :
    second.resolve path = first.resolve path := by
  obtain ⟨base, location, -, resolved, accepted⟩ := exists_of_writeWithDirectories writtenFirst
  obtain ⟨basis, place, second_eq, leads, -⟩ := exists_of_writeWithDirectories writtenSecond
  have files_eq : basis.put place (.file other) = base.put location (.file other) := by
    rw [← second_eq]
    exact congrArg Prod.fst (writtenSecond.symm.trans (accepted other))
  rw [leads, resolved, location_eq_of_put_eq files_eq]

/-- Two paths are apart if one write shows it. -/
theorem apart_of_written {after : FileSystem} {path other : Path} {content : Bytes}
    (written : fs.writeWithDirectories path content = (after, .ok ()))
    (elsewhere : after.resolve path ≠ fs.resolve other) : fs.Apart path other := by
  intro content last writtenLast
  rw [resolve_eq_of_written written writtenLast]
  exact elsewhere

/-- The path of a file is apart from each path that does not lead to this file. -/
theorem apart_of_read {path other : Path} {content : Bytes} (read : fs.read path = .ok content)
    (elsewhere : fs.resolve path ≠ fs.resolve other) : fs.Apart path other := by
  obtain ⟨location, resolved, accepted⟩ := writeWithDirectories_of_read read
  obtain ⟨base, place, after_eq, leads, -⟩ := exists_of_writeWithDirectories (accepted content)
  refine apart_of_written (accepted content) ?_
  rw [leads, ← location_eq_of_put_eq after_eq, ← resolved]
  exact elsewhere

end Magnetometer.FileSystem
