import Magnetometer.FileSystem.Tree

/-!
# Reading back a written file

A write leaves alone what the walk to the file passes through: the file stands
where no directory stood, so every name on the way leads where it led before.
A read of the path then finds the file and its whole new content, whatever the
tree held there.
-/

namespace Magnetometer.FileSystem

/-- An operation and the one after it succeed together. -/
theorem bind_eq_ok_iff {ε α β : Type} {first : Except ε α} {next : α → Except ε β} {result : β} :
    first >>= next = .ok result ↔ ∃ value, first = .ok value ∧ next value = .ok result := by
  cases first with
  | error fault => exact ⟨nofun, fun ⟨_, wrong, _⟩ => nomatch wrong⟩
  | ok value =>
      constructor
      · exact fun succeeded => ⟨value, rfl, succeeded⟩
      · rintro ⟨_, ⟨⟩, succeeded⟩
        exact succeeded

/-! ## Walking -/

/-- Where a name leads from a location. -/
inductive Enters (fs : FileSystem) (location : Location) (name : Path.Name) : Location → Prop
  | stay (directory : fs.find? location = some .directory) (idle : Path.isIdle name = true) :
      Enters fs location name location
  | leave (directory : fs.find? location = some .directory) (idle : Path.isIdle name = false)
      (up : name = Path.up) : Enters fs location name location.dropLast
  | descend (directory : fs.find? location = some .directory) (idle : Path.isIdle name = false)
      (down : name ≠ Path.up) (short : name.length ≤ maxName)
      (found : (fs.find? (location ++ [name])).isSome = true) :
      Enters fs location name (location ++ [name])

theorem enter_eq_ok_iff {fs : FileSystem} {location next : Location} {name : Path.Name} :
    fs.enter location name = .ok next ↔ fs.Enters location name next := by
  constructor
  · intro entered
    unfold enter at entered
    split at entered
    · contradiction
    · contradiction
    · rename_i directory
      split at entered
      · rename_i idle
        cases entered
        exact .stay directory idle
      · rename_i idle
        rw [Bool.not_eq_true] at idle
        split at entered
        · rename_i up
          cases entered
          exact .leave directory idle up
        · rename_i down
          split at entered
          · contradiction
          · rename_i short
            split at entered
            · rename_i found
              cases entered
              exact .descend directory idle down (Nat.le_of_not_lt short) found
            · contradiction
  · intro enters
    unfold enter
    cases enters with
    | stay directory idle => simp [directory, idle]
    | leave directory idle up =>
        subst up
        simp [directory, idle]
    | descend directory idle down short found =>
        simp [directory, idle, down, Nat.not_lt.mpr short, found]

/-- A file put where no directory stood leaves every way through the tree as it
was. -/
theorem Enters.put {fs : FileSystem} {location next place : Location} {name : Path.Name}
    (enters : fs.Enters location name next) (free : fs.find? place ≠ some .directory)
    (entry : Entry) : (fs.put place entry).Enters location name next := by
  have kept : fs.find? location = some .directory →
      (fs.put place entry).find? location = some .directory := by
    intro directory
    rw [find?_put_other fs entry]
    · exact directory
    · rintro rfl
      exact free directory
  cases enters with
  | stay directory idle => exact .stay (kept directory) idle
  | leave directory idle up => exact .leave (kept directory) idle up
  | descend directory idle down short found =>
      refine .descend (kept directory) idle down short ?_
      by_cases same : location ++ [name] = place
      · subst same
        rw [find?_put_same fs entry (List.concat_ne_nil _ _)]
        rfl
      · rw [find?_put_other fs entry same]
        exact found

theorem walk_append_eq_ok_iff {fs : FileSystem} {start last : Location}
    {names more : List Path.Name} :
    fs.walk start (names ++ more) = .ok last ↔
      ∃ middle, fs.walk start names = .ok middle ∧ fs.walk middle more = .ok last := by
  induction names generalizing start with
  | nil =>
      constructor
      · exact fun walked => ⟨start, rfl, walked⟩
      · rintro ⟨_, ⟨⟩, walked⟩
        exact walked
  | cons name rest ih =>
      rw [List.cons_append, walk, walk, bind_eq_ok_iff]
      constructor
      · rintro ⟨next, entered, walked⟩
        obtain ⟨middle, walkedRest, walkedMore⟩ := ih.mp walked
        exact ⟨middle, bind_eq_ok_iff.mpr ⟨next, entered, walkedRest⟩, walkedMore⟩
      · rintro ⟨middle, walked, walkedMore⟩
        obtain ⟨next, entered, walkedRest⟩ := bind_eq_ok_iff.mp walked
        exact ⟨next, entered, ih.mpr ⟨middle, walkedRest, walkedMore⟩⟩

theorem walk_put {fs : FileSystem} {start last place : Location} {names : List Path.Name}
    (walked : fs.walk start names = .ok last) (free : fs.find? place ≠ some .directory)
    (entry : Entry) : (fs.put place entry).walk start names = .ok last := by
  induction names generalizing start with
  | nil => exact walked
  | cons name rest ih =>
      rw [walk, bind_eq_ok_iff] at walked ⊢
      obtain ⟨next, entered, walkedRest⟩ := walked
      have enters := (enter_eq_ok_iff.mp entered).put free entry
      exact ⟨next, enter_eq_ok_iff.mpr enters, ih walkedRest⟩

/-! ## Targets -/

/-- How a path names a file: the directory that holds it and its name there. -/
structure Names (fs : FileSystem) (path : Path) (directory : Location) (name : Path.Name) :
    Prop where
  proper : check path = .ok ()
  split : ∃ above, path.names = above ++ [name] ∧ fs.walk [] above = .ok directory
  holds : fs.find? directory = some .directory
  idle : Path.isIdle name = false
  down : name ≠ Path.up

theorem names_of_destination {fs : FileSystem} {path : Path} {directory : Location}
    {name : Path.Name} (placed : fs.destination path = .ok (directory, some name, false)) :
    fs.Names path directory name := by
  obtain ⟨checked, proper, placed⟩ := bind_eq_ok_iff.mp placed
  dsimp only at placed
  split at placed
  · cases placed
  · rename_i last above backwards
    split at placed
    · obtain ⟨location, walked, placed⟩ := bind_eq_ok_iff.mp placed
      cases placed
    · rename_i named
      obtain ⟨location, walked, placed⟩ := bind_eq_ok_iff.mp placed
      split at placed
      · rename_i holds
        simp only [Except.ok.injEq, Prod.mk.injEq, Option.some.injEq, Bool.not_eq_false'] at placed
        obtain ⟨rfl, rfl, slashes⟩ := placed
        rw [List.isEmpty_iff] at slashes
        have reversed : path.names.reverse = last :: above := by
          rw [← List.takeWhile_append_dropWhile (p := (· == [])) (l := path.names.reverse), slashes,
            backwards, List.nil_append]
        have nonempty : last ≠ [] := by
          rintro rfl
          rw [reversed] at slashes
          contradiction
        rw [not_or] at named
        constructor
        · exact proper
        · exact ⟨above.reverse, List.reverse_eq_cons_iff.mp reversed, walked⟩
        · exact holds
        · simp [Path.isIdle, nonempty, named.1]
        · exact named.2
      · cases placed

theorem exists_of_target {fs : FileSystem} {path : Path} {location : Location}
    (target : fs.target path = .ok location) :
    ∃ directory name, fs.Names path directory name ∧ name.length ≤ maxName ∧
      location = directory ++ [name] ∧ fs.find? location ≠ some .directory := by
  obtain ⟨place, placed, target⟩ := bind_eq_ok_iff.mp target
  split at target
  · cases target
  · cases target
  · rename_i directory name
    split at target
    · cases target
    · rename_i short
      split at target
      · cases target
      · rename_i free
        cases target
        exact ⟨directory, name, names_of_destination placed, Nat.le_of_not_lt short, rfl, free⟩

/-- A write puts a file at a place, whatever its content is, and after it the path
leads to that place. -/
theorem exists_of_write {fs after : FileSystem} {path : Path} {content : Bytes}
    (written : fs.write path content = .ok after) :
    ∃ location, after = fs.put location (.file content) ∧ location ≠ [] ∧
      after.resolve path = .ok location ∧
        ∀ other, fs.write path other = .ok (fs.put location (.file other)) := by
  obtain ⟨location, target, written⟩ := bind_eq_ok_iff.mp written
  have after_eq := Except.ok.inj written
  obtain ⟨directory, name, names, short, rfl, free⟩ := exists_of_target target
  obtain ⟨above, split, walked⟩ := names.split
  have elsewhere : directory ≠ directory ++ [name] := by
    intro same
    rw [← same] at free
    exact free names.holds
  have found : after.find? (directory ++ [name]) = some (.file content) := by
    rw [← after_eq]
    exact find?_put_same fs _ (List.concat_ne_nil _ _)
  have holds : after.find? directory = some .directory := by
    rw [← after_eq, find?_put_other fs _ elsewhere]
    exact names.holds
  have entered : after.enter directory name = .ok (directory ++ [name]) :=
    enter_eq_ok_iff.mpr (.descend holds names.idle names.down short (by rw [found]; rfl))
  refine ⟨_, after_eq.symm, List.concat_ne_nil _ _, ?_, fun other => ?_⟩
  · rw [resolve, bind_eq_ok_iff]
    refine ⟨(), names.proper, ?_⟩
    rw [split, walk_append_eq_ok_iff]
    refine ⟨directory, ?_, ?_⟩
    · rw [← after_eq]
      exact walk_put walked free _
    · rw [walk, bind_eq_ok_iff]
      exact ⟨_, entered, rfl⟩
  · rw [write, target]
    rfl

/-- A read finds what was just written to its path. -/
theorem read_of_write {fs after : FileSystem} {path : Path} {content : Bytes}
    (written : fs.write path content = .ok after) : after.read path = .ok content := by
  obtain ⟨location, after_eq, proper, resolved, -⟩ := exists_of_write written
  rw [read, bind_eq_ok_iff]
  refine ⟨location, resolved, ?_⟩
  rw [contentAt, after_eq, find?_put_same fs _ proper]

/-- The same after a write that first made the directories that were missing. -/
theorem read_of_writeWithDirectories {fs after : FileSystem} {path : Path} {content : Bytes}
    (written : fs.writeWithDirectories path content = (after, .ok ())) :
    after.read path = .ok content := by
  unfold writeWithDirectories at written
  dsimp only at written
  split at written
  · cases written
  · split at written
    · rename_i wrote
      cases written
      exact read_of_write wrote
    · cases written

end Magnetometer.FileSystem
