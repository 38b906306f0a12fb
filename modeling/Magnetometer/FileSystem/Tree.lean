import Magnetometer.FileSystem.Fault
import Magnetometer.FileSystem.Path

/-!
# A tree of files

Files and directories by location, and the operations on them.  A path is
walked name by name from the root; every name but the last must be a directory.
Writing replaces the whole content of a file, and `find?_put_same` and
`find?_put_other` say that it touches no other location.
-/

namespace Magnetometer

/-- What stands at a location. -/
inductive Entry where
  | file (content : Bytes)
  | directory
deriving DecidableEq, Repr

/-- A place in the tree: the names from the root down to it. -/
abbrev Location := List Path.Name

/-- Files and directories.  The root is always a directory. -/
structure FileSystem where
  entries : List (Location × Entry)
deriving Repr

namespace FileSystem

/-- The tree that holds nothing but its root. -/
def empty : FileSystem := ⟨[]⟩

/-- Longest name that a directory takes. -/
def maxName : Nat := 255

/-- Longest path that a lookup takes. -/
def maxPath : Nat := 4095

/-- What stands at a location, if anything does. -/
def find? (fs : FileSystem) (location : Location) : Option Entry :=
  if location = [] then some .directory else fs.entries.lookup location

/-- Put an entry at a location in place of what stood there. -/
def put (fs : FileSystem) (location : Location) (entry : Entry) : FileSystem :=
  ⟨(location, entry) :: fs.entries.filter fun e => !decide (e.1 = location)⟩

/-- Take away a location and everything below it. -/
def erase (fs : FileSystem) (location : Location) : FileSystem :=
  ⟨fs.entries.filter fun e => !location.isPrefixOf e.1⟩

/-- Take one name from a location, which has to be a directory. -/
def enter (fs : FileSystem) (location : Location) (name : Path.Name) : Except Fault Location :=
  match fs.find? location with
  | none => .error .notFound
  | some (.file _) => .error .notADirectory
  | some .directory =>
      if Path.isIdle name then .ok location
      else if name = Path.up then .ok location.dropLast
      else if maxName < name.length then .error .nameTooLong
      else if (fs.find? (location ++ [name])).isSome then .ok (location ++ [name])
      else .error .notFound

/-- Walk through names from a location. -/
def walk (fs : FileSystem) : Location → List Path.Name → Except Fault Location
  | location, [] => .ok location
  | location, name :: rest => do
      let next ← fs.enter location name
      fs.walk next rest

/-- The faults that a path has whatever the tree holds. -/
def check (path : Path) : Except Fault Unit :=
  if (0 : UInt8) ∈ path.bytes then .error .nulByte
  else if path.bytes = [] then .error .notFound
  else if maxPath < path.bytes.length then .error .nameTooLong
  else .ok ()

/-- The location that a path leads to. -/
def resolve (fs : FileSystem) (path : Path) : Except Fault Location := do
  check path
  fs.walk [] path.names

/-- Whether a path leads to anything. -/
def pathExists (fs : FileSystem) (path : Path) : Bool :=
  match fs.resolve path with
  | .ok _ => true
  | .error _ => false

/-- Whether a path leads to a directory. -/
def isDirectory (fs : FileSystem) (path : Path) : Bool :=
  match fs.resolve path with
  | .ok location => fs.find? location == some .directory
  | .error _ => false

/-- Content of the file at a location. -/
def contentAt (fs : FileSystem) (location : Location) : Except Fault Bytes :=
  match fs.find? location with
  | some (.file content) => .ok content
  | some .directory => .error .isADirectory
  | none => .error .notFound

/-- Content of the file at a path. -/
def read (fs : FileSystem) (path : Path) : Except Fault Bytes := do
  let location ← fs.resolve path
  fs.contentAt location

/-- Content of the text file at a path. -/
def readText (fs : FileSystem) (path : Path) : Except Fault (List Char) := do
  let content ← fs.read path
  match Text.Utf8.decode? content with
  | some text => .ok text
  | none => .error .notUtf8

/-- Where a path would place its last name: the directory that is to hold it,
the name, and whether slashes follow the name.  There is no name when the path
ends at the root, at `.` or at `..`; its directory is then the path itself. -/
def destination (fs : FileSystem) (path : Path) :
    Except Fault (Location × Option Path.Name × Bool) := do
  check path
  let backwards := path.names.reverse
  let slashes := backwards.takeWhile (· == [])
  match backwards.dropWhile (· == []) with
  | [] => .ok ([], none, true)
  | last :: above =>
      if last = Path.here ∨ last = Path.up then
        let location ← fs.walk [] path.names
        .ok (location, none, true)
      else
        let directory ← fs.walk [] above.reverse
        match fs.find? directory with
        | some .directory => .ok (directory, some last, !slashes.isEmpty)
        | _ => .error .notADirectory

/-- The location at which a file of a path is written: an existing file, or a
new name in an existing directory. -/
def target (fs : FileSystem) (path : Path) : Except Fault Location := do
  match ← fs.destination path with
  | (_, none, _) => .error .isADirectory
  | (_, some _, true) => .error .isADirectory
  | (directory, some name, false) =>
      if maxName < name.length then .error .nameTooLong
      else
        match fs.find? (directory ++ [name]) with
        | some .directory => .error .isADirectory
        | _ => .ok (directory ++ [name])

/-- Make a file with a given content, in place of the content it had. -/
def write (fs : FileSystem) (path : Path) (content : Bytes) : Except Fault FileSystem := do
  let location ← fs.target path
  .ok (fs.put location (.file content))

/-- Make a directory in an existing one. -/
def makeDirectory (fs : FileSystem) (path : Path) : Except Fault FileSystem := do
  match ← fs.destination path with
  | (_, none, _) => .error .fileExists
  | (directory, some name, _) =>
      if maxName < name.length then .error .nameTooLong
      else if (fs.find? (directory ++ [name])).isSome then .error .fileExists
      else .ok (fs.put (directory ++ [name]) .directory)

/-- Make a directory, and first the ones above it that are missing.  What was
made before a fault stays.  The first argument bounds the number of steps up. -/
def makeDirectoriesWithin : Nat → FileSystem → Path → FileSystem × Except Fault Unit
  | 0, fs, _ => (fs, .error .wholeTree)
  | depth + 1, fs, path =>
      if path.bytes = [] then
        (fs, .ok ())
      else
        match fs.makeDirectory path with
        | .ok fs => (fs, .ok ())
        | .error .notFound =>
            match path.parent? with
            | none => (fs, .error .wholeTree)
            | some above =>
                match makeDirectoriesWithin depth fs above with
                | (fs, .error fault) => (fs, .error fault)
                | (fs, .ok ()) =>
                    match fs.makeDirectory path with
                    | .ok fs => (fs, .ok ())
                    | .error fault =>
                        (fs, if fs.isDirectory path then .ok () else .error fault)
        | .error fault => (fs, if fs.isDirectory path then .ok () else .error fault)

/-- Make a directory and the ones above it that are missing. -/
def makeDirectories (fs : FileSystem) (path : Path) : FileSystem × Except Fault Unit :=
  makeDirectoriesWithin (path.names.length + 1) fs path

/-- Make a file and the directories above it that are missing. -/
def writeWithDirectories (fs : FileSystem) (path : Path) (content : Bytes) :
    FileSystem × Except Fault Unit :=
  let (fs, made) :=
    match path.parent? with
    | some above => fs.makeDirectories above
    | none => (fs, .ok ())
  match made with
  | .error fault => (fs, .error fault)
  | .ok () =>
      match fs.write path content with
      | .ok fs => (fs, .ok ())
      | .error fault => (fs, .error fault)

/-- Remove what a path leads to. -/
def remove (fs : FileSystem) (path : Path) : Except Fault FileSystem := do
  let location ← fs.resolve path
  .ok (fs.erase location)

@[simp]
theorem find?_root (fs : FileSystem) : fs.find? [] = some .directory := by
  simp [find?]

/-- What was put at a location stands there. -/
theorem find?_put_same (fs : FileSystem) {location : Location} (entry : Entry)
    (h : location ≠ []) : (fs.put location entry).find? location = some entry := by
  simp [find?, put, h]

private theorem lookup_filter_other {location other : Location} (entries : List (Location × Entry))
    (h : other ≠ location) :
    (entries.filter fun e => !decide (e.1 = location)).lookup other = entries.lookup other := by
  induction entries with
  | nil => rfl
  | cons e rest ih =>
      obtain ⟨at_, entry⟩ := e
      by_cases hat : at_ = location
      · subst hat
        have hne : (other == at_) = false := by simpa using h
        simp [List.lookup_cons, hne, ih]
      · simp [hat, List.lookup_cons, ih]

/-- Putting an entry at a location leaves the other locations alone. -/
theorem find?_put_other (fs : FileSystem) {location other : Location} (entry : Entry)
    (h : other ≠ location) : (fs.put location entry).find? other = fs.find? other := by
  unfold find? put
  split
  · rfl
  · have hne : (other == location) = false := by simpa using h
    simp only [List.lookup_cons, hne]
    exact lookup_filter_other fs.entries h

end FileSystem

end Magnetometer
