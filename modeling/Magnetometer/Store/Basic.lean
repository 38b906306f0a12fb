import Magnetometer.Calibration.Offset
import Magnetometer.Error
import Magnetometer.FileSystem.Tree
import Magnetometer.Notice
import Magnetometer.Store.Form

/-!
# Calibration stores

Where the offset is kept between sessions: in memory, in a text file, or
nowhere.  A store is a value; loading and saving give back the store that
follows, whether they succeed or fail.
-/

namespace Magnetometer

/-- What a use of a store comes to: the store after it, the result, and what
there is to tell of it. -/
structure Access (σ α : Type) where
  store : σ
  result : Except SensorError α
  notices : List Notice

namespace Access

variable {σ τ α β : Type}

/-- See the store as part of something else. -/
def mapStore (f : σ → τ) (access : Access σ α) : Access τ α :=
  ⟨f access.store, access.result, access.notices⟩

/-- Turn the result into another one. -/
def map (f : α → β) (access : Access σ α) : Access σ β :=
  ⟨access.store, access.result.map f, access.notices⟩

end Access

/-- The operations of a store of offsets. -/
class CalibrationStore (σ : Type) where
  /-- Read what is stored; a store with nothing in it yet holds no axis. -/
  load : σ → Access σ StoredOffset
  /-- Replace what is stored. -/
  save : σ → HardIronOffset → Access σ Unit

/-- A store in memory that counts its uses. -/
structure MemoryStore where
  stored : StoredOffset
  loads : Nat
  saves : Nat
deriving DecidableEq, Repr

namespace MemoryStore

/-- A store that holds given offsets and was not used yet. -/
def ofStored (stored : StoredOffset) : MemoryStore := ⟨stored, 0, 0⟩

/-- The whole offset in the store, if it is whole. -/
def offset? (store : MemoryStore) : Option HardIronOffset := StoredOffset.complete? store.stored

instance : CalibrationStore MemoryStore where
  load store := ⟨{ store with loads := store.loads + 1 }, .ok store.stored, []⟩
  save store offset :=
    ⟨{ store with stored := .ofOffset offset, saves := store.saves + 1 }, .ok (), []⟩

end MemoryStore

/-- A store that can be neither read nor written. -/
structure BrokenStore where
deriving DecidableEq, Repr

namespace BrokenStore

instance : CalibrationStore BrokenStore where
  load store := ⟨store, .error (.configurationUnreadable (.described "[MOCK] unreadable")), []⟩
  save store _ :=
    ⟨store, .error (.configurationWriteFailed (.described "[MOCK] read-only")), []⟩

end BrokenStore

/-- A store in a text file, which is read or written whole at each use. -/
structure FileStore where
  path : Path
  files : FileSystem
deriving Repr

namespace FileStore

/-- Where the file is unless a configuration says otherwise. -/
def defaultPath : Path := .ofString "/data/misc/akmd_set.txt"

/-- The offsets in the file; ill-formed bytes in it count as characters of no
meaning, and a missing file as one without lines. -/
def load (store : FileStore) : Access FileStore StoredOffset :=
  match store.files.read store.path with
  | .ok content => ⟨store, .ok (Store.parse (Text.Utf8.decodeLossy content)), []⟩
  | .error .notFound => ⟨store, .ok .empty, [.missing store.path]⟩
  | .error fault => ⟨store, .error (.configurationUnreadable (.file store.path fault)), []⟩

/-- Write the file with the text of an offset, and first the directories above
it that are missing. -/
def save (store : FileStore) (offset : HardIronOffset) : Access FileStore Unit :=
  match store.files.writeWithDirectories store.path (Text.Utf8.encode (Store.render offset)) with
  | (files, .ok ()) => ⟨{ store with files := files }, .ok (), [.saved store.path]⟩
  | (files, .error fault) =>
      ⟨{ store with files := files },
        .error (.configurationWriteFailed (.file store.path fault)), []⟩

instance : CalibrationStore FileStore where
  load := load
  save := save

end FileStore

/-- A store of any kind. -/
inductive AnyStore where
  | memory (store : MemoryStore)
  | broken (store : BrokenStore)
  | file (store : FileStore)
deriving Repr

namespace AnyStore

instance : CalibrationStore AnyStore where
  load
    | memory store => (CalibrationStore.load store).mapStore memory
    | broken store => (CalibrationStore.load store).mapStore broken
    | file store => (CalibrationStore.load store).mapStore file
  save any offset :=
    match any with
    | memory store => (CalibrationStore.save store offset).mapStore memory
    | broken store => (CalibrationStore.save store offset).mapStore broken
    | file store => (CalibrationStore.save store offset).mapStore file

end AnyStore

end Magnetometer
