import Magnetometer.Proofs.FileSystem.Overwrite
import Magnetometer.Proofs.Store.Lawful

/-!
# Stores without a memory

A store whose saves succeed keeps nothing of what was saved before the last save.
`Overwriting` says so of stores that are told apart by their content alone:
loads of equal contents come to the same, and a save leaves equal contents
behind whatever the contents were.  A store in memory is such a store, and so is
a file that a first save can be made to.
-/

namespace Magnetometer

/-- Stores of which only the content matters, and whose saves replace all of it. -/
structure Overwriting {σ γ : Type} [CalibrationStore σ] (Good : σ → Prop) (content : σ → γ) :
    Prop where
  good_load : ∀ {store}, Good store → Good (CalibrationStore.load store).store
  good_save : ∀ {store}, Good store → ∀ offset, Good (CalibrationStore.save store offset).store
  loaded_eq : ∀ {store other}, Good store → Good other → content store = content other →
    (CalibrationStore.load store).result = (CalibrationStore.load other).result
  content_load : ∀ store, content (CalibrationStore.load store).store = content store
  content_save : ∀ {store other}, Good store → Good other → ∀ offset,
    content (CalibrationStore.save store offset).store =
      content (CalibrationStore.save other offset).store

namespace FileStore

@[simp]
theorem path_save (store : FileStore) (offset : HardIronOffset) :
    (store.save offset).store.path = store.path := by
  unfold save
  split <;> rfl

/-- Nothing but the path and the bytes of its file bears on a load. -/
theorem result_load_congr {store other : FileStore} (path_eq : store.path = other.path)
    (read_eq : store.files.read store.path = other.files.read other.path) :
    store.load.result = other.load.result := by
  unfold load
  rw [read_eq, path_eq]
  split <;> rfl

/-- A save after a save that succeeded leaves nothing of the first one. -/
theorem save_save {store : FileStore} {offset : HardIronOffset}
    (saved : (store.save offset).result = .ok ()) (other : HardIronOffset) :
    (store.save offset).store.save other = store.save other := by
  unfold save at saved
  split at saved
  · rename_i files written
    have after_eq : (store.save offset).store = { store with files := files } := by
      unfold save
      rw [written]
    rw [after_eq]
    unfold save
    dsimp only
    rw [FileSystem.writeWithDirectories_writeWithDirectories written]
  · contradiction

end FileStore

namespace AnyStore

/-- What a store has in it. -/
inductive Content where
  | axes (stored : StoredOffset)
  | bytes (read : Except Fault Bytes)
  | nothing

/-- What a store has in it: the axes in memory, or the bytes of the file. -/
def content : AnyStore → Content
  | memory store => .axes store.stored
  | broken _ => .nothing
  | file store => .bytes (store.files.read store.path)

/-- Every save to a store succeeds. -/
def Accepts (store : AnyStore) : Prop :=
  ∀ offset, (CalibrationStore.save store offset).result = .ok ()

/-- What loads and accepted saves make of a store. -/
inductive Descends : AnyStore → AnyStore → Prop
  | memory (origin store : MemoryStore) : Descends (.memory origin) (.memory store)
  | same (origin : FileStore) : Descends (.file origin) (.file origin)
  | saved (origin : FileStore) (offset : HardIronOffset) :
      Descends (.file origin) (.file (origin.save offset).store)

namespace Descends

variable {origin store : AnyStore}

theorem refl (accepts : origin.Accepts) : Descends origin origin := by
  cases origin with
  | memory origin => exact .memory origin origin
  | broken origin => cases accepts .zero
  | file origin => exact .same origin

theorem load (descends : Descends origin store) :
    Descends origin (CalibrationStore.load store).store := by
  cases descends with
  | memory origin store => exact .memory origin _
  | same origin =>
      change Descends (.file origin) (.file origin.load.store)
      rw [FileStore.store_load]
      exact .same origin
  | saved origin offset =>
      change Descends (.file origin) (.file (origin.save offset).store.load.store)
      rw [FileStore.store_load]
      exact .saved origin offset

/-- A save to what became of a store is a save to the store. -/
theorem save (descends : Descends origin store) (accepts : origin.Accepts)
    (offset : HardIronOffset) :
    Descends origin (CalibrationStore.save store offset).store ∧
      content (CalibrationStore.save store offset).store =
        content (CalibrationStore.save origin offset).store := by
  cases descends with
  | memory origin store => exact ⟨.memory origin _, rfl⟩
  | same origin => exact ⟨.saved origin offset, rfl⟩
  | saved origin first =>
      have again := FileStore.save_save (accepts first) offset
      change Descends (.file origin) (.file ((origin.save first).store.save offset).store) ∧
        content (.file ((origin.save first).store.save offset).store) =
          content (.file (origin.save offset).store)
      rw [again]
      exact ⟨.saved origin offset, rfl⟩

/-- The file of a store stays where it is. -/
theorem loaded_eq {other : AnyStore} (descends : Descends origin store)
    (descendsToo : Descends origin other) (content_eq : content store = content other) :
    (CalibrationStore.load store).result = (CalibrationStore.load other).result := by
  cases descends with
  | memory origin store =>
      cases descendsToo with
      | memory _ other =>
          simp only [content, Content.axes.injEq] at content_eq
          exact congrArg Except.ok content_eq
  | same origin =>
      simp only [content] at content_eq
      cases descendsToo with
      | same => rfl
      | saved _ offset =>
          exact FileStore.result_load_congr (FileStore.path_save _ _).symm
            (Content.bytes.inj content_eq)
  | saved origin offset =>
      cases descendsToo with
      | same =>
          exact FileStore.result_load_congr (FileStore.path_save _ _)
            (Content.bytes.inj content_eq)
      | saved _ other =>
          exact FileStore.result_load_congr
            ((FileStore.path_save _ _).trans (FileStore.path_save _ _).symm)
            (Content.bytes.inj content_eq)

end Descends

theorem content_load (store : AnyStore) :
    content (CalibrationStore.load store).store = content store := by
  cases store with
  | memory store => rfl
  | broken store => rfl
  | file store =>
      change content (.file store.load.store) = content (.file store)
      rw [FileStore.store_load]

/-- What becomes of a store whose saves succeed has no memory. -/
theorem overwriting {origin : AnyStore} (accepts : origin.Accepts) :
    Overwriting (Descends origin) content where
  good_load descends := descends.load
  good_save descends offset := (descends.save accepts offset).1
  loaded_eq descends descendsToo content_eq := descends.loaded_eq descendsToo content_eq
  content_load := content_load
  content_save descends descendsToo offset :=
    (descends.save accepts offset).2.trans (descendsToo.save accepts offset).2.symm

end AnyStore

end Magnetometer
