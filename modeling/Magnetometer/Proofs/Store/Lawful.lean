import Magnetometer.Proofs.FileSystem.Overwrite
import Magnetometer.Proofs.Store

/-!
# What a store holds

The axes that a load finds are what a store holds.  `LawfulStore` says how its
operations deal with them: a load leaves them as they are, a save that is
accepted replaces all of them, and a save that is refused leaves them as they
are.  The stores in memory and in a file, and the one that is broken, keep these
laws.
-/

namespace Magnetometer

namespace StoredOffset

/-- The axes that a load found; a failed one found none. -/
def found (loaded : Except SensorError StoredOffset) : StoredOffset := loaded.toOption.getD empty

@[simp]
theorem found_ok (stored : StoredOffset) : found (.ok stored) = stored := rfl

@[simp]
theorem found_error (error : SensorError) : found (.error error) = empty := rfl

end StoredOffset

namespace CalibrationStore

variable {σ : Type} [CalibrationStore σ]

/-- The axes that a load of a store finds. -/
def held (store : σ) : StoredOffset := .found (load store).result

end CalibrationStore

open CalibrationStore (held)

/-- A store whose operations deal with the axes that it holds as they should. -/
class LawfulStore (σ : Type) [CalibrationStore σ] : Prop where
  held_load : ∀ store : σ, held (CalibrationStore.load store).store = held store
  held_save : ∀ (store : σ) (offset : HardIronOffset),
    (CalibrationStore.save store offset).result = .ok () →
      held (CalibrationStore.save store offset).store = .ofOffset offset
  held_refused : ∀ (store : σ) (offset : HardIronOffset) {error : SensorError},
    (CalibrationStore.save store offset).result = .error error →
      held (CalibrationStore.save store offset).store = held store

namespace LawfulStore

/-- After a save the store holds the offset that was saved, or what it held. -/
theorem held_save_cases {σ : Type} [CalibrationStore σ] [LawfulStore σ] (store : σ)
    (offset : HardIronOffset) :
    held (CalibrationStore.save store offset).store = .ofOffset offset ∨
      held (CalibrationStore.save store offset).store = held store := by
  cases saved : (CalibrationStore.save store offset).result with
  | ok => exact .inl (held_save store offset saved)
  | error error => exact .inr (held_refused store offset saved)

end LawfulStore

instance : LawfulStore MemoryStore where
  held_load _ := rfl
  held_save _ _ _ := rfl
  held_refused := nofun

instance : LawfulStore BrokenStore where
  held_load _ := rfl
  held_save := nofun
  held_refused _ _ _ _ := rfl

namespace FileStore

theorem store_load (store : FileStore) : store.load.store = store := by
  unfold load
  split <;> rfl

/-- A file that cannot be read holds no axis. -/
theorem held_of_not_read {store : FileStore}
    (unread : ∀ content, store.files.read store.path ≠ .ok content) : held store = .empty := by
  change StoredOffset.found store.load.result = .empty
  unfold load
  split
  · rename_i content read
    exact absurd read (unread content)
  · rfl
  · rfl

instance : LawfulStore FileStore where
  held_load store := by
    change held store.load.store = held store
    rw [store_load]
  held_save store offset saved := by
    change StoredOffset.found (store.save offset).store.load.result = .ofOffset offset
    rw [(load_of_save saved).2]
    rfl
  held_refused store offset error refused := by
    change (store.save offset).result = .error error at refused
    change held (store.save offset).store = held store
    unfold save at refused ⊢
    split at refused
    · contradiction
    · rename_i files fault written
      -- A save to a file that can be read is never refused.
      have unread : ∀ content, store.files.read store.path ≠ .ok content := by
        intro content read
        obtain ⟨location, -, accepted⟩ := FileSystem.writeWithDirectories_of_read read
        rw [accepted] at written
        cases written
      rw [held_of_not_read unread]
      exact held_of_not_read (FileSystem.read_ne_ok_of_refused written)

end FileStore

namespace AnyStore

instance : LawfulStore AnyStore where
  held_load
    | memory store => LawfulStore.held_load store
    | broken store => LawfulStore.held_load store
    | file store => LawfulStore.held_load store
  held_save any offset saved := by
    cases any with
    | memory store => exact LawfulStore.held_save store offset saved
    | broken store => exact LawfulStore.held_save store offset saved
    | file store => exact LawfulStore.held_save store offset saved
  held_refused any offset error refused := by
    cases any with
    | memory store => exact LawfulStore.held_refused store offset refused
    | broken store => exact LawfulStore.held_refused store offset refused
    | file store => exact LawfulStore.held_refused store offset refused

end AnyStore

end Magnetometer
