import Magnetometer.Proofs.FileSystem
import Magnetometer.Proofs.Session
import Magnetometer.Proofs.Store.Grammar
import Magnetometer.Proofs.Text.Utf8

/-!
# Keeping an offset in a file

What a file store writes it reads again: the text of an offset has one line per
axis, each line is read as its axis and value, and nothing of what the file held
before is left.
-/

namespace Magnetometer

namespace Store

open Number

/-- The line of an axis is an entry. -/
theorem entry_renderLine (axis : Axis) (value : Int32) :
    Entry axis value (renderLine axis value) := by
  have blank : Text.Blanks [' '] := List.forall_mem_singleton.mpr rfl
  have entry : Entry axis value ([] ++ (keyStart ++ ([] ++ axis.letter :: [' '] ++
      '=' :: ([' '] ++ Decimal.render value.toInt))) ++ []) :=
    .intro nofun nofun blank blank nofun (Decimal.numeral_render value.toInt)
  rw [List.append_nil] at entry
  rw [renderLine, List.append_assoc]
  exact entry

theorem lineFeed_not_mem_renderLine (axis : Axis) (value : Int32) :
    '\n' ∉ renderLine axis value := by
  intro mem
  rcases List.mem_append.mp mem with key | digit
  · cases axis <;> revert key <;> decide
  · exact absurd ((Decimal.numeral_render value.toInt).mem digit) (by decide)

/-- A line that was written for an axis overrides what is known of that axis. -/
theorem applyLine_renderLine (stored : StoredOffset) (axis : Axis) (value : Int32) :
    applyLine stored (renderLine axis value) = stored.set axis (some value) := by
  rw [applyLine, parseLine?_eq_some_iff.mpr (entry_renderLine axis value)]

/-- The text of an offset is read as that offset. -/
@[simp]
theorem parse_render (offset : HardIronOffset) : parse (render offset) = .ofOffset offset := by
  rw [render, parse_flatMap, List.foldl_map]
  · simp only [applyLine_renderLine]
    rfl
  · intro line mem
    obtain ⟨axis, -, rfl⟩ := List.mem_map.mp mem
    exact lineFeed_not_mem_renderLine axis _

end Store

namespace FileStore

theorem load_of_read {store : FileStore} {content : Bytes}
    (read : store.files.read store.path = .ok content) :
    store.load = ⟨store, .ok (Store.parse (Text.Utf8.decodeLossy content)), []⟩ := by
  unfold load
  rw [read]

/-- A saved offset is the whole content of the file, and is loaded again. -/
theorem load_of_save {store : FileStore} {offset : HardIronOffset}
    (saved : (store.save offset).result = .ok ()) :
    (store.save offset).store.files.read store.path =
        .ok (Text.Utf8.encode (Store.render offset)) ∧
      (store.save offset).store.load = ⟨(store.save offset).store, .ok (.ofOffset offset), []⟩ := by
  unfold save at saved ⊢
  split at saved
  · rename_i files written
    have content := FileSystem.read_of_writeWithDirectories written
    refine ⟨content, ?_⟩
    rw [load_of_read content, Text.Utf8.decodeLossy_encode, Store.parse_render]
  · cases saved

end FileStore

namespace Session

/-- A session that restores a whole offset works with it. -/
theorem restore_of_load {σ : Type} [CalibrationStore σ] (s : Session) {store after : σ}
    {offset : HardIronOffset} {notices : List Notice}
    (loaded : CalibrationStore.load store = ⟨after, .ok (.ofOffset offset), notices⟩) :
    (s.restore store).found = true ∧ (s.restore store).session.offset = offset := by
  have whole : StoredOffset.isEmpty (.ofOffset offset) = false := rfl
  simp only [restore, loaded, whole, Bool.false_eq_true, if_false, true_and]
  apply Triple.ext_get
  intro axis
  simp [StoredOffset.ofOffset, AxisCalibration.restore]

/-- What a session with observations persists into a file, a fresh session
restores from it, whatever the file held before. -/
theorem restore_of_persist {s : Session} {store : FileStore}
    (observed : s.calibrator.hasObservations = true)
    (saved : (CalibrationStore.save store s.offset).result = .ok ()) :
    (s.persist store).result = .ok true ∧
      (s.persist store).store.files.read store.path =
        .ok (Text.Utf8.encode (Store.render s.offset)) ∧
      (∀ sensitivity,
        ((Session.new sensitivity).restore (s.persist store).store).found = true ∧
          ((Session.new sensitivity).restore (s.persist store).store).session.offset = s.offset) ∧
      ∀ offset, StoredOffset.complete? (Store.parse (Store.render offset)) = some offset := by
  have persisted : s.persist store = (CalibrationStore.save store s.offset).map fun _ => true :=
    if_pos observed
  obtain ⟨content, loaded⟩ := FileStore.load_of_save saved
  rw [persisted]
  refine ⟨?_, content, fun sensitivity => restore_of_load _ loaded, fun offset => ?_⟩
  · rw [Access.map, saved]
    rfl
  · rw [Store.parse_render]
    exact StoredOffset.complete?_ofOffset offset

/-- A session of one sample, and a file in directories that are still to be made. -/
theorem restore_of_persist_one :
    ∃ s : Session, ∃ store : FileStore,
      s = ((Session.new .neutral).ingest ⟨1, 2, 3⟩).1 ∧
        store = ⟨.ofString "/data/misc/akmd_set.txt", .empty⟩ ∧
        (s.persist store).result = .ok true ∧
          (s.persist store).store.files.read store.path =
            .ok (Text.Utf8.encode (Store.render s.offset)) ∧
          (∀ sensitivity,
            ((Session.new sensitivity).restore (s.persist store).store).found = true ∧
              ((Session.new sensitivity).restore (s.persist store).store).session.offset =
                s.offset) ∧
          ∀ offset, StoredOffset.complete? (Store.parse (Store.render offset)) = some offset :=
  ⟨_, _, rfl, rfl, restore_of_persist rfl rfl⟩

end Session

end Magnetometer
