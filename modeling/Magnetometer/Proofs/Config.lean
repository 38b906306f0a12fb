import Magnetometer.Config.Toml
import Magnetometer.Proofs.FileSystem.Overwrite
import Magnetometer.Proofs.Text.Utf8
import Magnetometer.Proofs.Toml.Document

/-!
# Saved settings

Settings that TOML can hold are read back as they were, whatever their texts are,
and are then checked as they would have been before.  Settings that it cannot hold
are refused before anything is written.
-/

namespace Magnetometer

namespace Path

/-- A path that is a text is the path of this text. -/
theorem ofString_of_text? {path : Path} {text : String} (isText : path.text? = some text) :
    ofString text = path := by
  obtain ⟨letters, read, rfl⟩ := Option.map_eq_some_iff.mp isText
  rw [ofString, String.toList_ofList, Text.Utf8.encode_of_decode? read]

@[simp]
theorem text?_ofString (text : String) : (ofString text).text? = some text := by
  rw [text?, ofString, Text.Utf8.decode?_encode, Option.map_some, String.ofList_toList]

end Path

namespace FileSystem

/-- A file can be written to a path, once the directories above it are made. -/
def Writable (files : FileSystem) (path : Path) : Prop :=
  ∃ content after, files.writeWithDirectories path content = (after, .ok ())

end FileSystem

namespace Config

open Toml

/-- Settings that TOML can hold: the paths are texts, and the delay is an integer. -/
structure Expressible (config : Config) : Prop where
  dataPath : config.device.dataPath.text?.isSome
  sensitivityPath : config.device.sensitivityPath.text?.isSome
  storePath : config.calibration.storePath.text?.isSome
  delay : config.sampling.delay ≤ maxWrittenDelay

/-- A pair whose value is a text. -/
def textPair (key text : String) : Pair := ⟨key, writeText text.toList, .string text.toList⟩

/-- A pair whose value is a number. -/
def numberPair (key : String) (n : Nat) : Pair := ⟨key, Number.Decimal.render n, .integer n⟩

/-- The sections of settings with given texts for their paths. -/
def sections (config : Config) (dataPath sensitivityPath storePath : String) : List Section :=
  [⟨"device", [textPair "data_path" dataPath, textPair "sensitivity_path" sensitivityPath]⟩,
    ⟨"calibration", [textPair "store_path" storePath]⟩,
    ⟨"sampling", [numberPair "delay_us" config.sampling.delay]⟩,
    ⟨"output", [textPair "format" config.output.format.name,
      textPair "log_level" config.output.logLevel]⟩]

variable {config : Config} {dataPath sensitivityPath storePath : String}

/-- The texts of the paths. -/
theorem Expressible.exists_texts (expressible : config.Expressible) :
    ∃ dataPath sensitivityPath storePath, config.device.dataPath.text? = some dataPath ∧
      config.device.sensitivityPath.text? = some sensitivityPath ∧
      config.calibration.storePath.text? = some storePath := by
  obtain ⟨dataPath, data⟩ := Option.isSome_iff_exists.mp expressible.dataPath
  obtain ⟨sensitivityPath, sensitivity⟩ := Option.isSome_iff_exists.mp expressible.sensitivityPath
  obtain ⟨storePath, store⟩ := Option.isSome_iff_exists.mp expressible.storePath
  exact ⟨dataPath, sensitivityPath, storePath, data, sensitivity, store⟩

/-- The document of settings is that of their sections. -/
theorem toText?_eq_some (data : config.device.dataPath.text? = some dataPath)
    (sensitivity : config.device.sensitivityPath.text? = some sensitivityPath)
    (store : config.calibration.storePath.text? = some storePath)
    (delay : config.sampling.delay ≤ maxWrittenDelay) :
    config.toText? = some (writeSections
      ((config.sections dataPath sensitivityPath storePath).map Section.text)) := by
  unfold toText?
  dsimp only
  rw [data, sensitivity, store, Option.map_some, Option.map_some, Option.map_some]
  change Option.bind (guard (config.sampling.delay ≤ maxWrittenDelay)) _ = _
  rw [guard, if_pos delay]
  rfl

/-- The settings that TOML can hold are those that have a document. -/
theorem expressible_iff : config.Expressible ↔ ∃ text, config.toText? = some text := by
  constructor
  · intro expressible
    obtain ⟨dataPath, sensitivityPath, storePath, data, sensitivity, store⟩ :=
      expressible.exists_texts
    exact ⟨_, toText?_eq_some data sensitivity store expressible.delay⟩
  · rintro ⟨text, written⟩
    obtain ⟨_, data, written⟩ := Option.bind_eq_some_iff.mp written
    obtain ⟨_, sensitivity, written⟩ := Option.bind_eq_some_iff.mp written
    obtain ⟨_, store, written⟩ := Option.bind_eq_some_iff.mp written
    obtain ⟨_, delay, written⟩ := Option.bind_eq_some_iff.mp written
    constructor
    case dataPath => exact Option.isSome_map.symm.trans (Option.isSome_of_eq_some data)
    case sensitivityPath =>
      exact Option.isSome_map.symm.trans (Option.isSome_of_eq_some sensitivity)
    case storePath => exact Option.isSome_map.symm.trans (Option.isSome_of_eq_some store)
    case delay =>
      by_contra long
      rw [guard, if_neg long] at delay
      cases delay

theorem sound_textPair {key : String} (bare : Bare key.toList) (text : String) :
    (textPair key text).Sound :=
  ⟨bare, readsBack_writeText _⟩

theorem sound_numberPair {key : String} (bare : Bare key.toList) {n : Nat}
    (small : n ≤ maxWrittenDelay) : (numberPair key n).Sound := by
  refine ⟨bare, readsBack_render ?_⟩
  unfold maxWrittenDelay at small
  unfold maxInteger
  omega

theorem sound_sections (delay : config.sampling.delay ≤ maxWrittenDelay) :
    ∀ s ∈ config.sections dataPath sensitivityPath storePath, s.Sound := by
  have bare : ∀ key ∈ ["device", "calibration", "sampling", "output", "data_path",
      "sensitivity_path", "store_path", "delay_us", "format", "log_level"], Bare key.toList := by
    decide
  have apartDevice : ["data_path", "sensitivity_path"].Nodup := by decide
  have apartOutput : ["format", "log_level"].Nodup := by decide
  simp only [List.forall_mem_cons] at bare
  obtain ⟨device, calibration, sampling, output, data, sensitivity, store, delayUs, format, level,
    -⟩ := bare
  simp only [sections, List.forall_mem_cons]
  refine ⟨⟨device, ?_, apartDevice⟩, ⟨calibration, ?_, List.nodup_singleton _⟩,
    ⟨sampling, ?_, List.nodup_singleton _⟩, ⟨output, ?_, apartOutput⟩, nofun⟩
  · simpa using ⟨sound_textPair data _, sound_textPair sensitivity _⟩
  · simpa using sound_textPair store _
  · simpa using sound_numberPair delayUs delay
  · simpa using ⟨sound_textPair format _, sound_textPair level _⟩

/-- The table of settings is read back as the settings. -/
theorem ofTable?_sections (data : config.device.dataPath.text? = some dataPath)
    (sensitivity : config.device.sensitivityPath.text? = some sensitivityPath)
    (store : config.calibration.storePath.text? = some storePath) :
    ofTable? ((config.sections dataPath sensitivityPath storePath).map Section.entry) =
      some config := by
  have dataPath_eq := Path.ofString_of_text? data
  have sensitivityPath_eq := Path.ofString_of_text? sensitivity
  have storePath_eq := Path.ofString_of_text? store
  simp [ofTable?, sections, Section.entry, Pair.entry, textPair, numberPair, List.lookup_cons,
    setting?, readDevice?, readCalibration?, readSampling?, readOutput?, sectionFields?, readPath?,
    readDelay?, readFormat?, readText?, dataPath_eq, sensitivityPath_eq, storePath_eq]

/-- What is read from the document of settings: the settings, if they keep the
limits. -/
theorem ofText_toText? {text : List Char} (written : config.toText? = some text) :
    ofText text = config.validate.map fun _ => config := by
  have expressible := expressible_iff.mpr ⟨text, written⟩
  have delay := expressible.delay
  obtain ⟨dataPath, sensitivityPath, storePath, data, sensitivity, store⟩ :=
    expressible.exists_texts
  cases (toText?_eq_some data sensitivity store delay).symm.trans written
  have apart : ((config.sections dataPath sensitivityPath storePath).map Section.name).Nodup := by
    change ["device", "calibration", "sampling", "output"].Nodup
    decide
  unfold ofText
  rw [parse?_writeSections (sound_sections delay) apart, Option.bind_some,
    ofTable?_sections data sensitivity store]
  dsimp only
  cases config.validate <;> rfl

/-! ## Files -/

/-- What a text file holds is what is loaded from it. -/
theorem load_of_readText {files : FileSystem} {path : Path} {text : List Char}
    (readText : files.readText path = .ok text) : load files path = ofText text := by
  obtain ⟨content, read, -⟩ := FileSystem.bind_eq_ok_iff.mp readText
  obtain ⟨location, resolved, -⟩ := FileSystem.bind_eq_ok_iff.mp read
  have there : files.pathExists path = true := by
    rw [FileSystem.pathExists, resolved]
  rw [load, there, readText]
  rfl

/-- What was written to a file as text is what is loaded from it. -/
theorem load_of_written {files after : FileSystem} {path : Path} {text : List Char}
    (written : files.writeWithDirectories path (Text.Utf8.encode text) = (after, .ok ())) :
    load after path = ofText text := by
  have read := FileSystem.read_of_writeWithDirectories written
  refine load_of_readText (FileSystem.bind_eq_ok_iff.mpr ⟨_, read, ?_⟩)
  rw [Text.Utf8.decode?_encode]

/-- What saving settings to a path comes to. -/
structure Saves (config : Config) (files : FileSystem) (path : Path) : Prop where
  /-- Settings that TOML can hold are saved, and loaded as far as they keep the
  limits. -/
  saved : config.Expressible → files.Writable path →
    ∃ after, config.save files path = (after, .ok ()) ∧
      load after path = config.validate.map fun _ => config
  /-- Other settings are refused, and nothing is made. -/
  refused : ¬config.Expressible → config.save files path = (files, .error .unwritable)

/-- Settings are loaded as they were saved, or nothing is touched. -/
theorem saves_and_loads (config : Config) (files : FileSystem) (path : Path) :
    Saves config files path := by
  constructor
  case saved =>
    rintro expressible ⟨content, after, written⟩
    obtain ⟨text, text_eq⟩ := expressible_iff.mp expressible
    obtain ⟨base, location, -, -, accepted⟩ :=
      FileSystem.exists_of_writeWithDirectories written
    have saved := accepted (Text.Utf8.encode text)
    refine ⟨_, ?_, (load_of_written saved).trans (ofText_toText? text_eq)⟩
    rw [save, text_eq]
    dsimp only
    rw [saved]
    rfl
  case refused =>
    intro inexpressible
    have unwritten : config.toText? = none := by
      rw [Option.eq_none_iff_forall_ne_some]
      exact fun text written => inexpressible (expressible_iff.mpr ⟨text, written⟩)
    rw [save, unwritten]

/-- A level that is quotes, a backslash, a line feed and a control character, saved
in a tree without directories. -/
theorem saves_and_loads_quotes :
    let config : Config := { output := { logLevel := "\"\"\"'''\\\n\x07" } }
    let path : Path := .ofString "/etc/magcal.toml"
    config.Expressible ∧ FileSystem.empty.Writable path ∧
      ∃ after, config.save .empty path = (after, .ok ()) ∧ load after path = .ok config := by
  intro config path
  have isText : ∀ text, (Path.ofString text).text?.isSome := by
    intro text
    rw [Path.text?_ofString]
    rfl
  have expressible : config.Expressible := ⟨isText _, isText _, isText _, by decide⟩
  have writable : FileSystem.empty.Writable path := ⟨[], _, rfl⟩
  exact ⟨expressible, writable, (saves_and_loads config .empty path).saved expressible writable⟩

end Config

end Magnetometer
