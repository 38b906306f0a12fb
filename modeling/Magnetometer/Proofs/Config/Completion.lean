import Magnetometer.Proofs.Config

/-!
# Settings key by key

A document gives each setting by a key of a section.  Where the key is there the
setting is what its value means, and else it has its default, whether its section is
there or not; what is no setting plays no part.  A value of the wrong type is told
before any broken limit, and of the limits that are broken the first one is told.
Settings that are loaded are settings that the driver takes.
-/

namespace Magnetometer

/-- The letters that name a format. -/
theorem OutputFormat.ofName?_eq_some_iff {letters : List Char} {format : OutputFormat} :
    ofName? (String.ofList letters) = some format ↔ letters = format.name.toList := by
  constructor
  · intro found
    unfold ofName? at found
    have named := List.find?_some found
    rw [beq_iff_eq.mp named, String.toList_ofList]
  · rintro rfl
    rw [String.ofList_toList, ofName?_name]

/-- The place of a limit in the order in which they are checked. -/
def Violation.place : Violation → Nat
  | emptyDataPath => 0
  | emptySensitivityPath => 1
  | emptyStorePath => 2
  | delayTooLong _ => 3

namespace Config

open Toml (Value Table)

/-! ## The settings -/

/-- A setting of the daemon. -/
inductive Setting where
  | dataPath
  | sensitivityPath
  | storePath
  | delay
  | format
  | logLevel
deriving DecidableEq, Repr

/-- What a setting is. -/
abbrev Setting.Kind : Setting → Type
  | dataPath | sensitivityPath | storePath => Path
  | delay => Nat
  | format => OutputFormat
  | logLevel => String

/-- A setting of given settings. -/
def get (config : Config) : (setting : Setting) → setting.Kind
  | .dataPath => config.device.dataPath
  | .sensitivityPath => config.device.sensitivityPath
  | .storePath => config.calibration.storePath
  | .delay => config.sampling.delay
  | .format => config.output.format
  | .logLevel => config.output.logLevel

/-- A text means the path that it spells. -/
def MeansPath (value : Value) (path : Path) : Prop :=
  ∃ text : String, value = .string text.toList ∧ path = .ofString text

/-- A format is given by its name, or by a table with its name as the only key and
nothing in it. -/
inductive MeansFormat : Value → OutputFormat → Prop
  | text (format : OutputFormat) : MeansFormat (.string format.name.toList) format
  | table (format : OutputFormat) :
      MeansFormat (.table [(format.name.toList, .table [])]) format
  | array (format : OutputFormat) :
      MeansFormat (.table [(format.name.toList, .array [])]) format

namespace Setting

/-- The section that holds a setting. -/
def sectionName : Setting → String
  | dataPath | sensitivityPath => "device"
  | storePath => "calibration"
  | delay => "sampling"
  | format | logLevel => "output"

/-- The key of a setting in its section. -/
def key : Setting → String
  | dataPath => "data_path"
  | sensitivityPath => "sensitivity_path"
  | storePath => "store_path"
  | delay => "delay_us"
  | format => "format"
  | logLevel => "log_level"

/-- What the values of the type of a setting mean. -/
def Means : (setting : Setting) → Value → setting.Kind → Prop
  | dataPath | sensitivityPath | storePath => MeansPath
  | delay => fun value (n : Nat) => value = .integer n
  | format => MeansFormat
  | logLevel => fun value (text : String) => value = .string text.toList

/-- Read the value of a setting. -/
def read? : (setting : Setting) → Value → Option setting.Kind
  | dataPath | sensitivityPath | storePath => readPath?
  | delay => readDelay?
  | format => readFormat?
  | logLevel => readText?

end Setting

theorem readPath?_eq_some_iff {value : Value} {path : Path} :
    readPath? value = some path ↔ MeansPath value path := by
  constructor
  · intro read
    cases value with
    | string text =>
        cases read
        exact ⟨String.ofList text, by rw [String.toList_ofList], rfl⟩
    | _ => contradiction
  · rintro ⟨text, rfl, rfl⟩
    rw [readPath?, String.ofList_toList]

theorem readText?_eq_some_iff {value : Value} {text : String} :
    readText? value = some text ↔ value = .string text.toList := by
  constructor
  · intro read
    cases value with
    | string letters =>
        cases read
        rw [String.toList_ofList]
    | _ => contradiction
  · rintro rfl
    rw [readText?, String.ofList_toList]

theorem readDelay?_eq_some_iff {value : Value} {n : Nat} :
    readDelay? value = some n ↔ value = .integer n := by
  constructor
  · intro read
    cases value with
    | integer m =>
        rw [readDelay?, Option.ite_none_right_eq_some, Option.some.injEq] at read
        rw [← read.2, Int.toNat_of_nonneg read.1]
    | _ => contradiction
  · rintro rfl
    simp [readDelay?]

theorem readFormat?_eq_some_iff {value : Value} {format : OutputFormat} :
    readFormat? value = some format ↔ MeansFormat value format := by
  constructor
  · intro read
    unfold readFormat? at read
    split at read
    · cases OutputFormat.ofName?_eq_some_iff.mp read
      exact .text format
    · cases OutputFormat.ofName?_eq_some_iff.mp read
      exact .table format
    · cases OutputFormat.ofName?_eq_some_iff.mp read
      exact .array format
    · contradiction
  · rintro (_ | _ | _) <;> exact OutputFormat.ofName?_eq_some_iff.mpr rfl

theorem Setting.read?_eq_some_iff {setting : Setting} {value : Value} {x : setting.Kind} :
    setting.read? value = some x ↔ setting.Means value x := by
  cases setting with
  | dataPath | sensitivityPath | storePath => exact readPath?_eq_some_iff
  | delay => exact readDelay?_eq_some_iff
  | format => exact readFormat?_eq_some_iff
  | logLevel => exact readText?_eq_some_iff

/-! ## What a document gives -/

/-- The value that a section gives to a key; none if the section is not there. -/
def valueAt? (section? : Option Value) (key : String) : Option Value :=
  match section? with
  | some (.table entries) => entries.lookup key.toList
  | _ => none

/-- The value that a document gives to a setting. -/
def given? (table : Table) (setting : Setting) : Option Value :=
  valueAt? (table.lookup setting.sectionName.toList) setting.key

/-- A section is a table if it is there. -/
def Tabular (section? : Option Value) : Prop :=
  ∀ value, section? = some value → ∃ entries, value = .table entries

/-- The sections of settings are tables, as far as they are there. -/
def Sectioned (table : Table) : Prop :=
  ∀ setting : Setting, Tabular (table.lookup setting.sectionName.toList)

/-- What a setting becomes: what the value that is given to it means, or its default
if none is given. -/
inductive Becomes (setting : Setting) : Option Value → setting.Kind → Prop
  | given {value : Value} {x : setting.Kind} (means : setting.Means value x) :
      Becomes setting (some value) x
  | absent : Becomes setting none (get {} setting)

/-- Every setting is what the document makes of it. -/
def Completes (table : Table) (config : Config) : Prop :=
  ∀ setting, Becomes setting (given? table setting) (config.get setting)

/-- What a setting becomes, if it becomes anything. -/
def complete? (setting : Setting) (given : Option Value) : Option setting.Kind :=
  setting? setting.read? (get {} setting) (some given)

theorem complete?_eq_some_iff {setting : Setting} {given : Option Value} {x : setting.Kind} :
    complete? setting given = some x ↔ Becomes setting given x := by
  cases given with
  | none =>
      constructor
      · rintro ⟨⟩
        exact .absent
      · rintro ⟨⟩
        rfl
  | some value =>
      constructor
      · intro read
        exact .given (Setting.read?_eq_some_iff.mp read)
      · rintro ⟨means⟩
        exact Setting.read?_eq_some_iff.mpr means

/-! ## Sections -/

/-- The section of the device from what it gives to its keys. -/
def deviceOf? (given : String → Option Value) : Option DeviceSettings := do
  let dataPath ← complete? .dataPath (given "data_path")
  let sensitivityPath ← complete? .sensitivityPath (given "sensitivity_path")
  return ⟨dataPath, sensitivityPath⟩

/-- The section of the calibration from what it gives to its key. -/
def calibrationOf? (given : String → Option Value) : Option CalibrationSettings := do
  let storePath ← complete? .storePath (given "store_path")
  return ⟨storePath⟩

/-- The section of the sampling from what it gives to its key. -/
def samplingOf? (given : String → Option Value) : Option SamplingSettings := do
  let delay ← complete? .delay (given "delay_us")
  return ⟨delay⟩

/-- The section of the output from what it gives to its keys. -/
def outputOf? (given : String → Option Value) : Option OutputSettings := do
  let format ← complete? .format (given "format")
  let logLevel ← complete? .logLevel (given "log_level")
  return ⟨format, logLevel⟩

/-- A section that is read from its entries is read in the same way where it is not
there, as long as its default is what no entries give. -/
theorem setting?_eq_of_tabular {α : Type} (read : Value → Option α)
    (build : (String → Option Value) → Option α) {default : α}
    (present : ∀ entries, read (.table entries) = build fun key => entries.lookup key.toList)
    (absent : build (fun _ => none) = some default) {section? : Option Value}
    (tabular : Tabular section?) :
    setting? read default (some section?) = build (valueAt? section?) := by
  cases section? with
  | none => exact absent.symm
  | some value =>
      obtain ⟨entries, rfl⟩ := tabular value rfl
      exact present entries

/-- The settings of a document are all that they become, one by one. -/
theorem ofTable?_eq_some_iff {table : Table} (sectioned : Sectioned table) {config : Config} :
    ofTable? table = some config ↔ Completes table config := by
  -- The defaults of a section and those of its keys are the same: the section is built in
  -- one way, whether it is there or not.
  let givenIn (name : String) := valueAt? (table.lookup name.toList)
  have device : setting? readDevice? {} (some (table.lookup "device".toList)) =
      deviceOf? (givenIn "device") :=
    setting?_eq_of_tabular readDevice? deviceOf? (fun _ => rfl) rfl (sectioned .dataPath)
  have calibration : setting? readCalibration? {} (some (table.lookup "calibration".toList)) =
      calibrationOf? (givenIn "calibration") :=
    setting?_eq_of_tabular readCalibration? calibrationOf? (fun _ => rfl) rfl (sectioned .storePath)
  have sampling : setting? readSampling? {} (some (table.lookup "sampling".toList)) =
      samplingOf? (givenIn "sampling") :=
    setting?_eq_of_tabular readSampling? samplingOf? (fun _ => rfl) rfl (sectioned .delay)
  have output : setting? readOutput? {} (some (table.lookup "output".toList)) =
      outputOf? (givenIn "output") :=
    setting?_eq_of_tabular readOutput? outputOf? (fun _ => rfl) rfl (sectioned .format)
  have completes_iff : Completes table config ↔
      ∀ setting, complete? setting (given? table setting) = some (config.get setting) :=
    forall_congr' fun _ => complete?_eq_some_iff.symm
  simp only [completes_iff, ofTable?, device, calibration, sampling, output, deviceOf?,
    calibrationOf?, samplingOf?, outputOf?, Option.bind_eq_bind, Option.pure_def,
    Option.bind_eq_some_iff, Option.some.injEq]
  constructor
  · rintro ⟨_, ⟨dataPath, data, sensitivityPath, sensitivity, rfl⟩, _, ⟨storePath, store, rfl⟩, _,
      ⟨delay, delayed, rfl⟩, _, ⟨format, formatted, logLevel, leveled, rfl⟩, rfl⟩ setting
    cases setting with
    | dataPath => exact data
    | sensitivityPath => exact sensitivity
    | storePath => exact store
    | delay => exact delayed
    | format => exact formatted
    | logLevel => exact leveled
  · intro completes
    exact ⟨_, ⟨_, completes .dataPath, _, completes .sensitivityPath, rfl⟩, _,
      ⟨_, completes .storePath, rfl⟩, _, ⟨_, completes .delay, rfl⟩, _,
      ⟨_, completes .format, _, completes .logLevel, rfl⟩, rfl⟩

/-- Every value that is given to a setting has its type. -/
def WellTyped (table : Table) : Prop :=
  ∀ setting value, given? table setting = some value → ∃ x, setting.Means value x

theorem not_wellTyped_iff {table : Table} :
    ¬WellTyped table ↔
      ∃ setting value, given? table setting = some value ∧ ∀ x, ¬setting.Means value x := by
  unfold WellTyped
  push Not
  rfl

/-- The settings that are each a given value. -/
def ofSettings (values : (setting : Setting) → setting.Kind) : Config where
  device := ⟨values .dataPath, values .sensitivityPath⟩
  calibration := ⟨values .storePath⟩
  sampling := ⟨values .delay⟩
  output := ⟨values .format, values .logLevel⟩

theorem get_ofSettings (values : (setting : Setting) → setting.Kind) (setting : Setting) :
    (ofSettings values).get setting = values setting := by
  cases setting <;> rfl

/-- A document can be completed exactly if it is well typed. -/
theorem exists_completes_iff {table : Table} :
    (∃ config, Completes table config) ↔ WellTyped table := by
  constructor
  · rintro ⟨config, completes⟩ setting value given
    have becomes := completes setting
    rw [given] at becomes
    cases becomes with
    | given means => exact ⟨_, means⟩
  · intro typed
    have become : ∀ setting, ∃ x, Becomes setting (given? table setting) x := by
      intro setting
      cases given : given? table setting with
      | none => exact ⟨_, .absent⟩
      | some value =>
          obtain ⟨x, means⟩ := typed setting value given
          exact ⟨x, .given means⟩
    choose values becomes using become
    refine ⟨ofSettings values, fun setting => ?_⟩
    rw [get_ofSettings]
    exact becomes setting

theorem ofTable?_eq_none_iff {table : Table} (sectioned : Sectioned table) :
    ofTable? table = none ↔ ¬WellTyped table := by
  rw [← exists_completes_iff, Option.eq_none_iff_forall_ne_some, not_exists]
  exact forall_congr' fun config => not_congr (ofTable?_eq_some_iff sectioned)

/-! ## Limits -/

/-- Settings that keep every limit. -/
structure WithinLimits (config : Config) : Prop where
  dataPath : config.device.dataPath.bytes ≠ []
  sensitivityPath : config.device.sensitivityPath.bytes ≠ []
  storePath : config.calibration.storePath.bytes ≠ []
  delay : config.sampling.delay ≤ 60000000

/-- Settings break a limit. -/
def Breaks (config : Config) : Violation → Prop
  | .emptyDataPath => config.device.dataPath.bytes = []
  | .emptySensitivityPath => config.device.sensitivityPath.bytes = []
  | .emptyStorePath => config.calibration.storePath.bytes = []
  | .delayTooLong delay => delay = config.sampling.delay ∧ 60000000 < delay

/-- A limit that settings break, while they keep every limit before it. -/
def BreaksFirst (config : Config) (violation : Violation) : Prop :=
  config.Breaks violation ∧ ∀ other, other.place < violation.place → ¬config.Breaks other

variable {config : Config} {violation : Violation}

theorem violation?_eq_none_iff : config.violation? = none ↔ config.WithinLimits := by
  unfold violation? maxDelay
  constructor
  · intro none
    split_ifs at none with data sensitivity store delay
    exact ⟨data, sensitivity, store, Nat.not_lt.mp delay⟩
  · rintro ⟨data, sensitivity, store, delay⟩
    rw [if_neg data, if_neg sensitivity, if_neg store, if_neg (Nat.not_lt.mpr delay)]

theorem violation?_eq_some_iff :
    config.violation? = some violation ↔ config.BreaksFirst violation := by
  unfold violation? maxDelay
  constructor
  · intro told
    split_ifs at told with data sensitivity store delay <;> cases told
    · exact ⟨data, nofun⟩
    · refine ⟨sensitivity, ?_⟩
      rintro (_ | _ | _ | _) before
      · exact data
      all_goals simp [Violation.place] at before
    · refine ⟨store, ?_⟩
      rintro (_ | _ | _ | _) before
      · exact data
      · exact sensitivity
      all_goals simp [Violation.place] at before
    · refine ⟨⟨rfl, delay⟩, ?_⟩
      rintro (_ | _ | _ | _) before
      · exact data
      · exact sensitivity
      · exact store
      · simp [Violation.place] at before
  · rintro ⟨broken, kept⟩
    -- Every limit that is checked before the broken one is kept.
    have data : 0 < violation.place → config.device.dataPath.bytes ≠ [] := kept .emptyDataPath
    have sensitivity : 1 < violation.place → config.device.sensitivityPath.bytes ≠ [] :=
      kept .emptySensitivityPath
    have store : 2 < violation.place → config.calibration.storePath.bytes ≠ [] :=
      kept .emptyStorePath
    cases violation with
    | emptyDataPath => exact if_pos broken
    | emptySensitivityPath =>
        rw [if_neg (data (by decide))]
        exact if_pos broken
    | emptyStorePath =>
        rw [if_neg (data (by decide)), if_neg (sensitivity (by decide))]
        exact if_pos broken
    | delayTooLong delay =>
        obtain ⟨rfl, long⟩ := broken
        rw [if_neg (data (show 0 < 3 by decide)), if_neg (sensitivity (show 1 < 3 by decide)),
          if_neg (store (show 2 < 3 by decide)), if_pos long]

/-! ## Loading -/

/-- What loading a document comes to. -/
inductive Loads (table : Table) : Except ConfigError Config → Prop
  | accepted {config : Config} (completes : Completes table config)
      (within : config.WithinLimits) : Loads table (.ok config)
  /-- A value that is given to a setting does not have its type. -/
  | illTyped {setting : Setting} {value : Value} (given : given? table setting = some value)
      (meaningless : ∀ x, ¬setting.Means value x) : Loads table (.error .unreadable)
  | refused {config : Config} {violation : Violation} (completes : Completes table config)
      (first : config.BreaksFirst violation) : Loads table (.error (.invalid violation))

/-- The driver takes the delay of settings: it is a signed number of 64 bits that is
not refused. -/
def Honoured (config : Config) : Prop :=
  ∃ delay : Int64, delay.toInt = config.sampling.delay ∧
    ∀ control : Lifecycle.Control, (control.submit (.setDelay delay.toInt)).result = .ok () ∧
      (control.submit (.setDelay delay.toInt)).control.delay = config.sampling.delay

/-- A document says nothing to the settings of a section: the section is not there, is
empty, or has none of their keys. -/
def Silent (table : Table) (name : String) : Prop :=
  ∀ entries, table.lookup name.toList = some (.table entries) →
    ∀ setting : Setting, setting.sectionName = name → entries.lookup setting.key.toList = none

variable {table : Table}

/-- The defaults keep every limit. -/
theorem withinLimits_default : WithinLimits {} := by
  constructor <;> decide

theorem WithinLimits.honoured (within : config.WithinLimits) : config.Honoured := by
  have delay := within.delay
  have converted : (Int64.ofNat config.sampling.delay).toInt = config.sampling.delay :=
    Int64.toInt_ofNat_of_lt (by omega)
  refine ⟨.ofNat config.sampling.delay, converted, fun control => ?_⟩
  rw [converted, Lifecycle.Control.submit, if_neg (Int.not_lt.mpr (Int.natCast_nonneg _))]
  exact ⟨rfl, Int.toNat_natCast _⟩

theorem given?_of_silent {setting : Setting} (silent : Silent table setting.sectionName) :
    given? table setting = none := by
  unfold given? valueAt?
  split
  · rename_i entries found
    exact silent entries found setting rfl
  · rfl

/-- A document that is silent to every section comes to the defaults. -/
theorem Loads.of_silent (silent : ∀ setting : Setting, Silent table setting.sectionName) :
    Loads table (.ok {}) := by
  refine .accepted (fun setting => ?_) withinLimits_default
  rw [given?_of_silent (silent setting)]
  exact .absent

theorem Completes.congr {other : Table} (same : given? other = given? table)
    (completes : Completes table config) : Completes other config := by
  unfold Completes
  rw [same]
  exact completes

/-- What a document comes to depends on what it gives to the settings alone. -/
theorem Loads.congr {other : Table} {result : Except ConfigError Config}
    (same : given? other = given? table) (loads : Loads table result) : Loads other result := by
  cases loads with
  | accepted completes within => exact .accepted (completes.congr same) within
  | refused completes first => exact .refused (completes.congr same) first
  | illTyped given meaningless =>
      rw [← same] at given
      exact .illTyped given meaningless

/-- A text with the document of a table is loaded as the table says. -/
theorem ofText_eq_iff {text : List Char} (document : Toml.parse? text = some table)
    (sectioned : Sectioned table) {result : Except ConfigError Config} :
    ofText text = result ↔ Loads table result := by
  unfold ofText
  rw [document, Option.bind_some]
  constructor
  · rintro rfl
    cases read : ofTable? table with
    | none =>
        obtain ⟨setting, value, given, meaningless⟩ :=
          not_wellTyped_iff.mp ((ofTable?_eq_none_iff sectioned).mp read)
        exact .illTyped given meaningless
    | some config =>
        have completes := (ofTable?_eq_some_iff sectioned).mp read
        dsimp only
        unfold validate
        cases told : config.violation? with
        | none => exact .accepted completes (violation?_eq_none_iff.mp told)
        | some violation => exact .refused completes (violation?_eq_some_iff.mp told)
  · intro loads
    cases loads with
    | accepted completes within =>
        rw [(ofTable?_eq_some_iff sectioned).mpr completes]
        dsimp only
        rw [validate, violation?_eq_none_iff.mpr within]
    | illTyped given meaningless =>
        have illTyped := not_wellTyped_iff.mpr ⟨_, _, given, meaningless⟩
        rw [(ofTable?_eq_none_iff sectioned).mpr illTyped]
    | refused completes first =>
        rw [(ofTable?_eq_some_iff sectioned).mpr completes]
        dsimp only
        rw [validate, violation?_eq_some_iff.mpr first]

/-- What is loaded from the file of a document. -/
structure LoadsByKey (files : FileSystem) (path : Path) (table : Table) : Prop where
  outcome : ∀ result, load files path = result ↔ Loads table result
  /-- Settings are loaded exactly if every value that is given to one has its type and
  the completed settings keep the limits. -/
  succeeds : (∃ config, load files path = .ok config) ↔
    WellTyped table ∧ ∀ config, Completes table config → config.WithinLimits
  /-- Another document loads alike if it gives the same to every setting, but for the
  settings to whose section both are silent. -/
  alike : ∀ ⦃otherFiles : FileSystem⦄ ⦃otherPath : Path⦄ ⦃otherText : List Char⦄
    ⦃otherTable : Table⦄, otherFiles.readText otherPath = .ok otherText →
    Toml.parse? otherText = some otherTable → Sectioned otherTable →
    (∀ setting : Setting, given? otherTable setting = given? table setting ∨
      Silent otherTable setting.sectionName ∧ Silent table setting.sectionName) →
    load otherFiles otherPath = load files path
  honoured : ∀ config, load files path = .ok config → config.Honoured

/-- The file of a document whose sections are tables is loaded key by key. -/
theorem loadsByKey_of_document {files : FileSystem} {path : Path} {text : List Char}
    (read : files.readText path = .ok text) (document : Toml.parse? text = some table)
    (sectioned : Sectioned table) : LoadsByKey files path table := by
  have outcome (result) : load files path = result ↔ Loads table result := by
    rw [load_of_readText read]
    exact ofText_eq_iff document sectioned
  constructor
  case outcome => exact outcome
  case succeeds =>
    simp only [outcome]
    constructor
    · rintro ⟨config, loads⟩
      cases loads with
      | accepted completes within =>
          refine ⟨exists_completes_iff.mp ⟨config, completes⟩, fun other others => ?_⟩
          have same := ((ofTable?_eq_some_iff sectioned).mpr completes).symm.trans
            ((ofTable?_eq_some_iff sectioned).mpr others)
          rwa [← Option.some.inj same]
    · rintro ⟨typed, within⟩
      obtain ⟨config, completes⟩ := exists_completes_iff.mpr typed
      exact ⟨config, .accepted completes (within config completes)⟩
  case alike =>
    intro otherFiles otherPath otherText otherTable otherRead otherDocument otherSectioned same
    have given_eq : given? otherTable = given? table := by
      funext setting
      rcases same setting with same | ⟨otherSilent, silent⟩
      · exact same
      · rw [given?_of_silent otherSilent, given?_of_silent silent]
    rw [load_of_readText otherRead]
    exact (ofText_eq_iff otherDocument otherSectioned).mpr (((outcome _).mp rfl).congr given_eq)
  case honoured =>
    intro config loaded
    cases (outcome _).mp loaded with
    | accepted completes within => exact within.honoured

/-- Sections that give two settings, next to a section with nothing in it, a key that
is no setting and a section that holds none. -/
def sparseSections : List Toml.Section :=
  [⟨"device", [textPair "data_path" "d"]⟩, ⟨"sampling", []⟩,
    ⟨"output", [textPair "format" "json", numberPair "colour" 3]⟩, ⟨"other", []⟩]

/-- The document of the sparse sections. -/
def sparseText : List Char := Toml.writeSections (sparseSections.map Toml.Section.text)

theorem parse?_sparseText :
    Toml.parse? sparseText = some (sparseSections.map Toml.Section.entry) := by
  have bare : ∀ key ∈ ["device", "sampling", "output", "other", "data_path", "format", "colour"],
      Toml.Bare key.toList := by decide
  have apart : (sparseSections.map Toml.Section.name).Nodup := by
    change ["device", "sampling", "output", "other"].Nodup
    decide
  have apartOutput : ["format", "colour"].Nodup := by decide
  simp only [List.forall_mem_cons] at bare
  obtain ⟨device, sampling, output, other, data, format, colour, -⟩ := bare
  refine Toml.parse?_writeSections ?_ apart
  simp only [sparseSections, List.forall_mem_cons]
  refine ⟨⟨device, ?_, List.nodup_singleton _⟩, ⟨sampling, nofun, List.nodup_nil⟩,
    ⟨output, ?_, apartOutput⟩, ⟨other, nofun, List.nodup_nil⟩, nofun⟩
  · simpa using sound_textPair data _
  · simpa using ⟨sound_textPair format _, sound_numberPair colour (by decide)⟩

/-- The sparse document gives two settings, and the others have their defaults. -/
theorem loadsByKey_of_document_sparse :
    let files : FileSystem := ⟨[([[109]], .file (Text.Utf8.encode sparseText))]⟩
    let path : Path := .ofString "m"
    let table := sparseSections.map Toml.Section.entry
    files.readText path = .ok sparseText ∧ Toml.parse? sparseText = some table ∧
      Sectioned table ∧ LoadsByKey files path table ∧
      load files path =
        .ok { device := { dataPath := .ofString "d" }, output := { format := .json } } := by
  intro files path table
  have read : files.readText path = .ok sparseText := by decide +kernel
  have sectioned : Sectioned table := by
    intro setting
    cases setting <;>
      simp [Tabular, table, sparseSections, Toml.Section.entry, Setting.sectionName,
        List.lookup_cons]
  have loads := loadsByKey_of_document read parse?_sparseText sectioned
  refine ⟨read, parse?_sparseText, sectioned, loads, (loads.outcome _).mpr (.accepted ?_ ?_)⟩
  · intro setting
    rw [← complete?_eq_some_iff]
    have json : OutputFormat.ofName? "json" = some .json := OutputFormat.ofName?_name .json
    cases setting <;>
      simp [complete?, setting?, given?, valueAt?, sparseSections, Toml.Section.entry,
        Toml.Pair.entry, textPair, numberPair, Setting.sectionName, Setting.key,
        List.lookup_cons, Setting.read?, readPath?, readFormat?, get, json]
  · constructor <;> decide

end Config

end Magnetometer
