import Magnetometer.Proofs.Number.Numeral
import Magnetometer.Store.Form
import Mathlib.Data.List.Induction
import Mathlib.Data.List.Infix

/-!
# The lines that are read

A line is read if it is the key of an axis, an equals sign and a number in range,
with blanks around each of them; every other line is passed over.  Of several lines
for an axis the last one counts, so that of two texts, one after the other, the
second one overrides the first axis by axis.
-/

namespace Magnetometer.Store

open Number Text

/-- A line that gives an axis a value. -/
inductive Entry (axis : Axis) (value : Int32) : List Char → Prop
  | intro {before beforeAxis afterAxis beforeValue numeral after : List Char}
      (blankBefore : Blanks before) (blankBeforeAxis : Blanks beforeAxis)
      (blankAfterAxis : Blanks afterAxis) (blankBeforeValue : Blanks beforeValue)
      (blankAfter : Blanks after) (written : Decimal.Numeral numeral value.toInt) :
      Entry axis value (before ++ ("HSUC_HO_FORM0.".toList ++
        (beforeAxis ++ axis.letter :: afterAxis ++ '=' :: (beforeValue ++ numeral))) ++ after)

variable {axis : Axis} {value : Int32} {line text : List Char}

/-! ## The parts of a line -/

theorem not_isBlank_of_isDigit {c : Char} (digit : c.isDigit = true) : isBlank c = false := by
  obtain ⟨lower, upper⟩ := (Decimal.isDigit_iff c).mp digit
  simp only [isBlank, blankRanges, List.any_cons, List.any_nil, Bool.or_false, Bool.or_eq_false_iff,
    Bool.and_eq_false_iff, decide_eq_false_iff_not]
  omega

theorem not_isBlank_of_mem_numeral {n : Int} (numeral : Decimal.Numeral text n) {c : Char}
    (mem : c ∈ text) : isBlank c = false := by
  rcases numeral.mem mem with digit | rfl | rfl
  · exact not_isBlank_of_isDigit digit
  · rfl
  · rfl

theorem not_isBlank_letter (axis : Axis) : isBlank axis.letter = false := by
  cases axis <;> rfl

theorem ofLetter?_eq_some_iff {c : Char} : Axis.ofLetter? c = some axis ↔ c = axis.letter := by
  constructor
  · intro named
    unfold Axis.ofLetter? at named
    split at named <;> cases named <;> rfl
  · rintro rfl
    exact Axis.ofLetter?_letter axis

theorem parseAxis?_eq_some_iff :
    parseAxis? text = some axis ↔
      ∃ before after, Blanks before ∧ Blanks after ∧ text = before ++ axis.letter :: after := by
  constructor
  · intro read
    unfold parseAxis? at read
    split at read
    · rename_i letter trimmed
      obtain ⟨before, after, blankBefore, blankAfter, split⟩ := exists_trim text
      rw [trimmed, ofLetter?_eq_some_iff.mp read, List.append_assoc] at split
      exact ⟨before, after, blankBefore, blankAfter, split⟩
    · contradiction
  · rintro ⟨before, after, blankBefore, blankAfter, rfl⟩
    have trimmed : trim (before ++ [axis.letter] ++ after) = [axis.letter] :=
      trim_append blankBefore blankAfter (by simpa using not_isBlank_letter axis)
        (by simpa using not_isBlank_letter axis)
    rw [List.append_assoc] at trimmed
    rw [parseAxis?, ← List.singleton_append, trimmed]
    exact Axis.ofLetter?_letter axis

theorem int32?_eq_some_iff {n : Int} : int32? n = some value ↔ value.toInt = n := by
  constructor
  · intro read
    unfold int32? at read
    split at read
    · rename_i inside
      cases read
      exact Int32.toInt_ofInt_of_le inside.1 (Int.lt_of_le_of_lt inside.2 (by decide))
    · contradiction
  · rintro rfl
    exact int32?_toInt value

theorem parseValue?_eq_some_iff :
    parseValue? text = some value ↔
      ∃ before numeral after, Blanks before ∧ Blanks after ∧
        Decimal.Numeral numeral value.toInt ∧ text = before ++ numeral ++ after := by
  constructor
  · intro read
    obtain ⟨n, readInt, inRange⟩ := Option.bind_eq_some_iff.mp read
    rw [← int32?_eq_some_iff.mp inRange, Decimal.parseInt?_eq_some_iff] at readInt
    obtain ⟨before, after, blankBefore, blankAfter, split⟩ := exists_trim text
    exact ⟨before, trim text, after, blankBefore, blankAfter, readInt, split⟩
  · rintro ⟨before, numeral, after, blankBefore, blankAfter, written, rfl⟩
    have trimmed : trim (before ++ numeral ++ after) = numeral :=
      trim_append blankBefore blankAfter
        (fun c mem => not_isBlank_of_mem_numeral written (List.mem_of_mem_head? mem))
        (fun c mem => not_isBlank_of_mem_numeral written (List.mem_of_mem_getLast? mem))
    rw [parseValue?, trimmed, Decimal.parseInt?_eq_some_iff.mpr written, Option.bind_some,
      int32?_toInt]

theorem splitOnce?_append {separator : Char} {before : List Char} (absent : separator ∉ before)
    (after : List Char) :
    splitOnce? separator (before ++ separator :: after) = some (before, after) := by
  induction before with
  | nil => exact if_pos rfl
  | cons c rest ih =>
      rw [List.mem_cons, not_or] at absent
      rw [List.cons_append, splitOnce?, if_neg (Ne.symm absent.1), ih absent.2, Option.map_some]

theorem splitOnce?_eq_some_iff {separator : Char} {before after : List Char} :
    splitOnce? separator text = some (before, after) ↔
      separator ∉ before ∧ text = before ++ separator :: after := by
  constructor
  · intro split
    induction text generalizing before with
    | nil => cases split
    | cons c rest ih =>
        unfold splitOnce? at split
        split at split
        · rename_i here
          cases split
          exact ⟨List.not_mem_nil, congrArg (· :: _) here⟩
        · rename_i further
          obtain ⟨parts, splitRest, same⟩ := Option.map_eq_some_iff.mp split
          cases same
          obtain ⟨absent, rfl⟩ := ih splitRest
          exact ⟨List.not_mem_cons_of_ne_of_not_mem (Ne.symm further) absent, rfl⟩
  · rintro ⟨absent, rfl⟩
    exact splitOnce?_append absent after

/-! ## Lines -/

/-- An entry without the blanks around it is the key and, on the two sides of the
first equals sign, its axis and its value. -/
theorem Entry.exists_parts (entry : Entry axis value line) :
    ∃ axisText valueText, trim line = keyStart ++ (axisText ++ '=' :: valueText) ∧
      '=' ∉ axisText ∧ parseAxis? axisText = some axis ∧ parseValue? valueText = some value := by
  obtain ⟨blankBefore, blankBeforeAxis, blankAfterAxis, blankBeforeValue, blankAfter, written⟩ :=
    entry
  rename_i before beforeAxis afterAxis beforeValue numeral after
  refine ⟨beforeAxis ++ axis.letter :: afterAxis, beforeValue ++ numeral, ?_, ?_, ?_, ?_⟩
  · apply trim_append blankBefore blankAfter
    · intro c mem
      cases mem
      rfl
    · intro c mem
      apply not_isBlank_of_mem_numeral written
      apply List.mem_of_mem_getLast?
      simpa [List.getLast?_append, List.getLast?_cons,
        List.getLast?_eq_some_getLast written.ne_nil] using mem
  · have letter : '=' ≠ axis.letter := by cases axis <;> decide
    simp [blankBeforeAxis.not_mem (c := '=') rfl, blankAfterAxis.not_mem (c := '=') rfl, letter]
  · exact parseAxis?_eq_some_iff.mpr ⟨_, _, blankBeforeAxis, blankAfterAxis, rfl⟩
  · exact parseValue?_eq_some_iff.mpr
      ⟨_, _, [], blankBeforeValue, nofun, written, (List.append_nil _).symm⟩

/-- Exactly the entries are read. -/
theorem parseLine?_eq_some_iff : parseLine? line = some (axis, value) ↔ Entry axis value line := by
  constructor
  · intro read
    simp only [parseLine?, Option.bind_eq_bind, Option.bind_eq_some_iff, Option.pure_def,
      Option.some.injEq, Prod.exists, Prod.mk.injEq] at read
    obtain ⟨rest, keyed, axisText, valueText, split, found, readAxis, read, readValue, rfl, rfl⟩ :=
      read
    obtain ⟨before, after, blankBefore, blankAfter, whole⟩ := exists_trim line
    obtain ⟨-, rfl⟩ := splitOnce?_eq_some_iff.mp split
    obtain ⟨beforeAxis, afterAxis, blankBeforeAxis, blankAfterAxis, rfl⟩ :=
      parseAxis?_eq_some_iff.mp readAxis
    obtain ⟨beforeValue, numeral, behind, blankBeforeValue, blankBehind, written, rfl⟩ :=
      parseValue?_eq_some_iff.mp readValue
    have entry : Entry found read (before ++ (keyStart ++ (beforeAxis ++
        found.letter :: afterAxis ++ '=' :: (beforeValue ++ numeral))) ++ (behind ++ after)) :=
      .intro blankBefore blankBeforeAxis blankAfterAxis blankBeforeValue
        (List.forall_mem_append.mpr ⟨blankBehind, blankAfter⟩) written
    rw [whole, ← List.isPrefixOf?_eq_some_iff_append_eq.mp keyed]
    simpa only [List.append_assoc, List.cons_append] using entry
  · intro entry
    obtain ⟨axisText, valueText, trimmed, absent, readAxis, readValue⟩ := entry.exists_parts
    have keyed : keyStart.isPrefixOf? (trim line) = some (axisText ++ '=' :: valueText) :=
      List.isPrefixOf?_eq_some_iff_append_eq.mpr trimmed.symm
    simp only [parseLine?, keyed, splitOnce?_append absent, readAxis, readValue,
      Option.bind_eq_bind, Option.bind_some, Option.pure_def]

/-- A carriage return before the line feed is one more blank. -/
theorem entry_append_return_iff : Entry axis value (line ++ ['\r']) ↔ Entry axis value line := by
  have trimmed : trim (line ++ ['\r']) = trim line :=
    trim_append_of_blanks line (List.forall_mem_singleton.mpr rfl)
  rw [← parseLine?_eq_some_iff, ← parseLine?_eq_some_iff, parseLine?, trimmed]
  rfl

/-! ## Texts -/

/-- The value that a line gives an axis. -/
def valueOn? (axis : Axis) (line : List Char) : Option Int32 :=
  (parseLine? line).bind fun entry => if entry.1 = axis then some entry.2 else none

theorem valueOn?_eq_some_iff : valueOn? axis line = some value ↔ Entry axis value line := by
  rw [← parseLine?_eq_some_iff, valueOn?]
  cases parseLine? line with
  | none => simp
  | some entry =>
      obtain ⟨other, found⟩ := entry
      by_cases same : other = axis <;> simp [same]

theorem valueOn?_eq_none_iff : valueOn? axis line = none ↔ ∀ value, ¬Entry axis value line := by
  simp only [Option.eq_none_iff_forall_ne_some, ne_eq, valueOn?_eq_some_iff]

/-- A line overrides the axis that it gives a value. -/
theorem get_applyLine (stored : StoredOffset) (line : List Char) (axis : Axis) :
    (applyLine stored line).get axis = (valueOn? axis line).or (stored.get axis) := by
  rw [applyLine, valueOn?]
  cases parseLine? line with
  | none => rfl
  | some entry =>
      by_cases same : axis = entry.1
      · subst same
        simp
      · simp [Triple.get_set_other _ _ same, Ne.symm same]

/-- The last line that gives an axis a value counts. -/
theorem get_foldl_applyLine (stored : StoredOffset) (lines : List (List Char)) (axis : Axis) :
    (lines.foldl applyLine stored).get axis =
      (lines.reverse.findSome? (valueOn? axis)).or (stored.get axis) := by
  induction lines using List.reverseRecOn with
  | nil => rfl
  | append_singleton lines line ih =>
      rw [List.foldl_append, List.foldl_cons, List.foldl_nil, get_applyLine, ih,
        List.reverse_append, List.reverse_singleton, List.singleton_append, List.findSome?_cons]
      cases valueOn? axis line <;> rfl

theorem get_parse (text : List Char) (axis : Axis) :
    (parse text).get axis = (lines text).reverse.findSome? (valueOn? axis) := by
  simp [parse, get_foldl_applyLine, StoredOffset.empty]

/-- Lines with their line feeds, one after another, are read in their order. -/
theorem parse_flatMap {texts : List (List Char)} (whole : ∀ text ∈ texts, '\n' ∉ text) :
    parse (texts.flatMap fun text => text ++ ['\n']) = texts.foldl applyLine .empty := by
  rw [parse, lines_flatMap whole, List.foldl_append]
  rfl

/-- Of some lines the last one that gives an axis a value gives it this one. -/
def LastEntry (axis : Axis) (value : Int32) (lines : List (List Char)) : Prop :=
  ∃ earlier line later, lines = earlier ++ line :: later ∧ Entry axis value line ∧
    ∀ other ∈ later, ∀ otherValue, ¬Entry axis otherValue other

theorem findSome?_eq_some_iff {lines : List (List Char)} :
    lines.reverse.findSome? (valueOn? axis) = some value ↔ LastEntry axis value lines := by
  simp only [List.findSome?_eq_some_iff, valueOn?_eq_some_iff, valueOn?_eq_none_iff,
    List.reverse_eq_iff, List.reverse_append, List.reverse_cons, List.append_assoc,
    List.singleton_append]
  constructor
  · rintro ⟨later, line, earlier, rfl, entry, none⟩
    exact ⟨earlier.reverse, line, later.reverse, rfl, entry,
      fun other mem => none other (List.mem_reverse.mp mem)⟩
  · rintro ⟨earlier, line, later, rfl, entry, none⟩
    exact ⟨later.reverse, line, earlier.reverse, by simp, entry,
      fun other mem => none other (List.mem_reverse.mp mem)⟩

/-- Exactly the last entries are kept of some lines. -/
theorem get_foldl_eq_some_iff {lines : List (List Char)} :
    (lines.foldl applyLine .empty).get axis = some value ↔ LastEntry axis value lines := by
  rw [get_foldl_applyLine, ← findSome?_eq_some_iff]
  simp [StoredOffset.empty]

/-- The reading of a text by the form of its lines. -/
structure ReadByLines (text : List Char) : Prop where
  present : ∀ axis value, (parse text).get axis = some value ↔ LastEntry axis value (lines text)
  absent : ∀ axis, (parse text).get axis = none ↔
    ∀ line ∈ lines text, ∀ value, ¬Entry axis value line
  /-- A carriage return at the end of a line does not matter. -/
  returned : ∀ axis value line, Entry axis value (line ++ ['\r']) ↔ Entry axis value line
  /-- A line of any other form does not matter, whatever stands before and after it. -/
  passedOver : ∀ line, '\n' ∉ line → (∀ axis value, ¬Entry axis value line) →
    parse (text ++ '\n' :: line) = parse text ∧
      ∀ rest, parse (text ++ '\n' :: line ++ '\n' :: rest) = parse (text ++ '\n' :: rest)
  overridden : ∀ rest axis,
    (parse (text ++ '\n' :: rest)).get axis = ((parse rest).get axis).or ((parse text).get axis)

theorem get_parse_append (text rest : List Char) (axis : Axis) :
    (parse (text ++ '\n' :: rest)).get axis =
      ((parse rest).get axis).or ((parse text).get axis) := by
  rw [parse_append, get_foldl_applyLine, ← get_parse]

/-- A text of one line that is no entry holds nothing. -/
theorem parse_eq_empty (unbroken : '\n' ∉ line) (other : ∀ axis value, ¬Entry axis value line) :
    parse line = .empty := by
  apply Triple.ext_get
  intro axis
  rw [get_parse, lines, splitAt_of_not_mem unbroken]
  simp [valueOn?_eq_none_iff.mpr (other axis), StoredOffset.empty]

/-- Every text is read by the form of its lines. -/
theorem parse_readByLines (text : List Char) : ReadByLines text := by
  have passed (line : List Char) (unbroken : '\n' ∉ line)
      (other : ∀ axis value, ¬Entry axis value line) :
      parse (text ++ '\n' :: line) = parse text := by
    apply Triple.ext_get
    intro axis
    rw [get_parse_append, parse_eq_empty unbroken other]
    simp [StoredOffset.empty]
  constructor
  case present => exact fun axis value => get_foldl_eq_some_iff
  case absent =>
    intro axis
    simp only [get_parse, List.findSome?_eq_none_iff, List.mem_reverse, valueOn?_eq_none_iff]
  case returned => exact fun axis value line => entry_append_return_iff
  case passedOver =>
    intro line unbroken other
    refine ⟨passed line unbroken other, fun rest => ?_⟩
    apply Triple.ext_get
    intro axis
    rw [get_parse_append, passed line unbroken other, get_parse_append]
  case overridden => exact get_parse_append text

/-- A second equals sign, or a number out of range, costs a line its meaning, and the
line before it stands. -/
example : parse ("HSUC_HO_FORM0. x\t=+07\r\nHSUC_HO_FORM0.x = 8 = 9\n" ++
    "HSUC_HO_FORM0.x = 2147483648\nHSUC_HO_FORM0.z=-2147483648").toList =
      ⟨some 7, none, some (-2147483648)⟩ := by
  decide +kernel

end Magnetometer.Store
