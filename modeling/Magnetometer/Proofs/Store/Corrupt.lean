import Magnetometer.Proofs.Store
import Magnetometer.Proofs.Text.Lossy

/-!
# Files with ill-formed bytes

A file of offsets is read whole, with a replacement for each ill-formed part of it,
and only then split into lines.  No replacement stands in a line that is read, so
that the file comes to the same as its well-formed pieces between the line feeds,
and an ill-formed piece costs no line but its own.
-/

namespace Magnetometer

namespace Store

open Text

/-- The texts between the line feeds of a file, without the pieces that are no text. -/
def readable (content : Bytes) : List (List Char) := (splitAt 10 content).filterMap Utf8.decode?

/-! ## Ill-formed lines -/

/-- A replacement is no part of an entry: neither of its key and its axis nor of its
number, and no blank. -/
theorem Entry.replacement_not_mem {axis : Axis} {value : Int32} {line : List Char}
    (entry : Entry axis value line) : Utf8.replacement ∉ line := by
  obtain ⟨blankBefore, blankBeforeAxis, blankAfterAxis, blankBeforeValue, blankAfter, written⟩ :=
    entry
  have noBlank : isBlank Utf8.replacement = false := rfl
  have key : Utf8.replacement ∉ "HSUC_HO_FORM0.".toList := by decide
  have letter : Utf8.replacement ≠ axis.letter := by cases axis <;> decide
  have equals : Utf8.replacement ≠ '=' := by decide
  have numeral : Utf8.replacement ∉ _ := fun mem => absurd (written.mem mem) (by decide)
  simp only [List.mem_append, List.mem_cons, not_or]
  exact ⟨⟨blankBefore.not_mem noBlank, key,
    ⟨blankBeforeAxis.not_mem noBlank, letter, blankAfterAxis.not_mem noBlank⟩,
    equals, blankBeforeValue.not_mem noBlank, numeral⟩, blankAfter.not_mem noBlank⟩

/-- A line that is no text is passed over. -/
theorem applyLine_decodeLossy (stored : StoredOffset) (piece : Bytes) :
    applyLine stored (Utf8.decodeLossy piece) =
      (Utf8.decode? piece).elim stored (applyLine stored) := by
  cases read : Utf8.decode? piece with
  | some text => rw [Utf8.decodeLossy_of_decode? read, Option.elim_some]
  | none =>
      have skipped : parseLine? (Utf8.decodeLossy piece) = none := by
        rw [Option.eq_none_iff_forall_ne_some]
        rintro ⟨axis, value⟩ entry
        exact (parseLine?_eq_some_iff.mp entry).replacement_not_mem
          (Utf8.replacement_mem_decodeLossy read)
      rw [applyLine, skipped, Option.elim_none]

/-! ## Files -/

/-- What is read from a file is what its texts between the line feeds give, in their
order. -/
theorem parse_decodeLossy (content : Bytes) :
    parse (Utf8.decodeLossy content) = (readable content).foldl applyLine .empty := by
  rw [parse, Utf8.lines_decodeLossy, List.foldl_map, readable, List.foldl_filterMap]
  simp only [applyLine_decodeLossy]
  congr 1
  funext stored piece
  cases Utf8.decode? piece <;> rfl

theorem lineFeed_not_mem_of_mem_readable {content : Bytes} {text : List Char}
    (mem : text ∈ readable content) : '\n' ∉ text := by
  obtain ⟨piece, between, read⟩ := List.mem_filterMap.mp mem
  rw [← Utf8.decodeLossy_of_decode? read]
  exact Utf8.lineFeed_not_mem_decodeLossy (not_mem_of_mem_splitAt between)

theorem readable_append_cons (before after : Bytes) :
    readable (before ++ 10 :: after) = readable before ++ readable after := by
  rw [readable, splitAt_append_cons, List.filterMap_append]
  rfl

/-- Of an ill-formed piece between line feeds nothing is left. -/
theorem readable_of_illFormed {piece : Bytes} (unbroken : 10 ∉ piece)
    (illFormed : Utf8.decode? piece = none) : readable piece = [] := by
  rw [readable, splitAt_of_not_mem unbroken, List.filterMap_cons_none illFormed,
    List.filterMap_nil]

end Store

namespace FileStore

/-- A file is loaded as its texts between the line feeds, whatever else it holds: of
the lines among them that give an axis a value the last one counts, and an ill-formed
piece of the file might as well not be there. -/
theorem load_eq_parse_readable {store : FileStore} {content : Bytes}
    (read : store.files.read store.path = .ok content) :
    ∃ stored, store.load = ⟨store, .ok stored, []⟩ ∧
      stored = Store.parse ((Store.readable content).flatMap fun line => line ++ ['\n']) ∧
      (∀ axis value, stored.get axis = some value ↔
        Store.LastEntry axis value (Store.readable content)) ∧
      ∀ before piece after, content = before ++ 10 :: (piece ++ 10 :: after) → 10 ∉ piece →
        Text.Utf8.decode? piece = none → ∀ other : FileStore,
          other.files.read other.path = .ok (before ++ 10 :: after) →
            other.load = ⟨other, .ok stored, []⟩ := by
  refine ⟨_, load_of_read read, ?_, ?_, ?_⟩
  · rw [Store.parse_decodeLossy]
    exact (Store.parse_flatMap fun _ => Store.lineFeed_not_mem_of_mem_readable).symm
  · intro axis value
    rw [Store.parse_decodeLossy, Store.get_foldl_eq_some_iff]
  · rintro before piece after rfl unbroken illFormed other otherRead
    have same : Store.readable (before ++ 10 :: (piece ++ 10 :: after)) =
        Store.readable (before ++ 10 :: after) := by
      simp only [Store.readable_append_cons, Store.readable_of_illFormed unbroken illFormed,
        List.nil_append]
    rw [load_of_read otherRead, Store.parse_decodeLossy, Store.parse_decodeLossy, same]

/-- A file in which the second line ends in a character that is cut short. -/
def cutShort : Bytes :=
  Text.Utf8.encode "HSUC_HO_FORM0.x = 1".toList ++
    10 :: ((Text.Utf8.encode "HSUC_HO_FORM0.x = 2".toList ++ [0xE2, 0x82]) ++
      10 :: Text.Utf8.encode "HSUC_HO_FORM0.y = 3".toList)

/-- The value of the second line is lost, and no other one. -/
theorem load_eq_parse_readable_cutShort :
    ∃ (store : FileStore) (stored : StoredOffset),
      store = ⟨⟨[97]⟩, ⟨[([[97]], .file cutShort)]⟩⟩ ∧ stored = ⟨some 1, some 3, none⟩ ∧
        store.files.read store.path = .ok cutShort ∧ store.load = ⟨store, .ok stored, []⟩ ∧
        (∀ axis value, stored.get axis = some value ↔
          Store.LastEntry axis value (Store.readable cutShort)) ∧
        ∀ other : FileStore, other.files.read other.path =
            .ok (Text.Utf8.encode "HSUC_HO_FORM0.x = 1".toList ++
              10 :: Text.Utf8.encode "HSUC_HO_FORM0.y = 3".toList) →
          other.load = ⟨other, .ok stored, []⟩ := by
  have read : FileSystem.read ⟨[([[97]], .file cutShort)]⟩ ⟨[97]⟩ = .ok cutShort := rfl
  obtain ⟨stored, loaded, stored_eq, entries, others⟩ :=
    @load_eq_parse_readable ⟨⟨[97]⟩, ⟨[([[97]], .file cutShort)]⟩⟩ cutShort read
  refine ⟨_, stored, rfl, ?_, read, loaded, entries,
    others _ _ _ rfl (by decide +kernel) (by decide +kernel)⟩
  rw [stored_eq]
  decide +kernel

end FileStore

end Magnetometer
