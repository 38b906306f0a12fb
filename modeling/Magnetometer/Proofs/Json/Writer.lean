import Magnetometer.Json.Forms

/-!
# Written JSON is one line

Compact JSON text holds no line feed: inside texts it is escaped, and numbers
and punctuation have none.
-/

namespace Magnetometer

open Number

/-! ## Numbers -/

theorem Number.Decimal.lineFeed_not_mem_digits (n : Nat) : '\n' ∉ Decimal.digits n := by
  have digit_ne : ∀ digit < 10, '\n' ≠ digitChar digit := by decide
  intro mem
  obtain ⟨digit, small, eq⟩ := exists_of_mem_digits mem
  exact digit_ne digit small eq

theorem Number.Decimal.lineFeed_not_mem_render (n : Int) : '\n' ∉ Decimal.render n := by
  unfold render
  split
  · simp [lineFeed_not_mem_digits]
  · exact lineFeed_not_mem_digits _

theorem Number.Layout.lineFeed_not_mem_render (layout : Layout) (n : Scientific) :
    '\n' ∉ layout.render n := by
  have digits := Decimal.lineFeed_not_mem_digits n.digits
  unfold render
  dsimp only
  split
  · split
    · simp [digits]
    · split
      · simp only [List.mem_append, List.mem_cons, not_or]
        exact ⟨fun mem => digits (List.mem_of_mem_take mem), by decide,
          fun mem => digits (List.mem_of_mem_drop mem)⟩
      · simp [digits]
  · have shown : '\n' ∉ pointAfterFirst (Decimal.digits n.digits) := by
      unfold pointAfterFirst
      split <;> simp_all
    have exponent := Decimal.lineFeed_not_mem_digits
      (n.exponent + (Decimal.digits n.digits).length - 1).natAbs
    simp only [List.mem_append, List.mem_cons, not_or]
    refine ⟨shown, by decide, ?_, exponent⟩
    split <;> decide

namespace Json

theorem lineFeed_not_mem_writeBinary {format : Format} (a : Binary format) :
    '\n' ∉ writeBinary a := by
  have magnitude : '\n' ∉ (if a.isZero then "0.0".toList
      else numberLayout.render (Shortest.ofBinary a)) := by
    split
    · decide
    · exact Layout.lineFeed_not_mem_render _ _
  unfold writeBinary
  dsimp only
  split
  · split
    · exact List.not_mem_cons_of_ne_of_not_mem (by decide) magnitude
    · exact magnitude
  · decide

/-! ## Texts, arrays and objects -/

theorem lineFeed_not_mem_writeChar (c : Char) : '\n' ∉ writeChar c := by
  have hexDigit_ne : ∀ n < 16, '\n' ≠ hexDigit n := by decide
  unfold writeChar
  repeat' split
  all_goals try decide
  · rename_i control
    simp only [List.mem_append, List.mem_cons, List.not_mem_nil, or_false, not_or]
    exact ⟨by decide, hexDigit_ne _ (by omega), hexDigit_ne _ (Nat.mod_lt _ (by decide))⟩
  · rename_i plain _ _ _
    simpa using Ne.symm plain

theorem lineFeed_not_mem_writeText (text : List Char) : '\n' ∉ writeText text := by
  simp [writeText, lineFeed_not_mem_writeChar]

theorem lineFeed_not_mem_intercalate {items : List (List Char)}
    (unbroken : ∀ item ∈ items, '\n' ∉ item) : '\n' ∉ List.intercalate [','] items := by
  induction items with
  | nil => simp
  | cons item rest ih =>
      obtain ⟨first, others⟩ := List.forall_mem_cons.mp unbroken
      cases rest with
      | nil => simpa using first
      | cons next rest =>
          rw [List.intercalate_cons_cons]
          simp only [List.mem_append, List.mem_singleton, not_or]
          exact ⟨⟨first, by decide⟩, ih others⟩

/-- An object whose values are without line feeds is written on one line. -/
theorem lineFeed_not_mem_writeObject {members : List (String × List Char)}
    (unbroken : ∀ member ∈ members, '\n' ∉ member.2) : '\n' ∉ writeObject members := by
  have written : ∀ item ∈ members.map writeMember, '\n' ∉ item := by
    intro item mem
    obtain ⟨member, inside, rfl⟩ := List.mem_map.mp mem
    simp [writeMember, lineFeed_not_mem_writeText, unbroken member inside]
  simp [writeObject, lineFeed_not_mem_intercalate written]

end Json

/-! ## Events -/

theorem Event.lineFeed_not_mem_toJson (event : Event) : '\n' ∉ event.toJson := by
  apply Json.lineFeed_not_mem_writeObject
  simp [FieldVector.jsonMembers, Triple.jsonMembers, Accuracy.toJson, Json.writeInteger,
    Decimal.lineFeed_not_mem_render, Json.lineFeed_not_mem_writeBinary,
    Json.lineFeed_not_mem_writeText]

end Magnetometer
