/-!
# Blank characters

The Unicode property `White_Space` and the trimming of text by it.  Calibration
text and axis names are trimmed with this class, so a no-break space or an
ideographic space around a value is as harmless as a plain one.
-/

namespace Magnetometer.Text

/-- The ranges of code points with the property `White_Space`. -/
def blankRanges : List (Nat × Nat) :=
  [(0x09, 0x0D), (0x20, 0x20), (0x85, 0x85), (0xA0, 0xA0), (0x1680, 0x1680), (0x2000, 0x200A),
    (0x2028, 0x2029), (0x202F, 0x202F), (0x205F, 0x205F), (0x3000, 0x3000)]

/-- Whether a character has the property `White_Space`. -/
def isBlank (c : Char) : Bool :=
  blankRanges.any fun range => range.1 ≤ c.toNat && c.toNat ≤ range.2

/-- Text without the blanks at its start. -/
def trimLeft (text : List Char) : List Char := text.dropWhile isBlank

/-- Text without the blanks at its end. -/
def trimRight (text : List Char) : List Char := (trimLeft text.reverse).reverse

/-- Text without the blanks at either end. -/
def trim (text : List Char) : List Char := trimRight (trimLeft text)

/-- A text of blanks, which may be empty. -/
def Blanks (text : List Char) : Prop := ∀ c ∈ text, isBlank c = true

/-- Text that starts with a character that is no blank keeps its start. -/
theorem trimLeft_cons_of_not_isBlank {c : Char} (text : List Char) (h : isBlank c = false) :
    trimLeft (c :: text) = c :: text := by
  simp [trimLeft, h]

/-- Text that starts with no blank keeps its start. -/
theorem trimLeft_eq_self {text : List Char} (first : ∀ c ∈ text.head?, isBlank c = false) :
    trimLeft text = text := by
  cases text with
  | nil => rfl
  | cons c rest => exact trimLeft_cons_of_not_isBlank rest (first c rfl)

/-- Text that ends with no blank keeps its end. -/
theorem trimRight_eq_self {text : List Char} (last : ∀ c ∈ text.getLast?, isBlank c = false) :
    trimRight text = text := by
  rw [trimRight, trimLeft_eq_self, List.reverse_reverse]
  rw [List.head?_reverse]
  exact last

/-- Blanks after a text are trimmed with those at its end. -/
theorem trimRight_append {text blanks : List Char} (blank : ∀ c ∈ blanks, isBlank c = true) :
    trimRight (text ++ blanks) = trimRight text := by
  have reversed : ∀ c ∈ blanks.reverse, isBlank c = true := fun c mem =>
    blank c (List.mem_reverse.mp mem)
  rw [trimRight, trimRight, List.reverse_append, trimLeft, List.dropWhile_append_of_pos reversed,
    trimLeft]

/-- Trimming takes away the blanks around a text that itself starts and ends with
none. -/
theorem trim_append {before text after : List Char} (blankBefore : ∀ c ∈ before, isBlank c = true)
    (blankAfter : ∀ c ∈ after, isBlank c = true) (first : ∀ c ∈ text.head?, isBlank c = false)
    (last : ∀ c ∈ text.getLast?, isBlank c = false) : trim (before ++ text ++ after) = text := by
  rw [trim, List.append_assoc, trimLeft, List.dropWhile_append_of_pos blankBefore]
  cases text with
  | nil =>
      rw [List.nil_append, ← List.append_nil after, List.dropWhile_append_of_pos blankAfter]
      rfl
  | cons c rest =>
      have start : trimLeft (c :: (rest ++ after)) = c :: (rest ++ after) :=
        trimLeft_cons_of_not_isBlank _ (first c rfl)
      rw [List.cons_append, ← trimLeft, start, ← List.cons_append, trimRight_append blankAfter,
        trimRight_eq_self last]

/-- Blanks after a text are trimmed away, also where nothing else is left. -/
theorem trim_append_of_blanks (text : List Char) {blanks : List Char} (blank : Blanks blanks) :
    trim (text ++ blanks) = trim text := by
  have nothing : blanks.dropWhile isBlank = [] := by
    rw [← List.append_nil blanks, List.dropWhile_append_of_pos blank]
    rfl
  rw [trim, trimLeft, List.dropWhile_append, nothing, trim, trimLeft]
  split
  · rename_i empty
    rw [List.isEmpty_iff.mp empty]
  · exact trimRight_append blank

theorem Blanks.not_mem {text : List Char} (blank : Blanks text) {c : Char}
    (other : isBlank c = false) : c ∉ text := by
  intro mem
  rw [blank c mem] at other
  contradiction

/-- Only blanks are taken away from the start of a text. -/
theorem exists_trimLeft (text : List Char) :
    ∃ before, Blanks before ∧ text = before ++ trimLeft text :=
  ⟨text.takeWhile isBlank, List.all_eq_true.mp List.all_takeWhile,
    List.takeWhile_append_dropWhile.symm⟩

/-- Only blanks are taken away from the end of a text. -/
theorem exists_trimRight (text : List Char) :
    ∃ after, Blanks after ∧ text = trimRight text ++ after := by
  obtain ⟨before, blank, split⟩ := exists_trimLeft text.reverse
  refine ⟨before.reverse, fun c mem => blank c (List.mem_reverse.mp mem), ?_⟩
  rw [trimRight, ← List.reverse_append, ← split, List.reverse_reverse]

/-- Only blanks are trimmed away around a text. -/
theorem exists_trim (text : List Char) :
    ∃ before after, Blanks before ∧ Blanks after ∧ text = before ++ trim text ++ after := by
  obtain ⟨before, blankBefore, left⟩ := exists_trimLeft text
  obtain ⟨after, blankAfter, right⟩ := exists_trimRight (trimLeft text)
  refine ⟨before, after, blankBefore, blankAfter, ?_⟩
  rw [trim, List.append_assoc, ← right, ← left]

end Magnetometer.Text
