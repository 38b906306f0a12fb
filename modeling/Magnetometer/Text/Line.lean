/-!
# Lines

Splitting of a sequence at a separator.  Text is split at line feeds and bytes
at the byte 10; the pieces joined by the separator are the whole again.
-/

namespace Magnetometer.Text

variable {α : Type} [DecidableEq α]

/-- The pieces of a sequence between the occurrences of a separator.  There is
always one more piece than there are separators. -/
def splitAt (separator : α) : List α → List (List α)
  | [] => [[]]
  | c :: rest =>
      if c = separator then
        [] :: splitAt separator rest
      else
        match splitAt separator rest with
        | [] => [[c]]
        | piece :: pieces => (c :: piece) :: pieces

/-- The lines of a text, without their line feeds. -/
def lines (text : List Char) : List (List Char) := splitAt '\n' text

theorem splitAt_ne_nil (separator : α) (s : List α) : splitAt separator s ≠ [] := by
  induction s with
  | nil => simp [splitAt]
  | cons c rest ih =>
      unfold splitAt
      split
      · simp
      · split <;> simp

/-- Pieces joined by the separator give the sequence back. -/
theorem intercalate_splitAt (separator : α) (s : List α) :
    List.intercalate [separator] (splitAt separator s) = s := by
  induction s with
  | nil => simp [splitAt]
  | cons c rest ih =>
      unfold splitAt
      split
      · rename_i h
        subst h
        cases hpieces : splitAt c rest with
        | nil => exact absurd hpieces (splitAt_ne_nil c rest)
        | cons piece pieces =>
            rw [hpieces] at ih
            simpa [List.intercalate, List.intersperse] using ih
      · cases hpieces : splitAt separator rest with
        | nil => exact absurd hpieces (splitAt_ne_nil separator rest)
        | cons piece pieces =>
            rw [hpieces] at ih
            cases pieces with
            | nil => simpa [List.intercalate, List.intersperse] using ih
            | cons next pieces => simpa [List.intercalate, List.intersperse] using ih

/-- Splitting a sequence at one of its separators splits the two sides. -/
theorem splitAt_append_cons (separator : α) (s t : List α) :
    splitAt separator (s ++ separator :: t) = splitAt separator s ++ splitAt separator t := by
  induction s with
  | nil => simp [splitAt]
  | cons c rest ih =>
      simp only [List.cons_append, splitAt, ih]
      split
      · rfl
      · cases hpieces : splitAt separator rest with
        | nil => exact absurd hpieces (splitAt_ne_nil separator rest)
        | cons piece pieces => rfl

/-- A sequence without separators is one piece. -/
theorem splitAt_of_not_mem {separator : α} {s : List α} (h : separator ∉ s) :
    splitAt separator s = [s] := by
  induction s with
  | nil => rfl
  | cons c rest ih =>
      simp only [List.mem_cons, not_or] at h
      simp [splitAt, ih h.2, Ne.symm h.1]

/-- No piece holds the separator. -/
theorem not_mem_of_mem_splitAt {separator : α} {s piece : List α}
    (mem : piece ∈ splitAt separator s) : separator ∉ piece := by
  induction s generalizing piece with
  | nil =>
      rw [splitAt, List.mem_singleton] at mem
      rw [mem]
      exact List.not_mem_nil
  | cons c rest ih =>
      unfold splitAt at mem
      split at mem
      · rcases List.mem_cons.mp mem with rfl | mem
        · exact List.not_mem_nil
        · exact ih mem
      · rename_i other
        split at mem
        · rw [List.mem_singleton.mp mem, List.mem_singleton]
          exact Ne.symm other
        · rename_i first pieces pieces_eq
          rw [pieces_eq] at ih
          rcases List.mem_cons.mp mem with rfl | mem
          · rw [List.mem_cons, not_or]
            exact ⟨Ne.symm other, ih List.mem_cons_self⟩
          · exact ih (List.mem_cons_of_mem _ mem)

/-- Pieces with their separators, one after another, are split again, with an
empty piece after the last one. -/
theorem splitAt_flatMap {separator : α} {pieces : List (List α)}
    (whole : ∀ piece ∈ pieces, separator ∉ piece) :
    splitAt separator (pieces.flatMap fun piece => piece ++ [separator]) = pieces ++ [[]] := by
  induction pieces with
  | nil => rfl
  | cons piece rest ih =>
      obtain ⟨unsplit, wholeRest⟩ := List.forall_mem_cons.mp whole
      rw [List.flatMap_cons, List.append_assoc, List.singleton_append, splitAt_append_cons,
        splitAt_of_not_mem unsplit, ih wholeRest, List.singleton_append, List.cons_append]

/-- Lines with their line feeds, one after another, are split again, with an
empty line after the last one. -/
theorem lines_flatMap {texts : List (List Char)} (whole : ∀ text ∈ texts, '\n' ∉ text) :
    lines (texts.flatMap fun text => text ++ ['\n']) = texts ++ [[]] :=
  splitAt_flatMap whole

end Magnetometer.Text
