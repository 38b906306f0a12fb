import Mathlib.Data.List.Induction
import Magnetometer.Text.Line

/-!
# Pieces of a sequence that grows

A sequence is split as it grows: its pieces up to the last separator stay, and
what comes next goes on with the piece behind it.
-/

namespace Magnetometer.Text

section Ends

variable {α : Type} {separator : α}

/-- A sequence ends inside a piece: its last element is no separator. -/
def EndsInside (separator : α) (s : List α) : Prop := ∃ c ∈ s.getLast?, c ≠ separator

theorem not_endsInside_nil : ¬EndsInside separator [] := nofun

theorem endsInside_concat (s : List α) (c : α) :
    EndsInside separator (s ++ [c]) ↔ c ≠ separator := by
  simp [EndsInside]

/-- What is not empty and has no separator ends inside a piece, whatever stands
before it. -/
theorem endsInside_append {t : List α} (begun : t ≠ []) (unsplit : separator ∉ t) (s : List α) :
    EndsInside separator (s ++ t) := by
  refine ⟨t.getLast begun, ?_, fun eq => unsplit (eq ▸ List.getLast_mem begun)⟩
  rw [List.getLast?_append, List.getLast?_eq_some_getLast begun, Option.some_or]
  rfl

end Ends

variable {α : Type} [DecidableEq α] {separator : α}

theorem length_splitAt (s : List α) : (splitAt separator s).length = s.count separator + 1 := by
  induction s with
  | nil => rfl
  | cons c rest ih =>
      unfold splitAt
      split
      · rename_i eq
        subst eq
        rw [List.length_cons, ih, List.count_cons_self]
      · rename_i ne
        rw [List.count_cons_of_ne ne, ← ih]
        cases pieces : splitAt separator rest with
        | nil => exact absurd pieces (splitAt_ne_nil separator rest)
        | cons piece pieces => rfl

/-- A sequence is whole pieces and the beginning of the next one, which is empty
unless the sequence ends inside a piece. -/
theorem exists_splitAt_append (separator : α) (s : List α) :
    ∃ pieces begun, pieces.length = s.count separator ∧ separator ∉ begun ∧
      (begun = [] ↔ ¬EndsInside separator s) ∧
      ∀ t, splitAt separator (s ++ t) = pieces ++ splitAt separator (begun ++ t) := by
  induction s using List.reverseRecOn with
  | nil => exact ⟨[], [], rfl, nofun, iff_of_true rfl not_endsInside_nil, fun _ => rfl⟩
  | append_singleton s c ih =>
      rw [endsInside_concat, not_not]
      by_cases eq : c = separator
      · subst eq
        refine ⟨splitAt c s, [], ?_, nofun, iff_of_true rfl rfl, fun t => ?_⟩
        · rw [length_splitAt, List.count_append, List.count_singleton_self]
        · rw [List.append_assoc, List.singleton_append, splitAt_append_cons, List.nil_append]
      · obtain ⟨pieces, begun, count, unsplit, -, split⟩ := ih
        refine ⟨pieces, begun ++ [c], ?_, ?_, iff_of_false (List.concat_ne_nil _ _) eq,
          fun t => ?_⟩
        · have none : [c].count separator = 0 :=
            List.count_eq_zero_of_not_mem (by simpa using Ne.symm eq)
          rw [count, List.count_append, none, Nat.add_zero]
        · simpa [not_or] using ⟨unsplit, Ne.symm eq⟩
        · rw [List.append_assoc, split, List.append_assoc]

/-- A piece that is written with its separator is a piece of its own if and only
if what stands before it does not end inside a piece. -/
theorem splitAt_getElem?_iff {piece : List α} (unsplit : separator ∉ piece) (s t : List α) :
    (splitAt separator (s ++ (piece ++ separator :: t)))[s.count separator]? = some piece ↔
      ¬EndsInside separator s := by
  obtain ⟨pieces, begun, count, unsplitBegun, ended, split⟩ :=
    exists_splitAt_append separator s
  have found : (splitAt separator (s ++ (piece ++ separator :: t)))[s.count separator]? =
      some (begun ++ piece) := by
    rw [split, ← List.append_assoc, splitAt_append_cons,
      splitAt_of_not_mem (by simp [unsplit, unsplitBegun]), ← count,
      List.getElem?_append_right (Nat.le_refl _), Nat.sub_self]
    rfl
  rw [found, Option.some.injEq, List.append_left_eq_self, ended]

end Magnetometer.Text
