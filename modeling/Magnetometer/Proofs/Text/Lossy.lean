import Magnetometer.Proofs.Text.Utf8
import Magnetometer.Text.Line

/-!
# Ill-formed bytes between line feeds

The byte of a line feed never follows a lead byte, so that whatever stands before it
ends there, a character cut short included.  Reading bytes lossily and splitting
them into lines therefore comes to the same as reading them line by line, and an
ill-formed part is replaced within its own line.
-/

namespace Magnetometer.Text.Utf8

/-! ## Where a character cut short ends -/

/-- A byte of one-byte characters ends what stands before it. -/
theorem follow_append_cons {ranges : List (Nat × Nat)} (wide : ∀ range ∈ ranges, 0x80 ≤ range.1)
    {b : UInt8} (small : b.toNat < 0x80) (bits : Nat) (rest behind : Bytes) :
    follow ranges bits (rest ++ b :: behind) =
      ((follow ranges bits rest).1, (follow ranges bits rest).2 ++ b :: behind) := by
  induction ranges generalizing bits rest with
  | nil => rfl
  | cons range ranges ih =>
      obtain ⟨wideFirst, wideRest⟩ := List.forall_mem_cons.mp wide
      cases rest with
      | nil =>
          have outside : ¬(range.1 ≤ b.toNat ∧ b.toNat ≤ range.2) :=
            fun inside => absurd (Nat.le_trans wideFirst inside.1) (Nat.not_le.mpr small)
          exact if_neg outside
      | cons c rest =>
          rw [List.cons_append, follow, follow]
          split
          · exact ih wideRest _ rest
          · rfl

theorem wide_of_lead? {b bits : Nat} {ranges : List (Nat × Nat)}
    (lead : lead? b = some (bits, ranges)) : ∀ range ∈ ranges, 0x80 ≤ range.1 := by
  cases leads_of_lead? lead with
  | one upper => exact nofun
  | two lower upper => simp
  | three lower upper wide narrow first scalar => simp [wide]
  | four lower upper wide narrow first last => simp [wide]

theorem scanOne_append_cons {b : UInt8} (small : b.toNat < 0x80) (first : UInt8)
    (rest behind : Bytes) :
    scanOne first (rest ++ b :: behind) =
      ((scanOne first rest).1, (scanOne first rest).2 ++ b :: behind) := by
  unfold scanOne
  split
  · rfl
  · rename_i bits ranges lead
    rw [follow_append_cons (wide_of_lead? lead) small]

/-- A scan goes over a byte of one-byte characters as if it began there. -/
theorem scan_append_cons {b : UInt8} (small : b.toNat < 0x80) (bytes behind : Bytes) :
    scan (bytes ++ b :: behind) = scan bytes ++ scan (b :: behind) := by
  induction bytes using scan.induct with
  | case1 => rw [List.nil_append, scan, List.nil_append]
  | case2 first rest ih =>
      have whole : scan (first :: rest) =
          (scanOne first rest).1 :: scan (scanOne first rest).2 := by rw [scan]
      rw [List.cons_append, scan, scanOne_append_cons small, whole, List.cons_append]
      exact congrArg (_ :: ·) ih

theorem scan_lineFeed (behind : Bytes) : scan (10 :: behind) = some '\n' :: scan behind :=
  scan_encodeChar '\n' behind

/-- Bytes are read lossily on the two sides of a line feed. -/
theorem decodeLossy_append_lineFeed (bytes behind : Bytes) :
    decodeLossy (bytes ++ 10 :: behind) = decodeLossy bytes ++ '\n' :: decodeLossy behind := by
  rw [decodeLossy, scan_append_cons (by decide), scan_lineFeed, List.map_append, List.map_cons]
  rfl

/-! ## Where a line feed comes from -/

theorem follow_suffix (ranges : List (Nat × Nat)) (bits : Nat) (rest : Bytes) :
    (follow ranges bits rest).2 <:+ rest := by
  induction ranges generalizing bits rest with
  | nil => exact List.suffix_rfl
  | cons range ranges ih =>
      cases rest with
      | nil => exact List.suffix_rfl
      | cons c rest =>
          rw [follow]
          split
          · exact (ih _ rest).trans (List.suffix_cons c rest)
          · exact List.suffix_rfl

theorem scanOne_suffix (b : UInt8) (rest : Bytes) : (scanOne b rest).2 <:+ rest := by
  unfold scanOne
  split
  · exact List.suffix_rfl
  · exact follow_suffix _ _ rest

/-- The bytes of a character that is found are among those that are scanned. -/
theorem encodeChar_subset_of_mem_scan {bytes : Bytes} {c : Char} (found : some c ∈ scan bytes) :
    encodeChar c ⊆ bytes := by
  induction bytes using scan.induct with
  | case1 =>
      rw [scan] at found
      contradiction
  | case2 first rest ih =>
      rw [scan] at found
      rcases List.mem_cons.mp found with here | later
      · rw [← encodeChar_of_scanOne (Prod.ext here.symm rfl)]
        exact List.subset_append_left _ _
      · have left : (scanOne first rest).2 ⊆ first :: rest :=
          List.Subset.trans (scanOne_suffix first rest).subset (List.subset_cons_self _ _)
        exact List.Subset.trans (ih later) left

/-- Without a byte of 10 there is no line feed. -/
theorem lineFeed_not_mem_decodeLossy {bytes : Bytes} (unbroken : (10 : UInt8) ∉ bytes) :
    '\n' ∉ decodeLossy bytes := by
  intro mem
  obtain ⟨part, found, same⟩ := List.mem_map.mp mem
  cases part with
  | none => exact absurd same (by decide)
  | some c =>
      cases same
      exact unbroken (encodeChar_subset_of_mem_scan found (by decide))

/-- The lines of bytes read lossily are the pieces between the line feeds, each read
on its own. -/
theorem lines_decodeLossy (bytes : Bytes) :
    lines (decodeLossy bytes) = (splitAt 10 bytes).map decodeLossy := by
  induction length_eq : bytes.length using Nat.strongRecOn generalizing bytes with
  | ind length ih =>
      by_cases broken : (10 : UInt8) ∈ bytes
      · obtain ⟨piece, behind, rfl, unbroken⟩ := List.eq_append_cons_of_mem broken
        have shorter : behind.length < length := by
          rw [← length_eq, List.length_append, List.length_cons]
          omega
        rw [decodeLossy_append_lineFeed, lines, splitAt_append_cons, ← lines, ← lines,
          ih _ shorter behind rfl, splitAt_append_cons, splitAt_of_not_mem unbroken, lines,
          splitAt_of_not_mem (lineFeed_not_mem_decodeLossy unbroken), List.map_append]
        rfl
      · rw [splitAt_of_not_mem broken, lines,
          splitAt_of_not_mem (lineFeed_not_mem_decodeLossy broken)]
        rfl

/-! ## Well-formed and ill-formed pieces -/

/-- The well-formed bytes are those of texts. -/
theorem decode?_eq_some_iff {bytes : Bytes} {text : List Char} :
    decode? bytes = some text ↔ encode text = bytes :=
  ⟨encode_of_decode?, fun same => same ▸ decode?_encode text⟩

theorem decodeLossy_of_decode? {bytes : Bytes} {text : List Char}
    (read : decode? bytes = some text) : decodeLossy bytes = text := by
  rw [← decode?_eq_some_iff.mp read, decodeLossy_encode]

theorem mapM_id_eq_none_iff {α : Type} {parts : List (Option α)} :
    parts.mapM id = none ↔ none ∈ parts := by
  induction parts with
  | nil => simp
  | cons part rest ih =>
      cases part with
      | none => simp
      | some c => cases read : rest.mapM id <;> simp [read] at ih ⊢ <;> exact ih

/-- In ill-formed bytes something is replaced. -/
theorem replacement_mem_decodeLossy {bytes : Bytes} (illFormed : decode? bytes = none) :
    replacement ∈ decodeLossy bytes :=
  List.mem_map.mpr ⟨none, mapM_id_eq_none_iff.mp illFormed, rfl⟩

end Magnetometer.Text.Utf8
