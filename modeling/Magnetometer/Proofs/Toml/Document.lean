import Magnetometer.Proofs.Toml.Statement
import Mathlib.Data.List.Nodup

/-!
# Reading back documents

A document of written sections is read back as the table of these sections: their
names are apart, and so are the keys in each of them, so that every header opens a
table of its own and every pair adds to the last one.
-/

namespace Magnetometer.Toml

/-- A pair that is written: its key, its written value, and the value. -/
structure Pair where
  key : String
  written : List Char
  value : Value

namespace Pair

/-- Its line. -/
def text (pair : Pair) : List Char := writePair (pair.key, pair.written)

/-- What its line is read as. -/
def statement (pair : Pair) : Statement := .assign [pair.key.toList] pair.value

/-- What it adds to the table that is being built. -/
def node (pair : Pair) : Key × Node := (pair.key.toList, .value pair.value)

/-- What it adds to the table in the end. -/
def entry (pair : Pair) : Key × Value := (pair.key.toList, pair.value)

/-- The key needs no quotes, and the written value is read back. -/
structure Sound (pair : Pair) : Prop where
  bare : Bare pair.key.toList
  readsBack : ReadsBack pair.written pair.value

end Pair

/-- A section that is written. -/
structure Section where
  name : String
  pairs : List Pair

namespace Section

/-- Its lines. -/
def text (s : Section) : List Char :=
  writeSection s.name (s.pairs.map fun pair => (pair.key, pair.written))

/-- What its lines are read as. -/
def statements (s : Section) : List Statement :=
  .table [s.name.toList] :: s.pairs.map Pair.statement

/-- What it adds to the document that is being built. -/
def node (s : Section) : Key × Node := (s.name.toList, .table .header (s.pairs.map Pair.node))

/-- What it adds to the document in the end. -/
def entry (s : Section) : Key × Value := (s.name.toList, .table (s.pairs.map Pair.entry))

/-- The name needs no quotes, and the keys are apart. -/
structure Sound (s : Section) : Prop where
  bare : Bare s.name.toList
  pairs : ∀ pair ∈ s.pairs, pair.Sound
  apart : (s.pairs.map Pair.key).Nodup

end Section

/-! ## Lines -/

variable {text : List Char} {statements : List Statement}

theorem Reads.pairs {pairs : List Pair} (sound : ∀ pair ∈ pairs, pair.Sound)
    (reads : Reads text statements) :
    Reads (pairs.flatMap Pair.text ++ text) (pairs.map Pair.statement ++ statements) := by
  induction pairs with
  | nil => exact reads
  | cons pair pairs ih =>
      obtain ⟨soundPair, soundPairs⟩ := List.forall_mem_cons.mp sound
      rw [List.flatMap_cons, List.append_assoc]
      exact (ih soundPairs).pair soundPair.bare soundPair.readsBack

theorem Reads.section {s : Section} (sound : s.Sound) (reads : Reads text statements) :
    Reads (s.text ++ text) (s.statements ++ statements) := by
  have lines := (reads.pairs sound.pairs).header sound.bare
  rw [← List.append_assoc] at lines
  rw [Section.text, writeSection, List.flatMap_map]
  exact lines

theorem reads_writeSections {sections : List Section} (sound : ∀ s ∈ sections, s.Sound) :
    Reads (writeSections (sections.map Section.text)) (sections.flatMap Section.statements) := by
  induction sections with
  | nil => exact reads_nil
  | cons s sections ih =>
      obtain ⟨soundHead, soundTail⟩ := List.forall_mem_cons.mp sound
      cases sections with
      | nil =>
          have lines := reads_nil.section soundHead
          rw [List.append_nil, List.append_nil] at lines
          rw [List.map_singleton, writeSections, List.intercalate_singleton, List.flatMap_singleton]
          exact lines
      | cons next sections =>
          have lines := (ih soundTail).newline.section soundHead
          rw [List.map_cons, List.map_cons, writeSections, List.intercalate_cons_cons,
            List.append_assoc, List.flatMap_cons]
          exact lines

/-! ## Tables -/

/-- A header opens a table that is not there yet. -/
theorem openTable?_of_absent {document : Document} {name : Key}
    (absent : document.entries.find? name = none) :
    document.openTable? [name] =
      some ⟨document.entries ++ [(name, .table .header [])], [name]⟩ := by
  unfold Document.openTable? Document.openAt?
  change ((Entries.openTable? name document.entries).bind _) = _
  rw [Entries.openTable?, absent]
  rfl

theorem replace_last {front : Entries} {name : Key} (absent : front.find? name = none)
    (old new : Node) :
    Entries.replace (front ++ [(name, old)]) name new = front ++ [(name, new)] := by
  have elsewhere : ∀ entry ∈ front, (if entry.1 = name then (name, new) else entry) = entry := by
    intro entry mem
    have other := List.lookup_eq_none_iff.mp absent entry mem
    rw [if_neg fun same => bne_iff_ne.mp other same.symm]
  rw [Entries.replace, List.map_append, List.map_congr_left elsewhere, List.map_id',
    List.map_singleton, if_pos rfl]

theorem find?_last {front : Entries} {name : Key} (absent : front.find? name = none) (node : Node) :
    Entries.find? (front ++ [(name, node)]) name = some node := by
  unfold Entries.find? at *
  rw [List.lookup_append, absent]
  simp

/-- A pair adds to the table of the last header. -/
theorem assign?_of_absent {front inner : Entries} {name key : Key} {value : Value}
    (absent : front.find? name = none) (absentKey : inner.find? key = none) :
    Document.assign? ⟨front ++ [(name, .table .header inner)], [name]⟩ [key] value =
      some ⟨front ++ [(name, .table .header (inner ++ [(key, .value value)]))], [name]⟩ := by
  have added : inner.add? key (.value value) = some (inner ++ [(key, .value value)]) := by
    rw [Entries.add?, absentKey]
    rfl
  have filled : Entries.update? (Entries.assign? value [key] true) [name]
      (front ++ [(name, .table .header inner)]) =
        some (front ++ [(name, .table .header (inner ++ [(key, .value value)]))]) := by
    rw [Entries.update?, find?_last absent]
    change (Option.map _ (Entries.add? inner key (.value value))) = _
    rw [added, Option.map_some, replace_last absent]
  rw [Document.assign?, filled]
  rfl

/-- Names that are free stay so when another name is taken. -/
theorem find?_append_of_not_mem {entries : Entries} {name : String} {names : List String}
    (node : Node) (free : ∀ other ∈ names, entries.find? other.toList = none)
    (apart : name ∉ names) :
    ∀ other ∈ names, Entries.find? (entries ++ [(name.toList, node)]) other.toList = none := by
  intro other mem
  have absent := free other mem
  have unequal : (other.toList == name.toList) = false := by
    rw [beq_eq_false_iff_ne]
    intro same
    rw [← String.toList_injective same] at apart
    exact apart mem
  unfold Entries.find? at *
  rw [List.lookup_append, absent, List.lookup_cons, unequal]
  rfl

/-- The pairs of a section add to its table one by one. -/
theorem foldlM_pairs {front inner : Entries} {name : Key} {pairs : List Pair}
    (absent : front.find? name = none)
    (free : ∀ key ∈ pairs.map Pair.key, inner.find? key.toList = none)
    (apart : (pairs.map Pair.key).Nodup) :
    (pairs.map Pair.statement).foldlM Document.apply?
        ⟨front ++ [(name, .table .header inner)], [name]⟩ =
      some ⟨front ++ [(name, .table .header (inner ++ pairs.map Pair.node))], [name]⟩ := by
  induction pairs generalizing inner with
  | nil => rw [List.map_nil, List.map_nil, List.append_nil]; rfl
  | cons pair pairs ih =>
      rw [List.map_cons, List.forall_mem_cons] at free
      rw [List.map_cons, List.nodup_cons] at apart
      have rest := ih (find?_append_of_not_mem (.value pair.value) free.2 apart.1) apart.2
      rw [List.append_assoc, List.singleton_append] at rest
      rw [List.map_cons, List.foldlM_cons]
      change (Document.assign? _ _ _).bind _ = _
      rw [assign?_of_absent absent free.1]
      exact rest

/-- A section adds its table to the document. -/
theorem foldlM_section {front : Entries} {s : Section} (current : List Key)
    (absent : front.find? s.name.toList = none) (apart : (s.pairs.map Pair.key).Nodup) :
    s.statements.foldlM Document.apply? ⟨front, current⟩ =
      some ⟨front ++ [s.node], [s.name.toList]⟩ := by
  rw [Section.statements, List.foldlM_cons]
  change (Document.openTable? _ _).bind _ = _
  rw [openTable?_of_absent absent]
  exact foldlM_pairs absent (fun _ _ => rfl) apart

/-- The sections add to the document one by one. -/
theorem foldlM_sections (front : Entries) (current : List Key) {sections : List Section}
    (sound : ∀ s ∈ sections, s.Sound)
    (free : ∀ name ∈ sections.map Section.name, front.find? name.toList = none)
    (apart : (sections.map Section.name).Nodup) :
    ∃ last, (sections.flatMap Section.statements).foldlM Document.apply? ⟨front, current⟩ =
      some ⟨front ++ sections.map Section.node, last⟩ := by
  induction sections generalizing front current with
  | nil => exact ⟨current, by rw [List.map_nil, List.append_nil]; rfl⟩
  | cons s sections ih =>
      obtain ⟨soundHead, soundTail⟩ := List.forall_mem_cons.mp sound
      rw [List.map_cons, List.forall_mem_cons] at free
      rw [List.map_cons, List.nodup_cons] at apart
      have freeNext : ∀ name ∈ sections.map Section.name,
          Entries.find? (front ++ [s.node]) name.toList = none :=
        find?_append_of_not_mem _ free.2 apart.1
      obtain ⟨last, rest⟩ := ih _ [s.name.toList] soundTail freeNext apart.2
      refine ⟨last, ?_⟩
      rw [List.flatMap_cons, List.foldlM_append, foldlM_section current free.1 soundHead.apart]
      change (sections.flatMap Section.statements).foldlM Document.apply? _ = _
      rw [rest, List.append_assoc]
      rfl

theorem tableOfEntries_eq (entries : Entries) :
    tableOfEntries entries = entries.map fun entry => (entry.1, entry.2.toValue) := by
  induction entries with
  | nil => rfl
  | cons entry entries ih => rw [tableOfEntries, ih, List.map_cons]

theorem toValue_node (s : Section) : (s.node.1, s.node.2.toValue) = s.entry := by
  rw [Section.node, Section.entry, Node.toValue, tableOfEntries_eq, List.map_map]
  rfl

/-- A document of written sections is read back as the table of these sections. -/
theorem parse?_writeSections {sections : List Section} (sound : ∀ s ∈ sections, s.Sound)
    (apart : (sections.map Section.name).Nodup) :
    parse? (writeSections (sections.map Section.text)) = some (sections.map Section.entry) := by
  have unmarked : skipMark (writeSections (sections.map Section.text)) =
      writeSections (sections.map Section.text) := by
    cases sections with
    | nil => rfl
    | cons s sections => cases sections <;> rfl
  obtain ⟨last, folded⟩ := foldlM_sections [] [] sound (fun _ _ => rfl) apart
  have lines : statements? (writeSections (sections.map Section.text)) =
      some (sections.flatMap Section.statements) := by
    rw [statements?, unmarked]
    exact reads_writeSections sound _ (Nat.lt_succ_self _)
  rw [parse?, lines]
  change ((sections.flatMap Section.statements).foldlM Document.apply? .empty).bind _ = _
  rw [Document.empty, folded]
  change some (tableOfEntries ([] ++ sections.map Section.node)) = _
  rw [List.nil_append, tableOfEntries_eq, List.map_map]
  exact congrArg some (List.map_congr_left fun s _ => toValue_node s)

end Magnetometer.Toml
