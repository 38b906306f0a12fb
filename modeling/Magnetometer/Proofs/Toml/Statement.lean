import Magnetometer.Proofs.Toml.Quoted
import Magnetometer.Proofs.Toml.Scalar
import Magnetometer.Toml.Statement

/-!
# Reading back lines

A written section is read line by line: its header opens a table, and each pair
assigns what its written value is read back as.  `Reads` says what the lines of a
text are read as, and a line in front of a text adds its statement.
-/

namespace Magnetometer.Toml

open Number

/-! ## Keys -/

/-- A key that needs no quotes. -/
def Bare (key : List Char) : Prop := key ≠ [] ∧ ∀ c ∈ key, isBareChar c = true

instance (key : List Char) : Decidable (Bare key) :=
  decidable_of_iff (key ≠ [] ∧ key.all isBareChar = true) (and_congr_right' List.all_eq_true)

variable {key name written text rest : List Char} {value : Value} {statements : List Statement}

/-- A bare key begins with none of the characters that mark something else. -/
theorem Bare.cons_ne (bare : Bare key) {d : Char} (strange : isBareChar d = false)
    (behind more : List Char) : key ++ behind ≠ d :: more := by
  obtain ⟨c, others, rfl⟩ := List.exists_cons_of_ne_nil bare.1
  intro same
  have plain := bare.2 c List.mem_cons_self
  rw [(List.cons.inj same).1, strange] at plain
  contradiction

theorem Bare.skipSpace_eq (bare : Bare key) (behind : List Char) :
    skipSpace (key ++ behind) = key ++ behind := by
  obtain ⟨c, others, rfl⟩ := List.exists_cons_of_ne_nil bare.1
  have plain := bare.2 c List.mem_cons_self
  have stays : ¬isSpace c = true := by
    intro space
    simp only [isSpace, Bool.or_eq_true, beq_iff_eq] at space
    rcases space with rfl | rfl
    · exact absurd plain (by decide)
    · exact absurd plain (by decide)
  rw [List.cons_append, skipSpace, List.dropWhile_cons_of_neg stays]

theorem takeSimpleKey?_bare (bare : Bare key) {d : Char} (strange : isBareChar d = false)
    (behind : List Char) : takeSimpleKey? (key ++ d :: behind) = some (key, d :: behind) := by
  have stops : ¬isBareChar d = true := by
    rw [strange]
    exact Bool.false_ne_true
  rw [takeSimpleKey?.eq_3 _ (fun _ => bare.cons_ne rfl _ _) (fun _ => bare.cons_ne rfl _ _),
    List.takeWhile_append_of_pos bare.2, List.dropWhile_append_of_pos bare.2,
    List.takeWhile_cons_of_neg stops, List.dropWhile_cons_of_neg stops, List.append_nil]
  obtain ⟨c, others, rfl⟩ := List.exists_cons_of_ne_nil bare.1
  rfl

/-- A bare key is a whole path unless a dot follows. -/
theorem takePath?_bare (bare : Bare key) {d : Char} (strange : isBareChar d = false)
    {behind : List Char} (last : (skipSpace (d :: behind)).head? ≠ some '.') :
    takePath? (key ++ d :: behind) = some ([key], skipSpace (d :: behind)) := by
  change takeKeys? (78 + 1) _ = _
  rw [takeKeys?.eq_2, bare.skipSpace_eq, takeSimpleKey?_bare bare strange, Option.bind_eq_bind,
    Option.bind_some]
  dsimp only
  split
  · rename_i dot
    rw [dot] at last
    exact absurd rfl last
  · rfl

/-! ## Values -/

/-- What is written on a line is read back as a value. -/
structure ReadsBack (written : List Char) (value : Value) : Prop where
  /-- No space stands before it. -/
  begins : ∀ rest, skipSpace (written ++ rest) = written ++ rest
  reads : ∀ fuel level rest,
    takeValue? (fuel + 1) level (written ++ '\n' :: rest) = some (value, '\n' :: rest)

theorem exists_writeText (text : List Char) :
    ∃ quote more, writeText text = quote :: more ∧ (quote = '"' ∨ quote = '\'') := by
  unfold writeText
  dsimp only
  split
  · exact ⟨_, _, rfl, .inl rfl⟩
  · exact ⟨_, _, rfl, .inr rfl⟩
  · exact ⟨_, _, rfl, .inl rfl⟩
  · exact ⟨_, _, rfl, .inr rfl⟩

theorem readsBack_writeText (text : List Char) : ReadsBack (writeText text) (.string text) := by
  obtain ⟨quote, more, written, isQuote⟩ := exists_writeText text
  constructor
  case begins =>
    intro rest
    rw [written]
    rcases isQuote with rfl | rfl
    · rfl
    · rfl
  case reads =>
    intro fuel level rest
    have taken := takeQuoted?_writeText text rest
    rw [written] at taken ⊢
    rcases isQuote with rfl | rfl
    · rw [List.cons_append] at taken ⊢
      rw [takeValue?.eq_4, taken]
      rfl
    · rw [List.cons_append] at taken ⊢
      rw [takeValue?.eq_5, taken]
      rfl

theorem bare_digits (n : Nat) : Bare (Decimal.digits n) := by
  refine ⟨Decimal.digits_ne_nil n, fun c mem => ?_⟩
  simp [isBareChar, Char.isAlphanum, Decimal.isDigit_of_mem_digits mem]

theorem readsBack_render {n : Nat} (small : (n : Int) ≤ maxInteger) :
    ReadsBack (Decimal.render n) (.integer n) := by
  have bare := bare_digits n
  rw [Decimal.render, if_neg (by omega), Int.natAbs_natCast]
  constructor
  case begins => exact bare.skipSpace_eq
  case reads =>
    intro fuel level rest
    rw [takeValue?.eq_6 _ _ _ (fun _ => bare.cons_ne rfl _ _) (fun _ => bare.cons_ne rfl _ _)
      (fun _ => bare.cons_ne rfl _ _) (fun _ => bare.cons_ne rfl _ _)]
    exact takeScalar?_digits small rest

/-! ## Lines -/

theorem takeHeader?_bare (bare : Bare name) (rest : List Char) :
    takeHeader? (name ++ ']' :: '\n' :: rest) = some (.table [name], rest) := by
  have path : takePath? (name ++ ']' :: '\n' :: rest) = some ([name], ']' :: '\n' :: rest) :=
    takePath?_bare bare rfl (fun dot => absurd (Option.some.inj dot) (by decide))
  rw [takeHeader?.eq_2 _ (fun _ => bare.cons_ne rfl _ _), path]
  rfl

theorem takeAssign?_bare (bare : Bare key) (readsBack : ReadsBack written value)
    (rest : List Char) :
    takeAssign? (key ++ ' ' :: '=' :: ' ' :: (written ++ '\n' :: rest)) =
      some (.assign [key] value, rest) := by
  have path : takePath? (key ++ ' ' :: '=' :: ' ' :: (written ++ '\n' :: rest)) =
      some ([key], '=' :: ' ' :: (written ++ '\n' :: rest)) :=
    takePath?_bare bare rfl (fun dot => absurd (Option.some.inj dot) (by decide))
  have begins : skipSpace (' ' :: (written ++ '\n' :: rest)) = written ++ '\n' :: rest :=
    readsBack.begins _
  unfold takeAssign?
  rw [path]
  change (takeValue? _ 0 (skipSpace (' ' :: (written ++ '\n' :: rest)))).bind _ = _
  rw [begins, readsBack.reads]
  rfl

/-- The statements of a text, whatever the bound on its lines beyond its length. -/
def Reads (text : List Char) (statements : List Statement) : Prop :=
  ∀ count, text.length < count → statementsWithin? count text = some statements

theorem reads_nil : Reads [] [] := by
  intro count enough
  obtain ⟨count, rfl⟩ := Nat.exists_eq_succ_of_ne_zero (Nat.ne_of_gt enough)
  rfl

/-- An empty line in front of a text. -/
theorem Reads.newline (reads : Reads text statements) : Reads ('\n' :: text) statements := by
  intro count enough
  obtain ⟨count, rfl⟩ := Nat.exists_eq_succ_of_ne_zero (Nat.ne_of_gt (Nat.zero_lt_of_lt enough))
  exact reads count (Nat.lt_of_succ_lt_succ enough)

/-- A header in front of a text. -/
theorem Reads.header (bare : Bare name) (reads : Reads text statements) :
    Reads ('[' :: name ++ "]\n".toList ++ text) (.table [name] :: statements) := by
  intro count enough
  obtain ⟨count, rfl⟩ := Nat.exists_eq_succ_of_ne_zero (Nat.ne_of_gt (Nat.zero_lt_of_lt enough))
  have below : text.length < count := by
    simp only [List.length_append, List.length_cons] at enough
    omega
  have line : takeHeader? (name ++ "]\n".toList ++ text) = some (.table [name], text) := by
    rw [List.append_assoc]
    exact takeHeader?_bare bare text
  change (takeHeader? (name ++ "]\n".toList ++ text)).bind _ = _
  rw [line]
  change (statementsWithin? count text).map _ = _
  rw [reads count below]
  rfl

/-- A pair in front of a text. -/
theorem Reads.pair {key : String} (bare : Bare key.toList) (readsBack : ReadsBack written value)
    (reads : Reads text statements) :
    Reads (writePair (key, written) ++ text) (.assign [key.toList] value :: statements) := by
  intro count enough
  obtain ⟨count, rfl⟩ := Nat.exists_eq_succ_of_ne_zero (Nat.ne_of_gt (Nat.zero_lt_of_lt enough))
  have line_eq : writePair (key, written) ++ text =
      key.toList ++ ' ' :: '=' :: ' ' :: (written ++ '\n' :: text) := by
    simp [writePair]
  have below : text.length < count := by
    rw [line_eq] at enough
    simp only [List.length_append, List.length_cons] at enough
    omega
  rw [line_eq, statementsWithin?.eq_2, bare.skipSpace_eq]
  split
  case h_1 same => exact absurd same (by simp)
  case h_2 same => exact absurd same (bare.cons_ne rfl _ _)
  case h_3 same => exact absurd same (bare.cons_ne rfl _ _)
  case h_4 same => exact absurd same (bare.cons_ne rfl _ _)
  case h_5 same => exact absurd same (bare.cons_ne rfl _ _)
  case h_6 =>
    rw [takeAssign?_bare bare readsBack]
    change (statementsWithin? count text).map _ = _
    rw [reads count below]
    rfl

end Magnetometer.Toml
