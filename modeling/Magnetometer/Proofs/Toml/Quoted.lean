import Magnetometer.Toml.Quoted
import Magnetometer.Toml.Writer
import Mathlib.Tactic.SplitIfs

/-!
# Reading back quoted texts

Every text is read back from the form in which it is written.  The forms on one
line have no quote inside that is not escaped.  The forms over several lines have
up to two in a row, and a text may end with them, so that its last quotes stand
right before the closing ones: `Inside` says how the inside of such a form is
made up, and reading follows it from its end.
-/

namespace Magnetometer.Toml

/-! ## Characters -/

/-- The escapes of the first 128 characters. -/
theorem codePoint?_upperHexDigits : ∀ n < 128,
    codePoint? ['0', '0', upperHexDigit (n / 16), upperHexDigit (n % 16)] =
      some (Char.ofNat n) := by
  decide

theorem toNat_lt_of_isControl {c : Char} (control : isControl c = true) : c.toNat < 128 := by
  simp only [isControl, Bool.or_eq_true, Bool.and_eq_true, decide_eq_true_eq, beq_iff_eq] at control
  omega

theorem isPrintable_of_not_isControl {c : Char} (plain : isControl c ≠ true) (unbroken : c ≠ '\n') :
    isPrintable c = true := by
  by_cases tab : c = '\t'
  · rw [tab]
    rfl
  · simp only [isControl, Bool.or_eq_true, Bool.and_eq_true, decide_eq_true_eq, bne_iff_ne,
      beq_iff_eq, not_or, not_and, ne_eq, Decidable.not_not] at plain
    simp only [isPrintable, Bool.or_eq_true, Bool.and_eq_true, decide_eq_true_eq, bne_iff_ne]
    right
    refine ⟨Nat.le_of_not_lt fun low => ?_, plain.2⟩
    exact unbroken (plain.1 ⟨low, tab⟩)

/-- The letters that stand for a character in a basic text. -/
inductive Letters (keepsLines : Bool) (c : Char) : List Char → Prop
  | plain (unquoted : c ≠ '"') (unescaped : c ≠ '\\')
      (shown : isPrintable c = true ∨ keepsLines = true ∧ c = '\n') : Letters keepsLines c [c]
  | escape {letters : List Char} (reads : ∀ rest, takeEscape? (letters ++ rest) = some (c, rest))
      (stays : ∀ rest, endsLine (letters ++ rest) = false) : Letters keepsLines c ('\\' :: letters)

variable {keepsLines : Bool} {c : Char} {letters text rest left : List Char}

theorem letters_quote : Letters keepsLines '"' ['\\', '"'] :=
  .escape (fun _ => rfl) fun _ => rfl

theorem letters_writeEscaped (unquoted : c ≠ '"') :
    Letters keepsLines c (writeEscaped keepsLines c) := by
  unfold writeEscaped
  split_ifs with backslash newline keeps backspace feed carriage tab control
  · subst backslash
    exact .escape (fun _ => rfl) fun _ => rfl
  · subst newline
    exact .plain unquoted backslash (.inr ⟨keeps, rfl⟩)
  · subst newline
    exact .escape (fun _ => rfl) fun _ => rfl
  · subst backspace
    exact .escape (fun _ => rfl) fun _ => rfl
  · subst feed
    exact .escape (fun _ => rfl) fun _ => rfl
  · subst carriage
    exact .escape (fun _ => rfl) fun _ => rfl
  · subst tab
    exact .escape (fun _ => rfl) fun _ => rfl
  · refine .escape (fun rest => ?_) fun _ => rfl
    change (codePoint? ['0', '0', upperHexDigit (c.toNat / 16),
      upperHexDigit (c.toNat % 16)]).map (·, rest) = some (c, rest)
    rw [codePoint?_upperHexDigits _ (toNat_lt_of_isControl control), Char.ofNat_toNat,
      Option.map_some]
  · exact .plain unquoted backslash (.inl (isPrintable_of_not_isControl control newline))

/-! ## Texts on one line -/

/-- A basic text is read on behind a character. -/
theorem takeBasic?_letters (letters_eq : Letters false c letters)
    (taken : takeBasic? rest = some (text, left)) :
    takeBasic? (letters ++ rest) = some (c :: text, left) := by
  cases letters_eq with
  | plain unquoted unescaped shown =>
      have printable : isPrintable c = true := by simpa using shown
      rw [List.singleton_append, takeBasic?.eq_4 _ _ unquoted unescaped, if_pos printable, taken]
      rfl
  | escape reads stays =>
      rw [List.cons_append, takeBasic?.eq_3, reads]
      dsimp only
      rw [taken]
      rfl

theorem takeBasic?_writeBasic (text rest : List Char) (run : Nat) :
    takeBasic? (writeBasic 0 false run text ++ '"' :: rest) = some (text, rest) := by
  induction text generalizing run with
  | nil => rw [writeBasic, List.nil_append, takeBasic?.eq_2]
  | cons c text ih =>
      rw [writeBasic]
      split
      · rename_i quote
        subst quote
        rw [if_neg (Nat.not_lt_zero _)]
        have taken := takeBasic?_letters letters_quote (ih 0)
        rwa [List.cons_append, List.singleton_append] at taken
      · rename_i unquoted
        rw [List.append_assoc]
        exact takeBasic?_letters (letters_writeEscaped unquoted) (ih 0)

theorem takeLiteral?_append (shown : ∀ c ∈ text, isPrintable c = true ∧ c ≠ '\'') :
    takeLiteral? (text ++ '\'' :: rest) = some (text, rest) := by
  induction text with
  | nil => rw [List.nil_append, takeLiteral?.eq_2]
  | cons c text ih =>
      obtain ⟨⟨printable, unquoted⟩, shownText⟩ := List.forall_mem_cons.mp shown
      rw [List.cons_append, takeLiteral?.eq_3 _ _ unquoted, if_pos printable, ih shownText]
      rfl

/-! ## Texts over several lines -/

/-- What is inside a quoted form: letters for the characters, and up to two
quotes in a row that stand for themselves.  The number counts the quotes before. -/
inductive Inside (quote : Char) (letter : Char → List Char → Prop) :
    Nat → List Char → List Char → Prop
  | nil {run : Nat} : Inside quote letter run [] []
  | quote {run : Nat} {written text : List Char} (few : run < 2)
      (inside : Inside quote letter (run + 1) written text) :
      Inside quote letter run (quote :: written) (quote :: text)
  | letter {run : Nat} {c : Char} {letters written text : List Char}
      (stands : letter c letters) (inside : Inside quote letter 0 written text) :
      Inside quote letter run (letters ++ written) (c :: text)

/-- Letters begin with no quote and with no line end that does not stand for itself. -/
def Begins (quote c : Char) (letters : List Char) : Prop :=
  ∃ d more, letters = d :: more ∧ d ≠ quote ∧ d ≠ '\r' ∧ (d = '\n' → c = '\n')

/-- Up to two quotes belong to the text whose closing quotes follow them. -/
theorem takeClosing_of_head {quote : Char} (behind : rest.head? ≠ some quote) :
    takeClosing quote rest = ([], rest) ∧
      takeClosing quote (quote :: rest) = ([quote], rest) ∧
      takeClosing quote (quote :: quote :: rest) = ([quote, quote], rest) := by
  cases rest with
  | nil => simp [takeClosing]
  | cons d rest =>
      have other : d ≠ quote := by simpa using behind
      cases rest <;> simp [takeClosing, other]

/-- A reader of a form over several lines reads its inside back, if it goes on
behind letters and behind quotes that are not closing ones. -/
theorem take_inside {quote : Char} {letter : Char → List Char → Prop}
    {take : List Char → Option (List Char × List Char)}
    (closes : ∀ rest, take (quote :: quote :: quote :: rest) = some (takeClosing quote rest))
    (goesOn : ∀ ⦃rest text left⦄, (∀ more, rest ≠ quote :: quote :: more) →
      take rest = some (text, left) → take (quote :: rest) = some (quote :: text, left))
    (reads : ∀ ⦃c letters rest text left⦄, letter c letters →
      take rest = some (text, left) → take (letters ++ rest) = some (c :: text, left))
    (begins : ∀ ⦃c letters⦄, letter c letters → Begins quote c letters)
    {run : Nat} {written text rest : List Char} (inside : Inside quote letter run written text)
    (behind : rest.head? ≠ some quote) :
    take (written ++ quote :: quote :: quote :: rest) = some (text, rest) := by
  obtain ⟨none, one, two⟩ := takeClosing_of_head behind
  induction inside with
  | nil => rw [List.nil_append, closes, none]
  | letter stands inside ih =>
      rw [List.append_assoc]
      exact reads stands ih
  | quote few inside ih =>
      cases inside with
      | nil => rw [List.cons_append, List.nil_append, closes, one]
      | letter stands inside =>
          obtain ⟨d, more, rfl, other, -⟩ := begins stands
          refine goesOn (fun more same => ?_) ih
          exact other (List.cons.inj same).1
      | quote fewer inside =>
          cases inside with
          | nil => rw [List.cons_append, List.cons_append, List.nil_append, closes, two]
          | letter stands inside =>
              obtain ⟨d, more, rfl, other, -⟩ := begins stands
              refine goesOn (fun more same => ?_) ih
              exact other (List.cons.inj (List.cons.inj same).2).1
          | quote fewest inside => omega

theorem inside_writeBasic (text : List Char) (run : Nat) :
    Inside '"' (Letters true) run (writeBasic 2 true run text) text := by
  induction text generalizing run with
  | nil => exact .nil
  | cons c text ih =>
      rw [writeBasic]
      split
      · rename_i quote
        subst quote
        split
        · rename_i few
          exact .quote few (ih _)
        · exact .letter letters_quote (ih 0)
      · rename_i unquoted
        exact .letter (letters_writeEscaped unquoted) (ih 0)

theorem le_longestRun (quote : Char) (run : Nat) (text : List Char) :
    run ≤ longestRun quote run text := by
  induction text generalizing run with
  | nil => exact Nat.le_refl _
  | cons c text ih =>
      rw [longestRun]
      split
      · exact Nat.le_of_succ_le (ih _)
      · exact Nat.le_max_left _ _

/-- A text with no more than two quotes in a row is its own inside. -/
theorem inside_self {quote : Char} {letter : Char → List Char → Prop} {run : Nat}
    (few : longestRun quote run text ≤ 2) (stands : ∀ c ∈ text, c ≠ quote → letter c [c]) :
    Inside quote letter run text text := by
  induction text generalizing run with
  | nil => exact .nil
  | cons c text ih =>
      obtain ⟨standsHead, standsText⟩ := List.forall_mem_cons.mp stands
      rw [longestRun] at few
      split at few
      · rename_i isQuote
        subst isQuote
        exact .quote (Nat.le_trans (le_longestRun _ _ _) few) (ih few standsText)
      · rename_i unquoted
        have fewer := Nat.le_trans (Nat.le_max_right _ _) few
        exact .letter (standsHead unquoted) (ih fewer standsText)

/-- A carriage return does not stand for itself in any form. -/
theorem ne_carriageReturn_of_shown (shown : (isPrintable c || c == '\n') = true) : c ≠ '\r' := by
  rintro rfl
  exact absurd shown (by decide)

theorem Letters.begins (stands : Letters keepsLines c letters) : Begins '"' c letters := by
  cases stands with
  | plain unquoted _ shown =>
      have printable : (isPrintable c || c == '\n') = true := by
        rcases shown with printable | ⟨-, rfl⟩
        · rw [printable, Bool.true_or]
        · rfl
      exact ⟨_, _, rfl, unquoted, ne_carriageReturn_of_shown printable, id⟩
  | escape _ _ =>
      exact ⟨_, _, rfl, by decide, by decide, fun newline => absurd newline (by decide)⟩

theorem takeBasicLines?_inside {run : Nat} {written : List Char}
    (inside : Inside '"' (Letters true) run written text) (behind : rest.head? ≠ some '"') :
    takeBasicLines? (written ++ '"' :: '"' :: '"' :: rest) = some (text, rest) := by
  refine take_inside takeBasicLines?.eq_2 ?_ ?_ (fun _ _ => Letters.begins) inside behind
  · intro rest text left going taken
    rw [takeBasicLines?.eq_5 _ _ (fun more _ same => going more same) (by decide)
      (fun _ isCarriage => absurd isCarriage (by decide)), taken]
    rfl
  · intro c letters rest text left stands taken
    cases stands with
    | plain unquoted unescaped shown =>
        have printable : (isPrintable c || c == '\n') = true := by simpa using shown
        rw [List.singleton_append, takeBasicLines?.eq_5 _ _ (fun _ same => absurd same unquoted)
          unescaped (fun _ same => absurd same (ne_carriageReturn_of_shown printable)),
          if_pos printable, taken]
        rfl
    | escape reads stays =>
        rw [List.cons_append, takeBasicLines?.eq_3, stays, if_neg Bool.false_ne_true, reads]
        dsimp only
        rw [taken]
        rfl

/-- The letters that stand for a character in a literal text: the character. -/
def Literally (c : Char) (letters : List Char) : Prop :=
  letters = [c] ∧ c ≠ '\'' ∧ (isPrintable c || c == '\n') = true

theorem Literally.begins (stands : Literally c letters) : Begins '\'' c letters := by
  obtain ⟨rfl, unquoted, shown⟩ := stands
  exact ⟨_, _, rfl, unquoted, ne_carriageReturn_of_shown shown, id⟩

theorem takeLiteralLines?_inside {run : Nat} {written : List Char}
    (inside : Inside '\'' Literally run written text) (behind : rest.head? ≠ some '\'') :
    takeLiteralLines? (written ++ '\'' :: '\'' :: '\'' :: rest) = some (text, rest) := by
  refine take_inside takeLiteralLines?.eq_2 ?_ ?_ (fun _ _ => Literally.begins) inside behind
  · intro rest text left going taken
    rw [takeLiteralLines?.eq_4 _ _ (fun more _ same => going more same)
      (fun _ isCarriage => absurd isCarriage (by decide)), taken]
    rfl
  · rintro c letters rest text left ⟨rfl, unquoted, shown⟩ taken
    rw [List.singleton_append, takeLiteralLines?.eq_4 _ _ (fun _ same => absurd same unquoted)
      (fun _ same => absurd same (ne_carriageReturn_of_shown shown)), if_pos shown, taken]
    rfl

/-! ## Quoted texts -/

/-- Of the line end behind the opening quotes and the one that a text begins with,
the first is passed over; where there is none, nothing is. -/
theorem skipFirstNewline_inside {quote : Char} {letter : Char → List Char → Prop}
    {written : List Char} (begins : ∀ ⦃c letters⦄, letter c letters → Begins quote c letters)
    (shown : (isPrintable quote || quote == '\n') = true) (unbroken : quote ≠ '\n')
    (inside : Inside quote letter 0 written text) :
    skipFirstNewline ((if text.contains '\n' then ['\n'] else []) ++ written ++ quote :: rest) =
      written ++ quote :: rest := by
  split
  · rfl
  · rename_i absent
    have unreturned := ne_carriageReturn_of_shown shown
    have kept : ∀ d more, d ≠ '\n' → d ≠ '\r' → skipFirstNewline (d :: more) = d :: more := by
      intro d more other another
      rw [skipFirstNewline, takeNewline?.eq_3 _ (fun _ same => other (List.cons.inj same).1)
        (fun _ same => another (List.cons.inj same).1)]
      rfl
    cases inside with
    | nil => exact kept _ _ unbroken unreturned
    | quote _ _ => exact kept _ _ unbroken unreturned
    | letter stands _ =>
        obtain ⟨d, more, rfl, -, another, same⟩ := begins stands
        refine kept _ _ (fun newline => absent ?_) another
        rw [same newline]
        simp

theorem not_mem_of_longestRun {quote : Char} (never : longestRun quote 0 text = 0) :
    quote ∉ text := by
  intro mem
  induction text with
  | nil => cases mem
  | cons c text ih =>
      rw [longestRun] at never
      split at never
      · exact absurd never (Nat.ne_of_gt (le_longestRun _ _ _))
      · rename_i other
        rcases List.mem_cons.mp mem with same | later
        · exact other same.symm
        · exact ih (by omega) later

/-- The literal form on one line is chosen only for a text that it can hold. -/
theorem quoteStyle_literal (chosen : quoteStyle text = .literal) :
    ∀ c ∈ text, isPrintable c = true ∧ c ≠ '\'' := by
  simp only [quoteStyle] at chosen
  split_ifs at chosen with control _ _ unquoted
  simp only [Bool.and_eq_true, decide_eq_true_eq, Bool.not_eq_true', List.any_eq_true, not_exists,
    not_and] at control unquoted
  intro c mem
  have unbroken : c ≠ '\n' := by
    rintro rfl
    simp [mem] at unquoted
  refine ⟨isPrintable_of_not_isControl (control c mem) unbroken, ?_⟩
  rintro rfl
  exact not_mem_of_longestRun unquoted.1 mem

/-- The literal form over several lines is chosen only for a text that it can hold. -/
theorem quoteStyle_literalLines (chosen : quoteStyle text = .literalLines) :
    Inside '\'' Literally 0 text text := by
  simp only [quoteStyle] at chosen
  split_ifs at chosen with control _ _ _ _ few
  simp only [List.any_eq_true, not_exists, not_and] at control
  refine inside_self few fun c mem unquoted => ⟨rfl, unquoted, ?_⟩
  by_cases newline : c = '\n'
  · rw [newline]
    rfl
  · rw [isPrintable_of_not_isControl (control c mem) newline, Bool.true_or]

theorem takeQuoted?_basic (single : ∀ more, rest ≠ '"' :: '"' :: more) :
    takeQuoted? ('"' :: rest) = takeBasic? rest :=
  takeQuoted?.eq_3 _ (fun more same => single more (List.cons.inj same).2)
    fun _ same => absurd (List.cons.inj same).1 (by decide)

theorem takeQuoted?_literal (single : ∀ more, rest ≠ '\'' :: '\'' :: more) :
    takeQuoted? ('\'' :: rest) = takeLiteral? rest :=
  takeQuoted?.eq_3 _ (fun _ same => absurd (List.cons.inj same).1 (by decide))
    fun more same => single more (List.cons.inj same).2

/-- A written basic text on one line does not begin with two quotes. -/
theorem writeBasic_ne_quotes (text more : List Char) :
    writeBasic 0 false 0 text ++ '"' :: '\n' :: rest ≠ '"' :: '"' :: more := by
  cases text with
  | nil => exact fun same => absurd (List.cons.inj (List.cons.inj same).2).1 (by decide)
  | cons c text =>
      rw [writeBasic]
      split
      · exact fun same => absurd (List.cons.inj same).1 (by decide)
      · rename_i unquoted
        obtain ⟨d, others, letters_eq, other, -⟩ :=
          (@letters_writeEscaped false _ unquoted).begins
        rw [letters_eq]
        exact fun same => other (List.cons.inj same).1

/-- What is written for a text on a line is read back as the text. -/
theorem takeQuoted?_writeText (text rest : List Char) :
    takeQuoted? (writeText text ++ '\n' :: rest) = some (text, '\n' :: rest) := by
  unfold writeText
  dsimp only
  cases chosen : quoteStyle text with
  | basic =>
      dsimp only
      rw [List.cons_append, List.cons_append, List.append_assoc, List.singleton_append,
        takeQuoted?_basic (writeBasic_ne_quotes text), takeBasic?_writeBasic]
  | literal =>
      have held := quoteStyle_literal chosen
      have single : ∀ more, text ++ '\'' :: '\n' :: rest ≠ '\'' :: '\'' :: more := by
        intro more same
        cases text with
        | nil => exact absurd (List.cons.inj (List.cons.inj same).2).1 (by decide)
        | cons c text => exact (held c List.mem_cons_self).2 (List.cons.inj same).1
      dsimp only
      rw [List.cons_append, List.cons_append, List.append_assoc, List.singleton_append,
        takeQuoted?_literal single, takeLiteral?_append held]
  | basicLines =>
      have inside := inside_writeBasic text 0
      simp only [List.append_assoc]
      change takeQuoted? ('"' :: '"' :: '"' :: (_ ++ (_ ++ '"' :: '"' :: '"' :: '\n' :: rest))) = _
      rw [takeQuoted?.eq_1, ← List.append_assoc,
        skipFirstNewline_inside (fun _ _ => Letters.begins) (by decide) (by decide) inside]
      exact takeBasicLines?_inside inside fun same => absurd (Option.some.inj same) (by decide)
  | literalLines =>
      have inside := quoteStyle_literalLines chosen
      simp only [List.append_assoc]
      change takeQuoted? ('\'' :: '\'' :: '\'' ::
        (_ ++ (_ ++ '\'' :: '\'' :: '\'' :: '\n' :: rest))) = _
      rw [takeQuoted?.eq_2, ← List.append_assoc,
        skipFirstNewline_inside (fun _ _ => Literally.begins) (by decide) (by decide) inside]
      exact takeLiteralLines?_inside inside fun same => absurd (Option.some.inj same) (by decide)

end Magnetometer.Toml
