import Magnetometer.Toml.Basic

/-!
# Reading quoted texts

The four kinds of quoted text: basic and literal, on one line and over several.
A basic text has escapes.  A text over several lines drops a line end right
after its opening quotes, may hold one or two quotes in a row, also before its
closing quotes, and reads every line end as a line feed.
-/

namespace Magnetometer.Toml

/-- Value of a hexadecimal digit. -/
def hexValue? (c : Char) : Option Nat :=
  if '0' ≤ c ∧ c ≤ '9' then some (c.toNat - '0'.toNat)
  else if 'a' ≤ c ∧ c ≤ 'f' then some (c.toNat - 'a'.toNat + 10)
  else if 'A' ≤ c ∧ c ≤ 'F' then some (c.toNat - 'A'.toNat + 10)
  else none

/-- The number that digits of a base continue from a number already read. -/
def readBase (digit? : Char → Option Nat) (base : Nat) : Nat → List Char → Option Nat
  | n, [] => some n
  | n, c :: rest => do
      let digit ← digit? c
      readBase digit? base (n * base + digit) rest

/-- The character of a hexadecimal code point; surrogates have none. -/
def codePoint? (digits : List Char) : Option Char := do
  let n ← readBase hexValue? 16 0 digits
  if n < 0xD800 ∨ (0xDFFF < n ∧ n < 0x110000) then some (Char.ofNat n) else none

/-- The character of an escape of one letter. -/
def escaped? : Char → Option Char
  | 'b' => some '\x08'
  | 't' => some '\t'
  | 'n' => some '\n'
  | 'f' => some '\x0c'
  | 'r' => some '\r'
  | '"' => some '"'
  | '\\' => some '\\'
  | _ => none

/-- The character of the escape behind a backslash, and the text after it. -/
def takeEscape? : List Char → Option (Char × List Char)
  | 'u' :: a :: b :: c :: d :: rest => (codePoint? [a, b, c, d]).map (·, rest)
  | 'U' :: a :: b :: c :: d :: e :: f :: g :: h :: rest =>
      (codePoint? [a, b, c, d, e, f, g, h]).map (·, rest)
  | c :: rest => (escaped? c).map (·, rest)
  | [] => none

theorem length_takeEscape? {text rest : List Char} {c : Char}
    (h : takeEscape? text = some (c, rest)) : rest.length < text.length := by
  unfold takeEscape? at h
  split at h <;> simp only [Option.map_eq_some_iff, Prod.mk.injEq, reduceCtorEq] at h
  all_goals
    obtain ⟨_, _, _, rfl⟩ := h
    simp only [List.length_cons]
    omega

/-- A basic text from behind its opening quote. -/
def takeBasic? : List Char → Option (List Char × List Char)
  | [] => none
  | '"' :: rest => some ([], rest)
  | '\\' :: rest =>
      match _hescape : takeEscape? rest with
      | none => none
      | some (c, rest') => (takeBasic? rest').map fun (text, rest) => (c :: text, rest)
  | c :: rest =>
      if isPrintable c then
        (takeBasic? rest).map fun (text, rest) => (c :: text, rest)
      else
        none
termination_by text => text.length
decreasing_by
  · have := length_takeEscape? _hescape
    simp only [List.length_cons]
    omega
  · simp

/-- A literal text from behind its opening quote. -/
def takeLiteral? : List Char → Option (List Char × List Char)
  | [] => none
  | '\'' :: rest => some ([], rest)
  | c :: rest =>
      if isPrintable c then
        (takeLiteral? rest).map fun (text, rest) => (c :: text, rest)
      else
        none

/-- The quotes that stand before three closing quotes: at most two. -/
def takeClosing (quote : Char) : List Char → List Char × List Char
  | a :: b :: rest =>
      if a = quote ∧ b = quote then ([a, b], rest)
      else if a = quote then ([a], b :: rest)
      else ([], a :: b :: rest)
  | [a] => if a = quote then ([a], []) else ([], [a])
  | [] => ([], [])

/-- Whether the text behind a backslash ends the line after nothing but space. -/
def endsLine (text : List Char) : Bool := (takeNewline? (skipSpace text)).isSome

/-- Text without the space and the line ends at its start. -/
def skipLines : List Char → List Char
  | '\r' :: '\n' :: rest => skipLines rest
  | c :: rest => if isSpace c || c == '\n' then skipLines rest else c :: rest
  | [] => []

theorem length_skipLines (text : List Char) : (skipLines text).length ≤ text.length := by
  fun_induction skipLines text with
  | case1 rest ih => simp only [List.length_cons]; omega
  | case2 c rest _ _ ih => simp only [List.length_cons]; omega
  | case3 c rest _ _ => exact Nat.le_refl _
  | case4 => exact Nat.le_refl _

/-- A basic text over several lines, from behind its opening quotes. -/
def takeBasicLines? : List Char → Option (List Char × List Char)
  | [] => none
  | '"' :: '"' :: '"' :: rest => some (takeClosing '"' rest)
  | '\\' :: rest =>
      if endsLine rest then
        takeBasicLines? (skipLines rest)
      else
        match _hescape : takeEscape? rest with
        | none => none
        | some (c, rest') => (takeBasicLines? rest').map fun (text, rest) => (c :: text, rest)
  | '\r' :: '\n' :: rest => (takeBasicLines? rest).map fun (text, rest) => ('\n' :: text, rest)
  | c :: rest =>
      if isPrintable c || c == '\n' then
        (takeBasicLines? rest).map fun (text, rest) => (c :: text, rest)
      else
        none
termination_by text => text.length
decreasing_by
  · have := length_skipLines rest
    simp only [List.length_cons]
    omega
  · have := length_takeEscape? _hescape
    simp only [List.length_cons]
    omega
  · simp only [List.length_cons]
    omega
  · simp

/-- A literal text over several lines, from behind its opening quotes. -/
def takeLiteralLines? : List Char → Option (List Char × List Char)
  | [] => none
  | '\'' :: '\'' :: '\'' :: rest => some (takeClosing '\'' rest)
  | '\r' :: '\n' :: rest => (takeLiteralLines? rest).map fun (text, rest) => ('\n' :: text, rest)
  | c :: rest =>
      if isPrintable c || c == '\n' then
        (takeLiteralLines? rest).map fun (text, rest) => (c :: text, rest)
      else
        none

/-- Text without the line end that may follow opening quotes. -/
def skipFirstNewline (text : List Char) : List Char := (takeNewline? text).getD text

/-- A text on one line from the front of a text. -/
def takeLineText? : List Char → Option (List Char × List Char)
  | '"' :: rest => takeBasic? rest
  | '\'' :: rest => takeLiteral? rest
  | _ => none

/-- A quoted text of any kind from the front of a text. -/
def takeQuoted? : List Char → Option (List Char × List Char)
  | '"' :: '"' :: '"' :: rest => takeBasicLines? (skipFirstNewline rest)
  | '\'' :: '\'' :: '\'' :: rest => takeLiteralLines? (skipFirstNewline rest)
  | text => takeLineText? text

end Magnetometer.Toml
