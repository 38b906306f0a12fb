/-!
# UTF-8

Characters as bytes and bytes as characters.  A scan reads bytes from the left:
each step takes either one well-formed character or one ill-formed part, which
is as long as a character could have started that way.  The strict reading
fails at an ill-formed part; the lossy reading puts the replacement character
in its place.
-/

namespace Magnetometer

/-- A sequence of bytes, such as the content of a file. -/
abbrev Bytes := List UInt8

namespace Text.Utf8

/-- The bytes of one character. -/
def encodeChar (c : Char) : Bytes :=
  let n := c.toNat
  if n < 0x80 then
    [UInt8.ofNat n]
  else if n < 0x800 then
    [UInt8.ofNat (0xC0 + n / 64), UInt8.ofNat (0x80 + n % 64)]
  else if n < 0x10000 then
    [UInt8.ofNat (0xE0 + n / 4096), UInt8.ofNat (0x80 + n / 64 % 64), UInt8.ofNat (0x80 + n % 64)]
  else
    [UInt8.ofNat (0xF0 + n / 262144), UInt8.ofNat (0x80 + n / 4096 % 64),
      UInt8.ofNat (0x80 + n / 64 % 64), UInt8.ofNat (0x80 + n % 64)]

/-- The bytes of a text. -/
def encode (text : List Char) : Bytes := text.flatMap encodeChar

/-- What a lead byte announces: its own bits of the code point, and the range
of each byte that has to follow.  The narrower ranges rule out overlong forms,
surrogates and code points above the last. -/
def lead? (b : Nat) : Option (Nat × List (Nat × Nat)) :=
  if b < 0x80 then some (b, [])
  else if b < 0xC2 then none
  else if b < 0xE0 then some (b - 0xC0, [(0x80, 0xBF)])
  else if b = 0xE0 then some (0, [(0xA0, 0xBF), (0x80, 0xBF)])
  else if b = 0xED then some (13, [(0x80, 0x9F), (0x80, 0xBF)])
  else if b < 0xF0 then some (b - 0xE0, [(0x80, 0xBF), (0x80, 0xBF)])
  else if b = 0xF0 then some (0, [(0x90, 0xBF), (0x80, 0xBF), (0x80, 0xBF)])
  else if b < 0xF4 then some (b - 0xF0, [(0x80, 0xBF), (0x80, 0xBF), (0x80, 0xBF)])
  else if b = 0xF4 then some (4, [(0x80, 0x8F), (0x80, 0xBF), (0x80, 0xBF)])
  else none

/-- Read the bytes that have to follow a lead byte.  Reading stops before the
first byte out of its range. -/
def follow : List (Nat × Nat) → Nat → Bytes → Option Nat × Bytes
  | [], bits, rest => (some bits, rest)
  | _ :: _, _, [] => (none, [])
  | (low, high) :: ranges, bits, b :: rest =>
      if low ≤ b.toNat ∧ b.toNat ≤ high then
        follow ranges (bits * 64 + b.toNat % 64) rest
      else
        (none, b :: rest)

/-- Take one character or one ill-formed part, the latter as `none`. -/
def scanOne (b : UInt8) (rest : Bytes) : Option Char × Bytes :=
  match lead? b.toNat with
  | none => (none, rest)
  | some (bits, ranges) =>
      let (code, rest) := follow ranges bits rest
      (code.map Char.ofNat, rest)

theorem follow_length_le (ranges : List (Nat × Nat)) (bits : Nat) (rest : Bytes) :
    (follow ranges bits rest).2.length ≤ rest.length := by
  induction ranges generalizing bits rest with
  | nil => simp [follow]
  | cons range ranges ih =>
      cases rest with
      | nil => simp [follow]
      | cons b rest =>
          simp only [follow]
          split
          · exact Nat.le_trans (ih _ _) (Nat.le_succ _)
          · exact Nat.le_refl _

theorem scanOne_length_le (b : UInt8) (rest : Bytes) :
    (scanOne b rest).2.length ≤ rest.length := by
  unfold scanOne
  split
  · exact Nat.le_refl _
  · exact follow_length_le _ _ _

/-- The characters and ill-formed parts of a byte sequence, in order. -/
def scan : Bytes → List (Option Char)
  | [] => []
  | b :: rest => (scanOne b rest).1 :: scan (scanOne b rest).2
termination_by bytes => bytes.length
decreasing_by
  exact Nat.lt_succ_of_le (scanOne_length_le b rest)

/-- The character that stands for an ill-formed part. -/
def replacement : Char := '\uFFFD'

/-- The text of well-formed bytes. -/
def decode? (bytes : Bytes) : Option (List Char) := (scan bytes).mapM id

/-- The text of any bytes, ill-formed parts replaced. -/
def decodeLossy (bytes : Bytes) : List Char := (scan bytes).map fun c => c.getD replacement

end Text.Utf8

end Magnetometer
