import Magnetometer.Text.Utf8

/-!
# Reading back encoded text

The bytes of a text are well formed: a scan takes from them one character after
another and no ill-formed part, so that both the strict and the lossy reading
give the text back.  Conversely a text is read from no bytes but its own.  The byte
of a line feed stands for nothing else.
-/

namespace Magnetometer.Text.Utf8

/-- The code points of characters: no surrogates, and none above the last. -/
theorem toNat_range (c : Char) :
    c.toNat < 0xD800 ∨ 0xDFFF < c.toNat ∧ c.toNat < 0x110000 :=
  c.valid

/-! ## Lead bytes -/

theorem lead?_of_lt {n : Nat} (small : n < 0x80) : lead? n = some (n, []) :=
  if_pos small

theorem lead?_two {high : Nat} (lower : 2 ≤ high) (upper : high < 32) :
    lead? (0xC0 + high) = some (high, [(0x80, 0xBF)]) := by
  unfold lead?
  rw [if_neg (by omega), if_neg (by omega), if_pos (by omega), Nat.add_sub_cancel_left]

theorem lead?_three :
    ∀ high < 16, lead? (0xE0 + high) =
      some (high, [(if high = 0 then 0xA0 else 0x80, if high = 13 then 0x9F else 0xBF),
        (0x80, 0xBF)]) := by
  decide

theorem lead?_four :
    ∀ high < 5, lead? (0xF0 + high) =
      some (high, [(if high = 0 then 0x90 else 0x80, if high = 4 then 0x8F else 0xBF),
        (0x80, 0xBF), (0x80, 0xBF)]) := by
  decide

theorem toNat_ofNat {n : Nat} (small : n < 256) : (UInt8.ofNat n).toNat = n :=
  UInt8.toNat_ofNat_of_lt' small

/-- A byte in its range adds its six bits to the code point. -/
theorem follow_cons {low high digit : Nat} (ranges : List (Nat × Nat)) (bits : Nat) (rest : Bytes)
    (small : digit < 64) (lower : low ≤ 0x80 + digit) (upper : 0x80 + digit ≤ high) :
    follow ((low, high) :: ranges) bits (UInt8.ofNat (0x80 + digit) :: rest) =
      follow ranges (bits * 64 + digit) rest := by
  have value : (UInt8.ofNat (0x80 + digit)).toNat = 0x80 + digit := toNat_ofNat (by omega)
  have kept : (0x80 + digit) % 64 = digit := by omega
  rw [follow, value, if_pos ⟨lower, upper⟩, kept]

/-- What is taken from bytes that start with a lead byte. -/
theorem scan_cons {value bits code : Nat} {ranges : List (Nat × Nat)} {rest left : Bytes}
    (small : value < 256) (lead : lead? value = some (bits, ranges))
    (followed : follow ranges bits rest = (some code, left)) :
    scan (UInt8.ofNat value :: rest) = some (Char.ofNat code) :: scan left := by
  rw [← toNat_ofNat small] at lead
  have one : scanOne (UInt8.ofNat value) rest = (some (Char.ofNat code), left) := by
    simp only [scanOne, lead, followed, Option.map_some]
  rw [scan, one]

theorem scan_two {n : Nat} (lower : 0x80 ≤ n) (upper : n < 0x800) (rest : Bytes) :
    scan (UInt8.ofNat (0xC0 + n / 64) :: UInt8.ofNat (0x80 + n % 64) :: rest) =
      some (Char.ofNat n) :: scan rest := by
  have lead : lead? (0xC0 + n / 64) = some (n / 64, [(0x80, 0xBF)]) :=
    lead?_two (by omega) (by omega)
  apply scan_cons (by omega) lead
  rw [follow_cons _ _ _ (by omega) (by omega) (by omega), follow]
  have whole : n / 64 * 64 + n % 64 = n := by omega
  rw [whole]

theorem scan_three {n : Nat} (lower : 0x800 ≤ n) (upper : n < 0x10000)
    (scalar : n < 0xD800 ∨ 0xDFFF < n) (rest : Bytes) :
    scan (UInt8.ofNat (0xE0 + n / 4096) :: UInt8.ofNat (0x80 + n / 64 % 64) ::
        UInt8.ofNat (0x80 + n % 64) :: rest) =
      some (Char.ofNat n) :: scan rest := by
  have lead := lead?_three (n / 4096) (by omega)
  apply scan_cons (by omega) lead
  rw [follow_cons _ _ _ (by omega) (by split <;> omega) (by split <;> omega),
    follow_cons _ _ _ (by omega) (by omega) (by omega), follow]
  have whole : (n / 4096 * 64 + n / 64 % 64) * 64 + n % 64 = n := by omega
  rw [whole]

theorem scan_four {n : Nat} (lower : 0x10000 ≤ n) (upper : n < 0x110000) (rest : Bytes) :
    scan (UInt8.ofNat (0xF0 + n / 262144) :: UInt8.ofNat (0x80 + n / 4096 % 64) ::
        UInt8.ofNat (0x80 + n / 64 % 64) :: UInt8.ofNat (0x80 + n % 64) :: rest) =
      some (Char.ofNat n) :: scan rest := by
  have lead := lead?_four (n / 262144) (by omega)
  apply scan_cons (by omega) lead
  rw [follow_cons _ _ _ (by omega) (by split <;> omega) (by split <;> omega),
    follow_cons _ _ _ (by omega) (by omega) (by omega),
    follow_cons _ _ _ (by omega) (by omega) (by omega), follow]
  have whole : ((n / 262144 * 64 + n / 4096 % 64) * 64 + n / 64 % 64) * 64 + n % 64 = n := by
    omega
  rw [whole]

/-! ## Characters and texts -/

/-- A scan takes an encoded character whole. -/
theorem scan_encodeChar (c : Char) (rest : Bytes) :
    scan (encodeChar c ++ rest) = some c :: scan rest := by
  have range := toNat_range c
  suffices whole : scan (encodeChar c ++ rest) = some (Char.ofNat c.toNat) :: scan rest by
    rwa [Char.ofNat_toNat] at whole
  unfold encodeChar
  generalize c.toNat = n at range
  dsimp only
  split
  · rename_i one
    exact scan_cons (by omega) (lead?_of_lt one) rfl
  · split
    · exact scan_two (by omega) (by omega) rest
    · split
      · exact scan_three (by omega) (by omega) (by omega) rest
      · exact scan_four (by omega) (by omega) rest

/-- A scan of an encoded text finds its characters. -/
@[simp]
theorem scan_encode (text : List Char) : scan (encode text) = text.map some := by
  induction text with
  | nil => rw [encode, List.flatMap_nil, scan, List.map_nil]
  | cons c rest ih =>
      rw [encode, List.flatMap_cons, scan_encodeChar, List.map_cons]
      exact congrArg (some c :: ·) ih

/-- The lossy reading of an encoded text is the text. -/
@[simp]
theorem decodeLossy_encode (text : List Char) : decodeLossy (encode text) = text := by
  rw [decodeLossy, scan_encode, List.map_map]
  exact List.map_id text

/-- The strict reading of an encoded text is the text. -/
@[simp]
theorem decode?_encode (text : List Char) : decode? (encode text) = some text := by
  rw [decode?, scan_encode, List.mapM_map]
  exact List.mapM_pure.trans (congrArg some (List.map_id text))

/-! ## Bytes of read texts -/

theorem toNat_charOfNat {n : Nat} (valid : n < 0xD800 ∨ 0xDFFF < n ∧ n < 0x110000) :
    (Char.ofNat n).toNat = n := by
  unfold Char.ofNat
  rw [dif_pos valid]
  rfl

/-- The byte of a number is the byte with that number. -/
theorem ofNat_eq {n : Nat} {b : UInt8} (value : n = b.toNat) : UInt8.ofNat n = b := by
  rw [value, UInt8.ofNat_toNat]

/-- A byte that follows is taken in its range. -/
theorem follow_eq_some {low high bits code : Nat} {ranges : List (Nat × Nat)} {rest left : Bytes}
    (followed : follow ((low, high) :: ranges) bits rest = (some code, left)) :
    ∃ d more, rest = d :: more ∧ low ≤ d.toNat ∧ d.toNat ≤ high ∧
      follow ranges (bits * 64 + d.toNat % 64) more = (some code, left) := by
  cases rest with
  | nil => cases followed
  | cons d more =>
      rw [follow] at followed
      split at followed
      · rename_i within
        exact ⟨d, more, rfl, within.1, within.2, followed⟩
      · cases followed

theorem encodeChar_two {b d : UInt8} (lower : 0xC2 ≤ b.toNat) (upper : b.toNat < 0xE0)
    (low : 0x80 ≤ d.toNat) (high : d.toNat ≤ 0xBF) :
    encodeChar (Char.ofNat ((b.toNat - 0xC0) * 64 + d.toNat % 64)) = [b, d] := by
  unfold encodeChar
  rw [toNat_charOfNat (by omega)]
  dsimp only
  rw [if_neg (by omega), if_pos (by omega), @ofNat_eq _ b (by omega), @ofNat_eq _ d (by omega)]

theorem encodeChar_three {b d e : UInt8} {code : Nat} (lower : 0xE0 ≤ b.toNat)
    (upper : b.toNat < 0xF0) (dLow : 0x80 ≤ d.toNat) (dHigh : d.toNat ≤ 0xBF)
    (eLow : 0x80 ≤ e.toNat) (eHigh : e.toNat ≤ 0xBF)
    (code_eq : code = ((b.toNat - 0xE0) * 64 + d.toNat % 64) * 64 + e.toNat % 64)
    (wide : 0x800 ≤ code) (scalar : code < 0xD800 ∨ 0xDFFF < code) :
    encodeChar (Char.ofNat code) = [b, d, e] := by
  unfold encodeChar
  rw [toNat_charOfNat (by omega)]
  dsimp only
  rw [if_neg (by omega), if_neg (by omega), if_pos (by omega), @ofNat_eq _ b (by omega),
    @ofNat_eq _ d (by omega), @ofNat_eq _ e (by omega)]

theorem encodeChar_four {b d e f : UInt8} {code : Nat} (lower : 0xF0 ≤ b.toNat)
    (dLow : 0x80 ≤ d.toNat) (dHigh : d.toNat ≤ 0xBF) (eLow : 0x80 ≤ e.toNat)
    (eHigh : e.toNat ≤ 0xBF) (fLow : 0x80 ≤ f.toNat) (fHigh : f.toNat ≤ 0xBF)
    (code_eq : code =
      (((b.toNat - 0xF0) * 64 + d.toNat % 64) * 64 + e.toNat % 64) * 64 + f.toNat % 64)
    (wide : 0x10000 ≤ code) (last : code < 0x110000) :
    encodeChar (Char.ofNat code) = [b, d, e, f] := by
  unfold encodeChar
  rw [toNat_charOfNat (by omega)]
  dsimp only
  rw [if_neg (by omega), if_neg (by omega), if_neg (by omega), @ofNat_eq _ b (by omega),
    @ofNat_eq _ d (by omega), @ofNat_eq _ e (by omega), @ofNat_eq _ f (by omega)]

/-- What the lead bytes of each length announce. -/
inductive Leads (b : Nat) : Nat → List (Nat × Nat) → Prop
  | one (upper : b < 0x80) : Leads b b []
  | two (lower : 0xC2 ≤ b) (upper : b < 0xE0) : Leads b (b - 0xC0) [(0x80, 0xBF)]
  | three {low high : Nat} (lower : 0xE0 ≤ b) (upper : b < 0xF0) (wide : 0x80 ≤ low)
      (narrow : high ≤ 0xBF) (first : b = 0xE0 → 0xA0 ≤ low) (scalar : b = 0xED → high ≤ 0x9F) :
      Leads b (b - 0xE0) [(low, high), (0x80, 0xBF)]
  | four {low high : Nat} (lower : 0xF0 ≤ b) (upper : b < 0xF5) (wide : 0x80 ≤ low)
      (narrow : high ≤ 0xBF) (first : b = 0xF0 → 0x90 ≤ low) (last : b = 0xF4 → high ≤ 0x8F) :
      Leads b (b - 0xF0) [(low, high), (0x80, 0xBF), (0x80, 0xBF)]

theorem leads_of_lead? {b bits : Nat} {ranges : List (Nat × Nat)}
    (lead : lead? b = some (bits, ranges)) : Leads b bits ranges := by
  unfold lead? at lead
  split at lead
  · obtain ⟨rfl, rfl⟩ := Prod.mk.inj (Option.some.inj lead)
    exact .one (by omega)
  · split at lead
    · cases lead
    · split at lead
      · obtain ⟨rfl, rfl⟩ := Prod.mk.inj (Option.some.inj lead)
        exact .two (by omega) (by omega)
      · split at lead
        · rename_i first
          obtain ⟨rfl, rfl⟩ := Prod.mk.inj (Option.some.inj lead)
          subst first
          exact .three (by omega) (by omega) (by omega) (by omega) (by omega) (by omega)
        · split at lead
          · rename_i surrogates
            obtain ⟨rfl, rfl⟩ := Prod.mk.inj (Option.some.inj lead)
            subst surrogates
            exact .three (by omega) (by omega) (by omega) (by omega) (by omega) (by omega)
          · split at lead
            · obtain ⟨rfl, rfl⟩ := Prod.mk.inj (Option.some.inj lead)
              exact .three (by omega) (by omega) (by omega) (by omega) (by omega) (by omega)
            · split at lead
              · rename_i first
                obtain ⟨rfl, rfl⟩ := Prod.mk.inj (Option.some.inj lead)
                subst first
                exact .four (by omega) (by omega) (by omega) (by omega) (by omega) (by omega)
              · split at lead
                · obtain ⟨rfl, rfl⟩ := Prod.mk.inj (Option.some.inj lead)
                  exact .four (by omega) (by omega) (by omega) (by omega) (by omega) (by omega)
                · split at lead
                  · rename_i last
                    obtain ⟨rfl, rfl⟩ := Prod.mk.inj (Option.some.inj lead)
                    subst last
                    exact .four (by omega) (by omega) (by omega) (by omega) (by omega) (by omega)
                  · cases lead

/-- The bytes that a character was taken from are those of the character. -/
theorem encodeChar_of_scanOne {b : UInt8} {rest left : Bytes} {c : Char}
    (taken : scanOne b rest = (some c, left)) : encodeChar c ++ left = b :: rest := by
  unfold scanOne at taken
  split at taken
  · cases taken
  · rename_i bits ranges lead
    obtain ⟨code, followed, rfl⟩ : ∃ code, follow ranges bits rest = (some code, left) ∧
        Char.ofNat code = c := by
      dsimp only at taken
      obtain ⟨found, behind⟩ := Prod.mk.inj taken
      obtain ⟨code, code_eq, char_eq⟩ := Option.map_eq_some_iff.mp found
      exact ⟨code, Prod.ext code_eq behind, char_eq⟩
    cases leads_of_lead? lead with
    | one upper =>
        cases followed
        unfold encodeChar
        rw [toNat_charOfNat (by omega)]
        dsimp only
        rw [if_pos upper, UInt8.ofNat_toNat]
        rfl
    | two lower upper =>
        obtain ⟨d, more, rfl, low, high, done⟩ := follow_eq_some followed
        cases done
        rw [encodeChar_two lower upper low high]
        rfl
    | three lower upper wide narrow first scalar =>
        obtain ⟨d, more, rfl, dLow, dHigh, followed⟩ := follow_eq_some followed
        obtain ⟨e, others, rfl, eLow, eHigh, done⟩ := follow_eq_some followed
        cases done
        rw [@encodeChar_three b d e _ lower upper (by omega) (by omega) eLow eHigh rfl (by omega)
          (by omega)]
        rfl
    | four lower upper wide narrow first last =>
        obtain ⟨d, more, rfl, dLow, dHigh, followed⟩ := follow_eq_some followed
        obtain ⟨e, others, rfl, eLow, eHigh, followed⟩ := follow_eq_some followed
        obtain ⟨f, behind, rfl, fLow, fHigh, done⟩ := follow_eq_some followed
        cases done
        rw [@encodeChar_four b d e f _ lower (by omega) (by omega) eLow eHigh fLow fHigh rfl
          (by omega) (by omega)]
        rfl

/-- The bytes of a text that was read are those that it was read from. -/
theorem encode_of_decode? {bytes : Bytes} {text : List Char} (read : decode? bytes = some text) :
    encode text = bytes := by
  unfold decode? at read
  induction bytes using scan.induct generalizing text with
  | case1 =>
      rw [scan] at read
      cases read
      rfl
  | case2 b rest ih =>
      rw [scan, List.mapM_cons] at read
      obtain ⟨c, char, others⟩ := Option.bind_eq_some_iff.mp read
      obtain ⟨behind, readBehind, done⟩ := Option.bind_eq_some_iff.mp others
      cases done
      rw [encode, List.flatMap_cons]
      change encodeChar c ++ encode behind = b :: rest
      rw [ih readBehind]
      exact encodeChar_of_scanOne (Prod.ext char rfl)

/-! ## Line feeds -/

/-- Every byte of a character beyond the first 128 has its highest bit set. -/
theorem le_toNat_of_mem_encodeChar {c : Char} (wide : 0x80 ≤ c.toNat) {b : UInt8}
    (mem : b ∈ encodeChar c) : 0x80 ≤ b.toNat := by
  have range := toNat_range c
  unfold encodeChar at mem
  dsimp only at mem
  rw [if_neg (Nat.not_lt.mpr wide)] at mem
  split at mem
  · simp only [List.mem_cons, List.not_mem_nil, or_false] at mem
    rcases mem with rfl | rfl <;> rw [toNat_ofNat (by omega)] <;> omega
  · split at mem
    · simp only [List.mem_cons, List.not_mem_nil, or_false] at mem
      rcases mem with rfl | rfl | rfl <;> rw [toNat_ofNat (by omega)] <;> omega
    · simp only [List.mem_cons, List.not_mem_nil, or_false] at mem
      rcases mem with rfl | rfl | rfl | rfl <;> rw [toNat_ofNat (by omega)] <;> omega

/-- A byte of 10 stands for a line feed only. -/
theorem eq_lineFeed_of_mem_encodeChar {c : Char} (mem : (10 : UInt8) ∈ encodeChar c) :
    c = '\n' := by
  rcases Nat.lt_or_ge c.toNat 0x80 with small | wide
  · unfold encodeChar at mem
    dsimp only at mem
    rw [if_pos small] at mem
    have value : 10 = c.toNat := by
      have value := congrArg UInt8.toNat (List.mem_singleton.mp mem)
      rwa [toNat_ofNat (by omega)] at value
    rw [← Char.ofNat_toNat c, ← value]
  · exact absurd (le_toNat_of_mem_encodeChar wide mem) (by decide)

/-- The bytes of a text without line feeds hold no byte 10. -/
theorem lineFeed_not_mem_encode {text : List Char} (unbroken : '\n' ∉ text) :
    (10 : UInt8) ∉ encode text := by
  intro mem
  obtain ⟨c, inside, byte⟩ := List.mem_flatMap.mp mem
  exact unbroken (eq_lineFeed_of_mem_encodeChar byte ▸ inside)

end Magnetometer.Text.Utf8
