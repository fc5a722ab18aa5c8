import RefactorGateway.Text.Lossy
/-!
# Bytes of a text

The bytes of a text are read as that text: nothing of it is replaced.

## Main Statements

* `isSecondOfThree_ofNat`, `isSecondOfFour_ofNat`: the second byte of a character is let through
* `nextChar_one`, `nextChar_two`, `nextChar_three`, `nextChar_four`: how the bytes of a character
  are put together, by the number of bytes
* `exists_utf8EncodeChar_eq_cons`: the bytes of a character are read as it, whatever follows them
* `ofBytes_toBytes`: the bytes of a text are read as the text
* `ofBytes?_eq_some_iff`: what is not UTF-8 is no text
-/

namespace RefactorGateway.Text

/-! ### Bytes that continue a character -/

theorem isTail_ofNat (n : Nat) : isTail (.ofNat (n % 64 + 128)) = true := by
  simp only [isTail, Bool.and_eq_true, decide_eq_true_eq, UInt8.le_iff_toNat_le,
    UInt8.toNat_ofNat', UInt8.toNat_ofNat]
  omega

theorem tailBits_ofNat (n : Nat) : tailBits (.ofNat (n % 64 + 128)) = n % 64 := by
  rw [tailBits, UInt8.toNat_ofNat']
  omega

/-- The second byte of three tells characters from short spellings and from surrogates. -/
theorem isSecondOfThree_ofNat {a : UInt8} {n : Nat} (first : a.toNat = n / 4096 + 224)
    (large : 2047 < n) (no_surrogate : n < 0xD800 ∨ 0xDFFF < n) :
    isSecondOfThree a (.ofNat (n / 64 % 64 + 128)) = true := by
  unfold isSecondOfThree
  simp only [← UInt8.toNat_inj, UInt8.le_iff_toNat_le, first, UInt8.toNat_ofNat',
    UInt8.reduceToNat]
  split
  · simp only [Bool.and_eq_true, decide_eq_true_eq]
    omega
  · split
    · simp only [Bool.and_eq_true, decide_eq_true_eq]
      omega
    · exact isTail_ofNat (n / 64)

/-- The second byte of four tells characters from short spellings and from numbers that are too
large. -/
theorem isSecondOfFour_ofNat {a : UInt8} {n : Nat} (first : a.toNat = n / 262144 + 240)
    (large : 65535 < n) (small : n < 0x110000) :
    isSecondOfFour a (.ofNat (n / 4096 % 64 + 128)) = true := by
  unfold isSecondOfFour
  simp only [← UInt8.toNat_inj, UInt8.le_iff_toNat_le, first, UInt8.toNat_ofNat',
    UInt8.reduceToNat]
  split
  · simp only [Bool.and_eq_true, decide_eq_true_eq]
    omega
  · split
    · simp only [Bool.and_eq_true, decide_eq_true_eq]
      omega
    · exact isTail_ofNat (n / 4096)

/-! ### Characters by the number of their bytes -/

section Bytes

variable {n : Nat} (rest : List UInt8)

theorem nextChar_one (small : n ≤ 127) : nextChar (.ofNat n) rest = (Char.ofNat n, 0) := by
  have byte : (UInt8.ofNat n).toNat = n := by
    rw [UInt8.toNat_ofNat']
    omega
  unfold nextChar
  simp only [UInt8.lt_iff_toNat_lt, UInt8.le_iff_toNat_le, UInt8.reduceToNat, byte]
  rw [if_pos (by omega)]

theorem nextChar_two (large : 127 < n) (small : n ≤ 2047) :
    nextChar (.ofNat (n / 64 % 32 + 192)) (.ofNat (n % 64 + 128) :: rest) = (Char.ofNat n, 1) := by
  have byte : (UInt8.ofNat (n / 64 % 32 + 192)).toNat = n / 64 + 192 := by
    rw [UInt8.toNat_ofNat']
    omega
  have bits : (n / 64 + 192) % 32 * 64 + n % 64 = n := by omega
  generalize UInt8.ofNat (n / 64 % 32 + 192) = a at byte
  unfold nextChar
  simp only [UInt8.lt_iff_toNat_lt, UInt8.le_iff_toNat_le, UInt8.reduceToNat, byte]
  rw [if_neg (by omega), if_pos (by omega)]
  simp only [isTail_ofNat, if_true, tailBits_ofNat, bits]

theorem nextChar_three (large : 2047 < n) (small : n ≤ 65535)
    (no_surrogate : n < 0xD800 ∨ 0xDFFF < n) :
    nextChar (.ofNat (n / 4096 % 16 + 224))
        (.ofNat (n / 64 % 64 + 128) :: .ofNat (n % 64 + 128) :: rest) = (Char.ofNat n, 2) := by
  have byte : (UInt8.ofNat (n / 4096 % 16 + 224)).toNat = n / 4096 + 224 := by
    rw [UInt8.toNat_ofNat']
    omega
  have bits : (n / 4096 + 224) % 16 * 4096 + n / 64 % 64 * 64 + n % 64 = n := by omega
  generalize UInt8.ofNat (n / 4096 % 16 + 224) = a at byte
  have second := isSecondOfThree_ofNat byte large no_surrogate
  unfold nextChar
  simp only [UInt8.lt_iff_toNat_lt, UInt8.le_iff_toNat_le, UInt8.reduceToNat, byte]
  rw [if_neg (by omega), if_neg (by omega), if_pos (by omega)]
  simp only [second, isTail_ofNat, if_true, tailBits_ofNat, bits]

theorem nextChar_four (large : 65535 < n) (small : n < 0x110000) :
    nextChar (.ofNat (n / 262144 % 8 + 240))
        (.ofNat (n / 4096 % 64 + 128) :: .ofNat (n / 64 % 64 + 128) :: .ofNat (n % 64 + 128)
          :: rest) = (Char.ofNat n, 3) := by
  have byte : (UInt8.ofNat (n / 262144 % 8 + 240)).toNat = n / 262144 + 240 := by
    rw [UInt8.toNat_ofNat']
    omega
  have bits : (n / 262144 + 240) % 8 * 262144 + n / 4096 % 64 * 4096 + n / 64 % 64 * 64 + n % 64
      = n := by
    omega
  generalize UInt8.ofNat (n / 262144 % 8 + 240) = a at byte
  have second := isSecondOfFour_ofNat byte large small
  unfold nextChar
  simp only [UInt8.lt_iff_toNat_lt, UInt8.le_iff_toNat_le, UInt8.reduceToNat, byte]
  rw [if_neg (by omega), if_neg (by omega), if_neg (by omega), if_pos (by omega)]
  simp only [second, isTail_ofNat, if_true, tailBits_ofNat, bits]

end Bytes

/-! ### Texts -/

/-- The first byte of a character, before its other bytes and whatever follows, is read as the
character. -/
theorem exists_utf8EncodeChar_eq_cons (c : Char) :
    ∃ a tail, String.utf8EncodeChar c = a :: tail ∧
      ∀ rest, nextChar a (tail ++ rest) = (c, tail.length) := by
  have range : c.toNat < 0xD800 ∨ 0xDFFF < c.toNat ∧ c.toNat < 0x110000 := c.valid
  have same : Char.ofNat c.toNat = c := Char.ofNat_toNat c
  unfold String.utf8EncodeChar
  simp only [show c.val.toNat = c.toNat from rfl]
  split
  · next small =>
    refine ⟨_, _, rfl, fun rest => ?_⟩
    rw [nextChar_one _ small, same]
    rfl
  · next large =>
    split
    · next small =>
      refine ⟨_, _, rfl, fun rest => ?_⟩
      rw [List.cons_append, List.nil_append, nextChar_two _ (by omega) small, same]
      rfl
    · next large =>
      split
      · next small =>
        refine ⟨_, _, rfl, fun rest => ?_⟩
        simp only [List.cons_append, List.nil_append]
        rw [nextChar_three _ (by omega) small (by omega), same]
        rfl
      · next large =>
        refine ⟨_, _, rfl, fun rest => ?_⟩
        simp only [List.cons_append, List.nil_append]
        rw [nextChar_four _ (by omega) (by omega), same]
        rfl

theorem charsAfter_append (skipped rest : List UInt8) :
    charsAfter skipped.length (skipped ++ rest) = charsAfter 0 rest := by
  induction skipped with
  | nil => rfl
  | cons b skipped ih => exact ih

theorem charsAfter_encode (cs : List Char) :
    charsAfter 0 (cs.flatMap String.utf8EncodeChar) = cs := by
  induction cs with
  | nil => rfl
  | cons c cs ih =>
    obtain ⟨a, tail, bytes, next⟩ := exists_utf8EncodeChar_eq_cons c
    rw [List.flatMap_cons, bytes, List.cons_append, charsAfter, next, charsAfter_append, ih]

/-- The bytes of a text are read as the text. -/
theorem ofBytes_toBytes (s : String) : ofBytes (toBytes s) = s := by
  rw [ofBytes, toBytes, charsAfter_encode]
  exact String.ofList_toList

/-- Bytes are read as a text just if they are its bytes. -/
theorem ofBytes?_eq_some_iff {bytes : List UInt8} {text : String} :
    ofBytes? bytes = some text ↔ toBytes text = bytes := by
  unfold ofBytes?
  constructor
  · intro read
    split at read
    · next same =>
      cases read
      exact same
    · cases read
  · rintro rfl
    rw [ofBytes_toBytes, if_pos rfl]

end RefactorGateway.Text
