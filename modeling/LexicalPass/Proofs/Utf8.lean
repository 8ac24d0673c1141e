import LexicalPass.Text.Utf8

/-!
Writing UTF-8 and reading it back.  The bytes of a character announce how many
they are, and each byte gives back its share of the character's number, so that
reading what was written ends right behind it.
-/

set_option autoImplicit false

namespace LexicalPass.Text

/-- The bytes of a text. -/
def encodeUtf8 (s : List Char) : List UInt8 := s.flatMap String.utf8EncodeChar

@[simp] theorem encodeUtf8_nil : encodeUtf8 [] = [] := rfl

theorem encodeUtf8_cons (c : Char) (s : List Char) :
    encodeUtf8 (c :: s) = String.utf8EncodeChar c ++ encodeUtf8 s := rfl

/-! What the first bytes announce, in terms of the upper part of the number. -/

theorem lead_of_one : ∀ n < 0x80,
    Utf8Lead.ofByte? (UInt8.ofNat n) = some ⟨0, 0x80, 0xBF, n⟩ := by
  decide

theorem lead_of_two : ∀ n < 0x20, 2 ≤ n →
    Utf8Lead.ofByte? (UInt8.ofNat (n + 0xC0)) = some ⟨1, 0x80, 0xBF, n⟩ := by
  decide

/-- The bounds on the second byte exclude long forms and surrogates. -/
theorem lead_of_three : ∀ n < 0x10,
    Utf8Lead.ofByte? (UInt8.ofNat (n + 0xE0)) =
      some ⟨2, if n = 0 then 0xA0 else 0x80, if n = 0xD then 0x9F else 0xBF, n⟩ := by
  decide

/-- The bounds on the second byte exclude long forms and what lies past the last
code point. -/
theorem lead_of_four : ∀ n < 5,
    Utf8Lead.ofByte? (UInt8.ofNat (n + 0xF0)) =
      some ⟨3, if n = 0 then 0x90 else 0x80, if n = 4 then 0x8F else 0xBF, n⟩ := by
  decide

/-- A byte that continues a character gives six bits of its number. -/
theorem readContinuation_cons {seen following bits n : Nat} {low high : UInt8}
    {bytes : List UInt8} (small : n < 64) (notBelow : low.toNat ≤ n + 128)
    (notAbove : n + 128 ≤ high.toNat) :
    readContinuation seen (following + 1) low high bits (UInt8.ofNat (n + 128) :: bytes) =
      readContinuation (seen + 1) following 0x80 0xBF (bits * 64 + n) bytes := by
  have value : (UInt8.ofNat (n + 128)).toNat = n + 128 := by
    rw [UInt8.toNat_ofNat']
    omega
  have inRange : low ≤ UInt8.ofNat (n + 128) ∧ UInt8.ofNat (n + 128) ≤ high := by
    rw [UInt8.le_iff_toNat_le, UInt8.le_iff_toNat_le, value]
    exact ⟨notBelow, notAbove⟩
  rw [readContinuation, if_pos inRange, value]
  congr 2
  omega

section Scalar

variable {v : Nat} (bytes : List UInt8)

theorem readScalar_one (small : v ≤ 0x7F) :
    readScalar (UInt8.ofNat v) bytes = .ok (v, bytes) := by
  rw [readScalar, lead_of_one v (by omega)]
  rfl

theorem readScalar_two (large : 0x7F < v) (small : v ≤ 0x7FF) :
    readScalar (UInt8.ofNat (v / 64 % 32 + 192)) (UInt8.ofNat (v % 64 + 128) :: bytes) =
      .ok (v, bytes) := by
  rw [readScalar, lead_of_two _ (by omega) (by omega)]
  dsimp only
  rw [readContinuation_cons (by omega) (by simp) (by simp; omega), readContinuation]
  congr 2
  omega

theorem readScalar_three (large : 0x7FF < v) (small : v ≤ 0xFFFF)
    (scalar : v < 0xD800 ∨ 0xDFFF < v) :
    readScalar (UInt8.ofNat (v / 4096 % 16 + 224))
        (UInt8.ofNat (v / 64 % 64 + 128) :: UInt8.ofNat (v % 64 + 128) :: bytes) =
      .ok (v, bytes) := by
  have notBelow :
      (if v / 4096 % 16 = 0 then 0xA0 else 0x80 : UInt8).toNat ≤ v / 64 % 64 + 128 := by
    split
    · change 0xA0 ≤ _
      omega
    · exact Nat.le_add_left 0x80 _
  have notAbove :
      v / 64 % 64 + 128 ≤ (if v / 4096 % 16 = 0xD then 0x9F else 0xBF : UInt8).toNat := by
    split
    · change _ ≤ 0x9F
      omega
    · change _ ≤ 0xBF
      omega
  rw [readScalar, lead_of_three _ (by omega)]
  dsimp only
  rw [readContinuation_cons (by omega) notBelow notAbove,
    readContinuation_cons (by omega) (by simp) (by simp; omega), readContinuation]
  congr 2
  omega

theorem readScalar_four (large : 0xFFFF < v) (small : v < 0x110000) :
    readScalar (UInt8.ofNat (v / 262144 % 8 + 240))
        (UInt8.ofNat (v / 4096 % 64 + 128) :: UInt8.ofNat (v / 64 % 64 + 128) ::
          UInt8.ofNat (v % 64 + 128) :: bytes) =
      .ok (v, bytes) := by
  have notBelow :
      (if v / 262144 % 8 = 0 then 0x90 else 0x80 : UInt8).toNat ≤ v / 4096 % 64 + 128 := by
    split
    · change 0x90 ≤ _
      omega
    · exact Nat.le_add_left 0x80 _
  have notAbove :
      v / 4096 % 64 + 128 ≤ (if v / 262144 % 8 = 4 then 0x8F else 0xBF : UInt8).toNat := by
    split
    · change _ ≤ 0x8F
      omega
    · change _ ≤ 0xBF
      omega
  rw [readScalar, lead_of_four _ (by omega)]
  dsimp only
  rw [readContinuation_cons (by omega) notBelow notAbove,
    readContinuation_cons (by omega) (by simp) (by simp; omega),
    readContinuation_cons (by omega) (by simp) (by simp; omega), readContinuation]
  congr 2
  omega

end Scalar

/-- The bytes of a character are read as its number, and nothing behind them is. -/
theorem readScalar_utf8EncodeChar (c : Char) (bytes : List UInt8) :
    ∃ first rest, String.utf8EncodeChar c ++ bytes = first :: rest ∧
      readScalar first rest = .ok (c.toNat, bytes) := by
  have isScalar : c.toNat < 0xD800 ∨ 0xDFFF < c.toNat ∧ c.toNat < 0x110000 := c.valid
  have number : c.val.toNat = c.toNat := rfl
  simp only [String.utf8EncodeChar, number]
  split
  · exact ⟨_, _, rfl, readScalar_one bytes (by omega)⟩
  · split
    · exact ⟨_, _, rfl, readScalar_two bytes (by omega) (by omega)⟩
    · split
      · exact ⟨_, _, rfl, readScalar_three bytes (by omega) (by omega) (by omega)⟩
      · exact ⟨_, _, rfl, readScalar_four bytes (by omega) (by omega)⟩

/-- One character of a text that is decoded. -/
theorem decodeFrom_cons (start : Nat) (done : Array Char) (c : Char) (bytes : List UInt8) :
    decodeFrom start done (String.utf8EncodeChar c ++ bytes) =
      decodeFrom (start + c.utf8Size) (done.push c) bytes := by
  obtain ⟨first, rest, split, scalar⟩ := readScalar_utf8EncodeChar c bytes
  rw [split, decodeFrom]
  split
  · rename_i failed
    rw [scalar] at failed
    cases failed
  · rename_i read
    rw [scalar] at read
    cases read
    rw [Char.ofNat_toNat]

theorem decodeFrom_encodeUtf8 (start : Nat) (done : Array Char) (s : List Char) :
    decodeFrom start done (encodeUtf8 s) = .ok (done.toList ++ s) := by
  induction s generalizing start done with
  | nil => simp [decodeFrom]
  | cons c s inductionHypothesis =>
      rw [encodeUtf8_cons, decodeFrom_cons, inductionHypothesis]
      simp

theorem decodeUtf8_encodeUtf8 (s : List Char) : decodeUtf8 (encodeUtf8 s) = .ok s :=
  decodeFrom_encodeUtf8 0 #[] s

end LexicalPass.Text
