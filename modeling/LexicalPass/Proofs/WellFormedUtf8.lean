import LexicalPass.Proofs.Utf8
import Mathlib.Data.List.Basic

/-!
Exactly the well-formed bytes are decoded.  Where decoding breaks off, all that
stands before is the longest well-formed front of the bytes, and what is refused
is the longest beginning of a character there, or one byte that begins none.
-/

set_option autoImplicit false

namespace LexicalPass.Text

/-- Bytes that write some text.  A character has one form only, and surrogates and
numbers past the last code point are no characters. -/
def IsWellFormed (bytes : List UInt8) : Prop := ∃ s, bytes = encodeUtf8 s

/-- Bytes that some character starts with and does not end with. -/
def BreaksChar (bytes : List UInt8) : Prop :=
  ∃ c missing, missing ≠ [] ∧ String.utf8EncodeChar c = bytes ++ missing

/-- The longest front of some bytes that has a property. -/
structure IsLongestFront (P : List UInt8 → Prop) (front bytes : List UInt8) : Prop where
  isPrefix : front <+: bytes
  holds : P front
  longest : ∀ other, other <+: bytes → P other → other.length ≤ front.length

/-! What may come behind a first byte, whether or not it is all there. -/

/-- Bytes that fit where `following` bytes are due, the first of them between two
bounds. -/
def Continues : (following : Nat) → (low high : UInt8) → List UInt8 → Prop
  | _, _, _, [] => True
  | 0, _, _, _ :: _ => False
  | following + 1, low, high, b :: bytes =>
      (low ≤ b ∧ b ≤ high) ∧ Continues following 0x80 0xBF bytes

section Continues

variable {following seen bits : Nat} {low high : UInt8}

theorem Continues.of_append {front bytes : List UInt8}
    (continues : Continues following low high (front ++ bytes)) :
    Continues following low high front := by
  induction front generalizing following low high with
  | nil => simp [Continues]
  | cons b front inductionHypothesis =>
      cases following with
      | zero => exact continues.elim
      | succ following => exact ⟨continues.1, inductionHypothesis continues.2⟩

theorem continues_replicate (following : Nat) :
    Continues following 0x80 0xBF (List.replicate following 0x80) := by
  induction following with
  | zero => simp [Continues]
  | succ following inductionHypothesis => exact ⟨by decide, inductionHypothesis⟩

/-- What is there so far can be completed. -/
theorem Continues.exists_completion {bytes : List UInt8} (bounds : low ≤ high)
    (continues : Continues following low high bytes) :
    ∃ missing, Continues following low high (bytes ++ missing) ∧
      (bytes ++ missing).length = following := by
  induction bytes generalizing following low high with
  | nil =>
      cases following with
      | zero => exact ⟨[], continues, rfl⟩
      | succ following =>
          refine ⟨low :: List.replicate following 0x80, ⟨⟨UInt8.le_refl low, bounds⟩, ?_⟩, ?_⟩
          · exact continues_replicate following
          · simp
  | cons b bytes inductionHypothesis =>
      cases following with
      | zero => exact continues.elim
      | succ following =>
          obtain ⟨missing, completes, length⟩ := inductionHypothesis (by decide) continues.2
          exact ⟨missing, ⟨continues.1, completes⟩, congrArg (· + 1) length⟩

/-- What is read behind a first byte is all that is due there. -/
theorem continues_of_readContinuation {bytes remaining : List UInt8} {code : Nat}
    (read : readContinuation seen following low high bits bytes = .ok (code, remaining)) :
    ∃ tail, bytes = tail ++ remaining ∧ Continues following low high tail ∧
      tail.length = following := by
  induction following generalizing seen low high bits bytes with
  | zero =>
      cases read
      exact ⟨[], rfl, by simp [Continues], rfl⟩
  | succ following inductionHypothesis =>
      cases bytes with
      | nil => simp [readContinuation] at read
      | cons b bytes =>
          rw [readContinuation] at read
          split at read
          · rename_i within
            obtain ⟨tail, rfl, continues, length⟩ := inductionHypothesis read
            exact ⟨b :: tail, rfl, ⟨within, continues⟩, congrArg (· + 1) length⟩
          · simp at read

/-- How the reading of what is due breaks off: at the end of the bytes, or at a
byte that does not fit. -/
def Utf8Reason.Explains (following : Nat) (low high : UInt8) (tail : List UInt8) :
    Utf8Reason → List UInt8 → Prop
  | .invalidStart, _ => False
  | .invalidContinuation, rest => ∃ b, b ∈ rest.head? ∧ ¬ Continues following low high (tail ++ [b])
  | .unexpectedEnd, rest => rest = []

theorem explains_of_readContinuation {bytes : List UInt8} {length : Nat} {reason : Utf8Reason}
    (failed : readContinuation seen following low high bits bytes = .error (length, reason)) :
    ∃ tail rest, bytes = tail ++ rest ∧ Continues following low high tail ∧
      tail.length < following ∧ length = seen + tail.length ∧
      reason.Explains following low high tail rest := by
  induction following generalizing seen low high bits bytes with
  | zero => simp [readContinuation] at failed
  | succ following inductionHypothesis =>
      cases bytes with
      | nil =>
          cases failed
          exact ⟨[], [], rfl, by simp [Continues], Nat.succ_pos _, rfl, rfl⟩
      | cons b bytes =>
          rw [readContinuation] at failed
          split at failed
          · rename_i within
            obtain ⟨tail, rest, rfl, continues, short, rfl, explains⟩ :=
              inductionHypothesis failed
            refine ⟨b :: tail, rest, rfl, ⟨within, continues⟩, Nat.succ_lt_succ short, ?_, ?_⟩
            · simp only [List.length_cons]
              omega
            · cases reason with
              | invalidStart => exact explains
              | unexpectedEnd => exact explains
              | invalidContinuation =>
                  obtain ⟨next, first, unfit⟩ := explains
                  exact ⟨next, first, fun fits => unfit fits.2⟩
          · rename_i outside
            cases failed
            exact ⟨[], b :: bytes, rfl, by simp [Continues], Nat.succ_pos _, rfl, b, rfl,
              fun fits => outside fits.1⟩

end Continues

/-- Behind some first bytes something is due that fits. -/
def Utf8Lead.Admits (lead : Utf8Lead) (tail : List UInt8) : Prop :=
  Continues lead.following lead.low lead.high tail

theorem lead_ranges : ∀ n < 0x100, (Utf8Lead.ofByte? (UInt8.ofNat n)).isSome = true →
    n < 0x80 ∨ (0xC2 ≤ n ∧ n < 0xE0) ∨ (0xE0 ≤ n ∧ n < 0xF0) ∨ (0xF0 ≤ n ∧ n < 0xF5) := by
  decide +kernel

theorem lead_bounds : ∀ n < 0x100, (Utf8Lead.ofByte? (UInt8.ofNat n)).all
    (fun lead => 0x80 ≤ lead.low ∧ lead.low ≤ lead.high ∧ lead.high ≤ 0xBF) = true := by
  decide +kernel

theorem bounds_of_lead {first : UInt8} {lead : Utf8Lead}
    (isLead : Utf8Lead.ofByte? first = some lead) :
    0x80 ≤ lead.low ∧ lead.low ≤ lead.high ∧ lead.high ≤ 0xBF := by
  have bounds := lead_bounds first.toNat first.toNat_lt
  rw [UInt8.ofNat_toNat, isLead] at bounds
  exact of_decide_eq_true bounds

/-- The first bytes of characters, by the upper part of the number that they give. -/
theorem lead_cases {first : UInt8} {lead : Utf8Lead}
    (isLead : Utf8Lead.ofByte? first = some lead) :
    (∃ n < 0x80, first = UInt8.ofNat n) ∨
    (∃ n, 2 ≤ n ∧ n < 0x20 ∧ first = UInt8.ofNat (n + 0xC0)) ∨
    (∃ n < 0x10, first = UInt8.ofNat (n + 0xE0)) ∨
    ∃ n < 5, first = UInt8.ofNat (n + 0xF0) := by
  have byte : UInt8.ofNat first.toNat = first := UInt8.ofNat_toNat
  have isSome : (Utf8Lead.ofByte? (UInt8.ofNat first.toNat)).isSome = true := by
    rw [byte, isLead]
    rfl
  rcases lead_ranges first.toNat first.toNat_lt isSome with
    one | ⟨above, below⟩ | ⟨above, below⟩ | ⟨above, below⟩
  · exact .inl ⟨first.toNat, one, byte.symm⟩
  · refine .inr (.inl ⟨first.toNat - 0xC0, by omega, by omega, ?_⟩)
    rw [Nat.sub_add_cancel (by omega), byte]
  · refine .inr (.inr (.inl ⟨first.toNat - 0xE0, by omega, ?_⟩))
    rw [Nat.sub_add_cancel (by omega), byte]
  · refine .inr (.inr (.inr ⟨first.toNat - 0xF0, by omega, ?_⟩))
    rw [Nat.sub_add_cancel (by omega), byte]

/-- A byte that continues a character gives six bits. -/
theorem exists_bits {b low high : UInt8} (within : low ≤ b ∧ b ≤ high) (least : 0x80 ≤ low)
    (greatest : high ≤ 0xBF) :
    ∃ n < 64, b = UInt8.ofNat (n + 128) ∧ low.toNat ≤ n + 128 ∧ n + 128 ≤ high.toNat := by
  have notBelow : low.toNat ≤ b.toNat := UInt8.le_iff_toNat_le.mp within.1
  have notAbove : b.toNat ≤ high.toNat := UInt8.le_iff_toNat_le.mp within.2
  have aboveAscii : 0x80 ≤ low.toNat := UInt8.le_iff_toNat_le.mp least
  have belowLeads : high.toNat ≤ 0xBF := UInt8.le_iff_toNat_le.mp greatest
  refine ⟨b.toNat - 128, by omega, ?_, by omega, by omega⟩
  rw [Nat.sub_add_cancel (by omega), UInt8.ofNat_toNat]

/-! The characters of given bytes, in the four lengths. -/

section Assemble

theorem toNat_val_ofNat {v : Nat} (scalar : v < 0xD800 ∨ 0xDFFF < v ∧ v < 0x110000) :
    (Char.ofNat v).val.toNat = v := by
  rw [Char.ofNat, dif_pos scalar]
  rfl

variable {n a b d : Nat}

theorem exists_char_one (small : n < 0x80) :
    ∃ c, String.utf8EncodeChar c = [UInt8.ofNat n] := by
  refine ⟨Char.ofNat n, ?_⟩
  simp only [String.utf8EncodeChar, toNat_val_ofNat (v := n) (by omega)]
  rw [if_pos (by omega)]

theorem exists_char_two (notLong : 2 ≤ n) (small : n < 0x20) (six : a < 64) :
    ∃ c, String.utf8EncodeChar c = [UInt8.ofNat (n + 0xC0), UInt8.ofNat (a + 128)] := by
  refine ⟨Char.ofNat (n * 64 + a), ?_⟩
  have upper : (n * 64 + a) / 64 % 32 = n := by omega
  have lower : (n * 64 + a) % 64 = a := by omega
  simp only [String.utf8EncodeChar, toNat_val_ofNat (v := n * 64 + a) (by omega), upper, lower]
  rw [if_neg (by omega), if_pos (by omega)]

theorem exists_char_three (small : n < 0x10) (sixes : a < 64 ∧ b < 64)
    (notLong : n = 0 → 0xA0 ≤ a + 128) (notSurrogate : n = 0xD → a + 128 ≤ 0x9F) :
    ∃ c, String.utf8EncodeChar c =
      [UInt8.ofNat (n + 0xE0), UInt8.ofNat (a + 128), UInt8.ofNat (b + 128)] := by
  refine ⟨Char.ofNat (n * 4096 + a * 64 + b), ?_⟩
  have upper : (n * 4096 + a * 64 + b) / 4096 % 16 = n := by omega
  have middle : (n * 4096 + a * 64 + b) / 64 % 64 = a := by omega
  have lower : (n * 4096 + a * 64 + b) % 64 = b := by omega
  have scalar : n * 4096 + a * 64 + b < 0xD800 ∨
      0xDFFF < n * 4096 + a * 64 + b ∧ n * 4096 + a * 64 + b < 0x110000 := by omega
  simp only [String.utf8EncodeChar, toNat_val_ofNat scalar, upper, middle, lower]
  rw [if_neg (by omega), if_neg (by omega), if_pos (by omega)]

theorem exists_char_four (small : n < 5) (sixes : a < 64 ∧ b < 64 ∧ d < 64)
    (notLong : n = 0 → 0x90 ≤ a + 128) (notPast : n = 4 → a + 128 ≤ 0x8F) :
    ∃ c, String.utf8EncodeChar c =
      [UInt8.ofNat (n + 0xF0), UInt8.ofNat (a + 128), UInt8.ofNat (b + 128),
        UInt8.ofNat (d + 128)] := by
  refine ⟨Char.ofNat (n * 262144 + a * 4096 + b * 64 + d), ?_⟩
  have upper : (n * 262144 + a * 4096 + b * 64 + d) / 262144 % 8 = n := by omega
  have second : (n * 262144 + a * 4096 + b * 64 + d) / 4096 % 64 = a := by omega
  have third : (n * 262144 + a * 4096 + b * 64 + d) / 64 % 64 = b := by omega
  have lower : (n * 262144 + a * 4096 + b * 64 + d) % 64 = d := by omega
  have scalar : n * 262144 + a * 4096 + b * 64 + d < 0xD800 ∨
      0xDFFF < n * 262144 + a * 4096 + b * 64 + d ∧
        n * 262144 + a * 4096 + b * 64 + d < 0x110000 := by omega
  simp only [String.utf8EncodeChar, toNat_val_ofNat scalar, upper, second, third, lower]
  rw [if_neg (by omega), if_neg (by omega), if_neg (by omega)]

end Assemble

/-- A first byte and all that is due behind it are the bytes of a character. -/
theorem exists_char_of_admits {first : UInt8} {lead : Utf8Lead} {tail : List UInt8}
    (isLead : Utf8Lead.ofByte? first = some lead) (admits : lead.Admits tail)
    (complete : tail.length = lead.following) :
    ∃ c, String.utf8EncodeChar c = first :: tail := by
  obtain ⟨least, -, greatest⟩ := bounds_of_lead isLead
  rcases lead_cases isLead with
    ⟨n, small, rfl⟩ | ⟨n, notLong, small, rfl⟩ | ⟨n, small, rfl⟩ | ⟨n, small, rfl⟩
  · rw [lead_of_one n small] at isLead
    cases isLead
    obtain rfl := List.length_eq_zero_iff.mp complete
    exact exists_char_one small
  · rw [lead_of_two n small notLong] at isLead
    cases isLead
    obtain ⟨second, rfl⟩ := List.length_eq_one_iff.mp complete
    obtain ⟨within, -⟩ := admits
    obtain ⟨a, six, rfl, -, -⟩ := exists_bits within least greatest
    exact exists_char_two notLong small six
  · rw [lead_of_three n small] at isLead
    cases isLead
    obtain ⟨second, third, rfl⟩ := List.length_eq_two.mp complete
    obtain ⟨withinFirst, withinSecond, -⟩ := admits
    obtain ⟨a, six, rfl, notBelow, notAbove⟩ := exists_bits withinFirst least greatest
    obtain ⟨b, six', rfl, -, -⟩ := exists_bits withinSecond (by decide) (by decide)
    refine exists_char_three small ⟨six, six'⟩ ?_ ?_
    · rintro rfl
      exact notBelow
    · rintro rfl
      exact notAbove
  · rw [lead_of_four n small] at isLead
    cases isLead
    obtain ⟨second, third, fourth, rfl⟩ := List.length_eq_three.mp complete
    obtain ⟨withinFirst, withinSecond, withinThird, -⟩ := admits
    obtain ⟨a, six, rfl, notBelow, notAbove⟩ := exists_bits withinFirst least greatest
    obtain ⟨b, six', rfl, -, -⟩ := exists_bits withinSecond (by decide) (by decide)
    obtain ⟨d, six'', rfl, -, -⟩ := exists_bits withinThird (by decide) (by decide)
    refine exists_char_four small ⟨six, six', six''⟩ ?_ ?_
    · rintro rfl
      exact notBelow
    · rintro rfl
      exact notAbove

/-- Reading takes the bytes of a character. -/
theorem exists_char_of_readScalar {first : UInt8} {rest remaining : List UInt8} {code : Nat}
    (read : readScalar first rest = .ok (code, remaining)) :
    ∃ c : Char, code = c.toNat ∧ first :: rest = String.utf8EncodeChar c ++ remaining := by
  have readAgain := read
  unfold readScalar at read
  split at read
  · simp at read
  · rename_i lead isLead
    obtain ⟨tail, rfl, admits, complete⟩ := continues_of_readContinuation read
    obtain ⟨c, bytes⟩ := exists_char_of_admits isLead admits complete
    obtain ⟨first', rest', split, scalar⟩ := readScalar_utf8EncodeChar c remaining
    rw [bytes] at split
    cases split
    cases readAgain.symm.trans scalar
    exact ⟨c, rfl, by rw [bytes]; rfl⟩

/-- The bytes of a character are a first byte and all that is due behind it. -/
theorem admits_of_utf8EncodeChar {c : Char} {first : UInt8} {tail : List UInt8}
    (bytes : String.utf8EncodeChar c = first :: tail) :
    ∃ lead, Utf8Lead.ofByte? first = some lead ∧ lead.Admits tail ∧
      tail.length = lead.following := by
  obtain ⟨first', rest', split, scalar⟩ := readScalar_utf8EncodeChar c []
  rw [bytes, List.append_nil] at split
  cases split
  unfold readScalar at scalar
  split at scalar
  · simp at scalar
  · rename_i lead isLead
    obtain ⟨whole, same, admits, complete⟩ := continues_of_readContinuation scalar
    rw [List.append_nil] at same
    rw [same]
    exact ⟨lead, isLead, admits, complete⟩

/-- What breaks a character is a first byte and less than is due behind it. -/
theorem breaksChar_iff (first : UInt8) (tail : List UInt8) :
    BreaksChar (first :: tail) ↔
      ∃ lead, Utf8Lead.ofByte? first = some lead ∧ lead.Admits tail ∧
        tail.length < lead.following := by
  constructor
  · rintro ⟨c, missing, some, bytes⟩
    rw [List.cons_append] at bytes
    obtain ⟨lead, isLead, admits, complete⟩ := admits_of_utf8EncodeChar bytes
    refine ⟨lead, isLead, admits.of_append, ?_⟩
    have more := List.length_pos_iff.mpr some
    rw [List.length_append] at complete
    omega
  · rintro ⟨lead, isLead, admits, short⟩
    obtain ⟨missing, completes, length⟩ := admits.exists_completion (bounds_of_lead isLead).2.1
    obtain ⟨c, bytes⟩ := exists_char_of_admits isLead completes length
    refine ⟨c, missing, ?_, bytes⟩
    rintro rfl
    rw [List.append_nil] at length
    omega

/-- What is refused at the front of some bytes, and why: one byte where no character
begins, and else the longest beginning of one, which the bytes end in or break. -/
inductive Refused (bytes : List UInt8) : List UInt8 → Utf8Reason → Prop
  | start {b : UInt8} :
      [b] <+: bytes → (∀ front, front ≠ [] → front <+: bytes → ¬ BreaksChar front) →
      Refused bytes [b] .invalidStart
  | broken {part : List UInt8} :
      part ≠ [] → IsLongestFront BreaksChar part bytes → part ≠ bytes →
      Refused bytes part .invalidContinuation
  | ended :
      bytes ≠ [] → IsLongestFront BreaksChar bytes bytes →
      Refused bytes bytes .unexpectedEnd

theorem not_breaksChar_of_no_lead {first : UInt8} {rest : List UInt8}
    (noLead : Utf8Lead.ofByte? first = none) :
    ∀ front, front ≠ [] → front <+: first :: rest → ¬ BreaksChar front := by
  rintro (_ | ⟨b, front⟩) some isPrefix
  · exact absurd rfl some
  · obtain ⟨rfl, -⟩ := List.cons_prefix_cons.mp isPrefix
    rw [breaksChar_iff]
    rintro ⟨lead, isLead, -⟩
    rw [noLead] at isLead
    cases isLead

/-- Nothing longer than what fits behind a first byte is the beginning of a
character. -/
theorem isLongestFront_of_explains {first : UInt8} {lead : Utf8Lead} {tail rest : List UInt8}
    {reason : Utf8Reason} (isLead : Utf8Lead.ofByte? first = some lead)
    (admits : lead.Admits tail) (short : tail.length < lead.following)
    (explains : reason.Explains lead.following lead.low lead.high tail rest) :
    IsLongestFront BreaksChar (first :: tail) (first :: (tail ++ rest)) where
  isPrefix := List.cons_prefix_cons.mpr ⟨rfl, List.prefix_append tail rest⟩
  holds := (breaksChar_iff first tail).mpr ⟨lead, isLead, admits, short⟩
  longest := by
    rintro (_ | ⟨b, other⟩) isPrefix breaks
    · exact Nat.zero_le _
    · obtain ⟨rfl, otherPrefix⟩ := List.cons_prefix_cons.mp isPrefix
      obtain ⟨lead', isLead', fits, -⟩ := (breaksChar_iff _ other).mp breaks
      cases isLead.symm.trans isLead'
      apply Nat.succ_le_succ
      by_contra longer
      cases reason with
      | invalidStart => exact explains
      | unexpectedEnd =>
          obtain rfl : rest = [] := explains
          rw [List.append_nil] at otherPrefix
          exact longer otherPrefix.length_le
      | invalidContinuation =>
          obtain ⟨next, isNext, unfit⟩ := explains
          obtain ⟨later, rfl⟩ := List.head?_eq_some_iff.mp isNext
          -- All that is longer takes in the byte that does not fit.
          have oneMore : tail ++ [next] <+: other := by
            apply List.prefix_of_prefix_length_le _ otherPrefix
            · simp only [List.length_append, List.length_singleton]
              omega
            · exact ⟨later, by simp⟩
          obtain ⟨behind, rfl⟩ := oneMore
          exact unfit fits.of_append

theorem refused_of_readScalar {first : UInt8} {rest : List UInt8} {length : Nat}
    {reason : Utf8Reason} (failed : readScalar first rest = .error (length, reason)) :
    ∃ part, Refused (first :: rest) part reason ∧ part.length = length := by
  unfold readScalar at failed
  split at failed
  · rename_i noLead
    cases failed
    refine ⟨[first], .start ?_ (not_breaksChar_of_no_lead noLead), rfl⟩
    exact ⟨rest, rfl⟩
  · rename_i lead isLead
    obtain ⟨tail, later, rfl, admits, short, rfl, explains⟩ := explains_of_readContinuation failed
    have longest := isLongestFront_of_explains isLead admits short explains
    refine ⟨first :: tail, ?_, Nat.add_comm _ _⟩
    cases reason with
    | invalidStart => exact explains.elim
    | unexpectedEnd =>
        obtain rfl : later = [] := explains
        rw [List.append_nil] at longest ⊢
        exact .ended (List.cons_ne_nil _ _) longest
    | invalidContinuation =>
        obtain ⟨next, isNext, -⟩ := explains
        obtain ⟨later, rfl⟩ := List.head?_eq_some_iff.mp isNext
        refine .broken (List.cons_ne_nil _ _) longest ?_
        simp

theorem utf8EncodeChar_append_inj {c d : Char} {bytes bytes' : List UInt8}
    (same : String.utf8EncodeChar c ++ bytes = String.utf8EncodeChar d ++ bytes') :
    c = d ∧ bytes = bytes' := by
  obtain ⟨first, rest, split, read⟩ := readScalar_utf8EncodeChar c bytes
  obtain ⟨first', rest', split', read'⟩ := readScalar_utf8EncodeChar d bytes'
  cases split.symm.trans (same.trans split')
  obtain ⟨number, remaining⟩ := Prod.mk.inj (Except.ok.inj (read.symm.trans read'))
  exact ⟨Char.toNat_inj.mp number, remaining⟩

/-- Where no character stands behind a text, any text in front is part of it. -/
theorem prefix_of_encodeUtf8_prefix {s t : List Char} {rest : List UInt8}
    (noChar : ∀ c, ¬ String.utf8EncodeChar c <+: rest)
    (isPrefix : encodeUtf8 t <+: encodeUtf8 s ++ rest) : t <+: s := by
  induction t generalizing s with
  | nil => exact List.nil_prefix
  | cons c t inductionHypothesis =>
      obtain ⟨behind, whole⟩ := isPrefix
      rw [encodeUtf8_cons, List.append_assoc] at whole
      cases s with
      | nil => exact absurd ⟨_, whole⟩ (noChar c)
      | cons d s =>
          rw [encodeUtf8_cons, List.append_assoc] at whole
          obtain ⟨rfl, rest⟩ := utf8EncodeChar_append_inj whole
          exact List.cons_prefix_cons.mpr ⟨rfl, inductionHypothesis ⟨behind, rest⟩⟩

theorem isLongestFront_encodeUtf8 (s : List Char) {rest : List UInt8}
    (noChar : ∀ c, ¬ String.utf8EncodeChar c <+: rest) :
    IsLongestFront IsWellFormed (encodeUtf8 s) (encodeUtf8 s ++ rest) where
  isPrefix := List.prefix_append _ _
  holds := ⟨s, rfl⟩
  longest := by
    rintro other isPrefix ⟨t, rfl⟩
    obtain ⟨u, rfl⟩ := prefix_of_encodeUtf8_prefix noChar isPrefix
    simp [encodeUtf8]

/-- Where the reading of a character fails, none stands. -/
theorem no_char_of_readScalar {first : UInt8} {rest : List UInt8} {refusal : Nat × Utf8Reason}
    (failed : readScalar first rest = .error refusal) (c : Char) :
    ¬ String.utf8EncodeChar c <+: first :: rest := by
  rintro ⟨behind, whole⟩
  obtain ⟨first', rest', split, read⟩ := readScalar_utf8EncodeChar c behind
  cases whole.symm.trans split
  cases failed.symm.trans read

/-- What is decoded was well-formed, and its text is what was written. -/
theorem eq_encodeUtf8_of_decodeFrom {start : Nat} {done : Array Char} {bytes : List UInt8}
    {s : List Char} (decoded : decodeFrom start done bytes = .ok s) :
    ∃ t, s = done.toList ++ t ∧ bytes = encodeUtf8 t := by
  fun_induction decodeFrom start done bytes with
  | case1 start done =>
      cases decoded
      exact ⟨[], by simp, rfl⟩
  | case2 => cases decoded
  | case3 start done first rest code remaining scalar c inductionHypothesis =>
      obtain ⟨t, rfl, rfl⟩ := inductionHypothesis decoded
      obtain ⟨d, rfl, bytes⟩ := exists_char_of_readScalar scalar
      refine ⟨d :: t, ?_, bytes⟩
      simp [c]

theorem decodeUtf8_eq_ok_iff (bytes : List UInt8) (s : List Char) :
    decodeUtf8 bytes = .ok s ↔ bytes = encodeUtf8 s := by
  constructor
  · intro decoded
    obtain ⟨t, rfl, bytes⟩ := eq_encodeUtf8_of_decodeFrom decoded
    exact bytes
  · rintro rfl
    exact decodeUtf8_encodeUtf8 s

/-- Decoding breaks off where no character stands. -/
theorem refused_of_decodeFrom {start : Nat} {done : Array Char} {bytes : List UInt8}
    {e : Utf8Error} (failed : decodeFrom start done bytes = .error e) :
    ∃ s rest part, bytes = encodeUtf8 s ++ rest ∧ (∀ c, ¬ String.utf8EncodeChar c <+: rest) ∧
      e.start = start + (encodeUtf8 s).length ∧ Refused rest part e.reason ∧
      part.length = e.length ∧ rest.head? = some e.byte := by
  fun_induction decodeFrom start done bytes with
  | case1 => cases failed
  | case2 start done first rest length reason scalar =>
      cases failed
      obtain ⟨part, refused, isLength⟩ := refused_of_readScalar scalar
      exact ⟨[], first :: rest, part, rfl, no_char_of_readScalar scalar, rfl, refused, isLength,
        rfl⟩
  | case3 start done first rest code remaining scalar c inductionHypothesis =>
      obtain ⟨s, rest', part, rfl, noChar, isStart, refusal⟩ := inductionHypothesis failed
      obtain ⟨d, rfl, bytes⟩ := exists_char_of_readScalar scalar
      refine ⟨d :: s, rest', part, ?_, noChar, ?_, refusal⟩
      · rw [bytes, encodeUtf8_cons, List.append_assoc]
      · have size : c.utf8Size = (String.utf8EncodeChar d).length := by simp [c]
        rw [isStart, size, encodeUtf8_cons, List.length_append, Nat.add_assoc]

theorem Refused.isPrefix {bytes part : List UInt8} {reason : Utf8Reason}
    (refused : Refused bytes part reason) : part <+: bytes := by
  cases refused with
  | start isFirst => exact isFirst
  | broken _ longest => exact longest.isPrefix
  | ended => exact List.prefix_rfl

/-- How a message names bytes that stand at a place. -/
def byteRange (start : Nat) (part : List UInt8) : String :=
  match part with
  | [b] => "byte 0x" ++ String.ofList (hexDigits 2 b.toNat) ++ " in position " ++ toString start
  | _ => "bytes in position " ++ toString start ++ "-" ++ toString (start + part.length - 1)

theorem byteRange_of_length_ne_one (start : Nat) {part : List UInt8} (several : part.length ≠ 1) :
    byteRange start part =
      "bytes in position " ++ toString start ++ "-" ++ toString (start + part.length - 1) := by
  unfold byteRange
  split
  · exact absurd rfl several
  · rfl

/-- The message of a failure names the bytes that were refused. -/
theorem message_of_refused {e : Utf8Error} {rest part : List UInt8}
    (refused : Refused rest part e.reason) (length : part.length = e.length)
    (first : rest.head? = some e.byte) :
    e.message =
      "'utf-8' codec can't decode " ++ byteRange e.start part ++ ": " ++ e.reason.message := by
  have range : (if e.length = 1 then
        "byte 0x" ++ String.ofList (hexDigits 2 e.byte.toNat) ++ " in position " ++ toString e.start
      else "bytes in position " ++ toString e.start ++ "-" ++ toString (e.start + e.length - 1)) =
      byteRange e.start part := by
    split
    · rename_i one
      obtain ⟨b, rfl⟩ := List.length_eq_one_iff.mp (length.trans one)
      obtain ⟨later, rfl⟩ := refused.isPrefix
      have same : b = e.byte := by simpa using first
      rw [← same]
      rfl
    · rename_i several
      rw [byteRange_of_length_ne_one e.start (length.trans_ne several), length]
  unfold Utf8Error.message
  dsimp only
  rw [range]

end LexicalPass.Text
