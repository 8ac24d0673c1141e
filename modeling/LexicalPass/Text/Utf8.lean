import LexicalPass.Text.Hexadecimal

/-!
Reading UTF-8.  Only the shortest form of a scalar value is accepted.  A failure
names the bytes that stand where a scalar value should: the longest beginning of
one, or a single byte that begins none.
-/

set_option autoImplicit false

namespace LexicalPass.Text

inductive Utf8Reason where
  | invalidStart
  | invalidContinuation
  | unexpectedEnd
deriving DecidableEq, Repr

def Utf8Reason.message : Utf8Reason → String
  | .invalidStart => "invalid start byte"
  | .invalidContinuation => "invalid continuation byte"
  | .unexpectedEnd => "unexpected end of data"

structure Utf8Error where
  /-- The first bad byte, which stands at `start`. -/
  byte : UInt8
  start : Nat
  /-- How many bytes the error covers. -/
  length : Nat
  reason : Utf8Reason
deriving DecidableEq, Repr

def Utf8Error.message (e : Utf8Error) : String :=
  let span :=
    if e.length = 1 then
      "byte 0x" ++ String.ofList (hexDigits 2 e.byte.toNat) ++ " in position " ++ toString e.start
    else
      "bytes in position " ++ toString e.start ++ "-" ++ toString (e.start + e.length - 1)
  "'utf-8' codec can't decode " ++ span ++ ": " ++ e.reason.message

/-- What a first byte promises: how many bytes follow it, and the range of the
next one.  The range is narrower than that of a continuation byte where a wider
one would let in long forms, surrogates or values past the last code point. -/
structure Utf8Lead where
  following : Nat
  low : UInt8
  high : UInt8
  bits : Nat
deriving DecidableEq, Repr

def Utf8Lead.ofByte? (b : UInt8) : Option Utf8Lead :=
  if b < 0x80 then some ⟨0, 0x80, 0xBF, b.toNat⟩
  else if b < 0xC2 then none
  else if b < 0xE0 then some ⟨1, 0x80, 0xBF, b.toNat - 0xC0⟩
  else if b = 0xE0 then some ⟨2, 0xA0, 0xBF, 0⟩
  else if b = 0xED then some ⟨2, 0x80, 0x9F, 0xD⟩
  else if b < 0xF0 then some ⟨2, 0x80, 0xBF, b.toNat - 0xE0⟩
  else if b = 0xF0 then some ⟨3, 0x90, 0xBF, 0⟩
  else if b < 0xF4 then some ⟨3, 0x80, 0xBF, b.toNat - 0xF0⟩
  else if b = 0xF4 then some ⟨3, 0x80, 0x8F, 4⟩
  else none

/-- Read the bytes that a first byte promised, of which `seen` bytes, the first
among them, are behind.  The result is the code point and the remaining bytes. -/
def readContinuation (seen : Nat) : (following : Nat) → (low high : UInt8) → (bits : Nat) →
    List UInt8 → Except (Nat × Utf8Reason) (Nat × List UInt8)
  | 0, _, _, bits, bytes => .ok (bits, bytes)
  | _ + 1, _, _, _, [] => .error (seen, .unexpectedEnd)
  | following + 1, low, high, bits, b :: bytes =>
      if low ≤ b ∧ b ≤ high then
        readContinuation (seen + 1) following 0x80 0xBF (bits * 64 + b.toNat % 64) bytes
      else .error (seen, .invalidContinuation)

theorem length_of_readContinuation {seen following : Nat} {low high : UInt8} {bits : Nat}
    {bytes : List UInt8} {result : Nat × List UInt8}
    (read : readContinuation seen following low high bits bytes = .ok result) :
    result.2.length ≤ bytes.length := by
  induction following generalizing seen low high bits bytes with
  | zero =>
      simp only [readContinuation, Except.ok.injEq] at read
      simp [← read]
  | succ following inductionHypothesis =>
      cases bytes with
      | nil => simp [readContinuation] at read
      | cons b bytes =>
          simp only [readContinuation] at read
          split at read
          · exact Nat.le_succ_of_le (inductionHypothesis read)
          · simp at read

/-- Read the scalar value at the front of a text that starts with `first`. -/
def readScalar (first : UInt8) (bytes : List UInt8) :
    Except (Nat × Utf8Reason) (Nat × List UInt8) :=
  match Utf8Lead.ofByte? first with
  | none => .error (1, .invalidStart)
  | some lead => readContinuation 1 lead.following lead.low lead.high lead.bits bytes

theorem length_of_readScalar {first : UInt8} {bytes : List UInt8} {result : Nat × List UInt8}
    (read : readScalar first bytes = .ok result) : result.2.length ≤ bytes.length := by
  unfold readScalar at read
  split at read
  · simp at read
  · exact length_of_readContinuation read

/-- Decode from byte `start` on, after the characters `done`. -/
def decodeFrom (start : Nat) (done : Array Char) (bytes : List UInt8) :
    Except Utf8Error (List Char) :=
  match bytes with
  | [] => .ok done.toList
  | first :: rest =>
      match _scalar : readScalar first rest with
      | .error (length, reason) => .error ⟨first, start, length, reason⟩
      | .ok (code, remaining) =>
          let c := Char.ofNat code
          decodeFrom (start + c.utf8Size) (done.push c) remaining
termination_by bytes.length
decreasing_by
  have shorter := length_of_readScalar _scalar
  simp only [List.length_cons] at shorter ⊢
  omega

def decodeUtf8 (bytes : List UInt8) : Except Utf8Error (List Char) := decodeFrom 0 #[] bytes

/-- The byte order mark that a text may start with. -/
def byteOrderMark : List UInt8 := [0xEF, 0xBB, 0xBF]

/-- Drop one mark.  Bytes that end within the mark hold no text. -/
def dropByteOrderMark (bytes : List UInt8) : List UInt8 :=
  if byteOrderMark.isPrefixOf bytes then bytes.drop byteOrderMark.length
  else if bytes.isPrefixOf byteOrderMark then []
  else bytes

end LexicalPass.Text
