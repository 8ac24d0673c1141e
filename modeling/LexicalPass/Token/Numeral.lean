/-!
Numerals.  A run of digits and points that starts with a digit is an integer
when it has no point and a decimal when it has one with digits on both sides.
-/

set_option autoImplicit false

namespace LexicalPass

inductive Numeral.Flaw where
  | manyPoints
  | trailingPoint
deriving DecidableEq, Repr

def Numeral.Flaw.reason : Numeral.Flaw → String
  | manyPoints => "A numeric literal may contain at most one decimal point."
  | trailingPoint => "A decimal point must be followed by at least one digit."

inductive Numeral where
  | integer
  | decimal
  | malformed (flaw : Numeral.Flaw)
deriving DecidableEq, Repr

namespace Numeral

def EndsInDigit (s : List Char) : Prop := ∃ c, s.getLast? = some c ∧ c.isDigit = true

instance (s : List Char) : Decidable (EndsInDigit s) :=
  match last : s.getLast? with
  | none => .isFalse (by simp [EndsInDigit, last])
  | some c =>
      if digit : c.isDigit = true then .isTrue ⟨c, last, digit⟩
      else .isFalse (by simp [EndsInDigit, last, digit])

def ofRun (s : List Char) : Numeral :=
  let points := s.count '.'
  if points = 0 then integer
  else if points = 1 ∧ EndsInDigit s then decimal
  else if 1 < points then malformed .manyPoints
  else malformed .trailingPoint

end Numeral

end LexicalPass
