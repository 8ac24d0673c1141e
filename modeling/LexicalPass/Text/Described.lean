import LexicalPass.Text.Quoted

/-!
How a message names a character: between apostrophes when it shows, and by its
code point otherwise.
-/

set_option autoImplicit false

namespace LexicalPass.Text

/-- Code points are written with at least four digits. -/
def codePointWidth (code : Nat) : Nat :=
  if code < 0x10000 then 4 else if code < 0x100000 then 5 else 6

def codePoint (c : Char) : String :=
  "U+" ++ String.ofList ((hexDigits (codePointWidth c.toNat) c.toNat).map Char.toUpper)

def between (mark : Char) (s : List Char) : String := String.ofList (mark :: s ++ [mark])

/-- A text shows itself when all of it is printable and some of it is no blank. -/
def Shows (s : List Char) : Prop :=
  s.all isPrintable = true ∧ (s = [] ∨ s.any (· != ' ') = true)

instance (s : List Char) : Decidable (Shows s) := inferInstanceAs (Decidable (_ ∧ _))

structure DescribeError where
  length : Nat
deriving DecidableEq, Repr

def DescribeError.message (e : DescribeError) : String :=
  "ord() expected a character, but string of length " ++ toString e.length ++ " found"

/-- Only a single character has a code point, so a longer text that does not
show itself has no description. -/
def describe (s : String) : Except DescribeError String :=
  if Shows s.toList then .ok (between apostrophe s.toList)
  else
    match s.toList with
    | [c] => .ok (codePoint c)
    | text => .error ⟨text.length⟩

def describeChar (c : Char) : String :=
  if isPrintable c = true ∧ c ≠ ' ' then between apostrophe [c] else codePoint c

theorem shows_singleton (c : Char) : Shows [c] ↔ isPrintable c = true ∧ c ≠ ' ' := by
  simp [Shows]

theorem describe_singleton (c : Char) :
    describe (String.singleton c) = .ok (describeChar c) := by
  simp only [describe, describeChar, String.toList_singleton, shows_singleton]
  split <;> rfl

end LexicalPass.Text
