/-!
Character classes.  The first character of a lexical unit decides how the unit
is scanned.  Digits and letters are those of ASCII.
-/

set_option autoImplicit false

namespace LexicalPass

inductive CharClass where
  | newline
  | whitespace
  | quote
  | digit
  | wordStart
  | other
deriving DecidableEq, Repr

/-- Blank characters separate units and mean nothing else: space, tab, carriage
return, form feed and vertical tab. -/
def IsBlank (c : Char) : Prop := c ∈ [' ', '\t', '\r', '\x0c', '\x0b']

instance (c : Char) : Decidable (IsBlank c) := inferInstanceAs (Decidable (_ ∈ _))

def IsWordStart (c : Char) : Prop := c.isAlpha = true ∨ c = '_'

instance (c : Char) : Decidable (IsWordStart c) := inferInstanceAs (Decidable (_ ∨ _))

def IsWordChar (c : Char) : Prop := IsWordStart c ∨ c.isDigit = true

instance (c : Char) : Decidable (IsWordChar c) := inferInstanceAs (Decidable (_ ∨ _))

/-- Numeric literals are runs of digits and points. -/
def IsNumeric (c : Char) : Prop := c.isDigit = true ∨ c = '.'

instance (c : Char) : Decidable (IsNumeric c) := inferInstanceAs (Decidable (_ ∨ _))

namespace CharClass

def all : List CharClass := [newline, whitespace, quote, digit, wordStart, other]

def name : CharClass → String
  | newline => "NEWLINE"
  | whitespace => "WHITESPACE"
  | quote => "QUOTE"
  | digit => "DIGIT"
  | wordStart => "WORD_START"
  | other => "OTHER"

/-- Classes are numbered from one. -/
def number (cls : CharClass) : Nat := all.idxOf cls + 1

def ofChar (c : Char) : CharClass :=
  if c = '\n' then newline
  else if IsBlank c then whitespace
  else if c = '\x22' then quote
  else if c.isDigit then digit
  else if IsWordStart c then wordStart
  else other

@[simp] theorem ofChar_newline : ofChar '\n' = newline := rfl

@[simp] theorem ofChar_quote : ofChar '\x22' = quote := rfl

theorem ofChar_of_isBlank {c : Char} (blank : IsBlank c) : ofChar c = whitespace := by
  simp only [IsBlank, List.mem_cons, List.not_mem_nil, or_false] at blank
  rcases blank with rfl | rfl | rfl | rfl | rfl <;> decide

/-- Letters, digits and underscores are in no class that is looked for earlier. -/
theorem ofChar_of_isWordChar {c : Char} (inWord : IsWordChar c) :
    ofChar c = if c.isDigit then digit else wordStart := by
  have notNewline : c ≠ '\n' := by
    rintro rfl
    revert inWord
    decide
  have notBlank : ¬ IsBlank c := by
    intro blank
    simp only [IsBlank, List.mem_cons, List.not_mem_nil, or_false] at blank
    revert inWord
    rcases blank with rfl | rfl | rfl | rfl | rfl <;> decide
  have notQuote : c ≠ '\x22' := by
    rintro rfl
    revert inWord
    decide
  by_cases isDigit : c.isDigit = true
  · simp [ofChar, notNewline, notBlank, notQuote, isDigit]
  · have start : IsWordStart c := inWord.resolve_right isDigit
    simp [ofChar, notNewline, notBlank, notQuote, isDigit, start]

theorem ofChar_of_isDigit {c : Char} (isDigit : c.isDigit = true) : ofChar c = digit := by
  rw [ofChar_of_isWordChar (.inr isDigit), if_pos isDigit]

theorem not_isDigit_of_isWordStart {c : Char} (start : IsWordStart c) : c.isDigit = false := by
  rcases start with letter | rfl
  · -- The digits end below the capitals, and these below the small letters.
    have above : 'A'.val ≤ c.val := by
      rcases Bool.or_eq_true_iff.mp letter with capital | small
      · have bounds : 'A'.val ≤ c.val ∧ c.val ≤ 'Z'.val := of_decide_eq_true capital
        exact bounds.1
      · have bound : 'a'.val ≤ c.val := of_decide_eq_true (Bool.and_eq_true_iff.mp small).1
        exact UInt32.le_trans (by decide) bound
    apply Bool.eq_false_iff.mpr
    intro digit
    have bounds : '0'.val ≤ c.val ∧ c.val ≤ '9'.val := by simpa [Char.isDigit] using digit
    exact absurd (UInt32.le_trans above bounds.2) (by decide)
  · decide

theorem ofChar_of_isWordStart {c : Char} (start : IsWordStart c) : ofChar c = wordStart := by
  have notDigit : ¬ c.isDigit = true := by simp [not_isDigit_of_isWordStart start]
  rw [ofChar_of_isWordChar (.inl start), if_neg notDigit]

/-- A text that is not a single character belongs to no scanner. -/
def ofText (s : String) : CharClass :=
  match s.toList with
  | [c] => ofChar c
  | _ => other

@[simp] theorem ofText_singleton (c : Char) : ofText (String.singleton c) = ofChar c := by
  simp [ofText]

end CharClass

end LexicalPass
