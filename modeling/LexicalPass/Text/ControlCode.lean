/-!
Control codes in text for the terminal.  Codes that move the carriage or ring
the bell are left out of messages, and control sequences, such as those that set
colours, are left out where no terminal obeys them.
-/

set_option autoImplicit false

namespace LexicalPass.Text

/-- The bell, the backspace, the vertical tab, the form feed and the carriage return. -/
def movesCarriage (c : Char) : Bool := c.toNat ∈ [7, 8, 11, 12, 13]

def dropCarriageCodes (s : List Char) : List Char := s.filter fun c => !movesCarriage c

def escapeCharacter : Char := '\x1b'

def isParameter (c : Char) : Bool := '0' ≤ c && c ≤ '?'

def isIntermediate (c : Char) : Bool := ' ' ≤ c && c ≤ '/'

def isFinal (c : Char) : Bool := '@' ≤ c && c ≤ '~'

/-- What follows a control sequence at the front of a text: an escape, an
opening bracket, parameters, intermediate characters and a final one. -/
def afterSequence? (s : List Char) : Option (List Char) :=
  if [escapeCharacter, '['] <+: s then
    match ((s.drop 2).dropWhile isParameter).dropWhile isIntermediate with
    | final :: rest => if isFinal final then some rest else none
    | [] => none
  else none

theorem length_of_afterSequence? {s rest : List Char} (found : afterSequence? s = some rest) :
    rest.length < s.length := by
  have shorter : (((s.drop 2).dropWhile isParameter).dropWhile isIntermediate).length ≤ s.length :=
    (((List.dropWhile_suffix _).trans (List.dropWhile_suffix _)).trans
      (List.drop_suffix 2 s)).length_le
  unfold afterSequence? at found
  split at found
  · split at found
    · rename_i dropped
      rw [dropped] at shorter
      split at found
      · simp only [Option.some.injEq] at found
        subst found
        exact shorter
      · simp at found
    · simp at found
  · simp at found

def dropControlSequences (s : List Char) : List Char :=
  match s with
  | [] => []
  | c :: t =>
      match _found : afterSequence? (c :: t) with
      | some rest => dropControlSequences rest
      | none => c :: dropControlSequences t
termination_by s.length
decreasing_by
  · exact length_of_afterSequence? _found
  · simp

end LexicalPass.Text
