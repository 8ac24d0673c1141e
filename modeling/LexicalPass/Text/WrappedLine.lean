import LexicalPass.Text.CellWidth

/-!
Lines of text in a column.  A word goes to the next line when it does not fit
on the one before it; a word too long for any line has a line of its own.  The
blanks after a word stay with it.
-/

set_option autoImplicit false

namespace LexicalPass.Text

/-- Put a character in front of words.  A blank does not join the word after it. -/
def consWord (c : Char) : List (List Char) → List (List Char)
  | [] => [[c]]
  | word :: words =>
      if c = ' ' ∧ word.head? ≠ some ' ' then [c] :: word :: words
      else (c :: word) :: words

/-- The words of a text, each with the blanks after it. -/
def words (s : List Char) : List (List Char) := s.foldr consWord []

/-- Whether a word can follow a line that has reached the cell `reached`.  The
blanks after the word may hang over the edge. -/
def Fits (width reached : Nat) (word : List Char) : Prop :=
  reached + cellLength (word.takeWhile (· ≠ ' ')) ≤ width

instance (width reached : Nat) (word : List Char) : Decidable (Fits width reached word) :=
  inferInstanceAs (Decidable (_ ≤ _))

/-- Lay words out after a line that has been begun. -/
def layOut (width : Nat) (line : List Char) (reached : Nat) : List (List Char) → List (List Char)
  | [] => [line]
  | word :: words =>
      if line = [] ∨ Fits width reached word then
        layOut width (line ++ word) (reached + cellLength word) words
      else line :: layOut width word (cellLength word) words

/-- Drop blanks from the end while the line has more than `width` characters. -/
def trimOverhang (width : Nat) (line : List Char) : List Char :=
  let hanging := (line.reverse.takeWhile (· = ' ')).length
  line.take (line.length - min hanging (line.length - width))

def wrap (width : Nat) (s : List Char) : List (List Char) :=
  (layOut width [] 0 (words s)).map (trimOverhang width)

end LexicalPass.Text
