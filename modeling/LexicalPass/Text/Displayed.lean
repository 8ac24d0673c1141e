import LexicalPass.Text.ControlCode
import LexicalPass.Text.EmojiCode
import LexicalPass.Text.TabStop

/-!
Text as a message or a title shows it: emoji codes are replaced, codes that
would move the carriage are left out, and tabs become blanks.

In a title a word in square brackets stands apart from the text around it, so
no emoji code crosses its brackets.  A backslash before a bracket that opens no
such word is left out.

A line that is wider than the terminal would also lose the blanks at its end.  That
is not shown here: no line of a message ends in a blank, unless the name of a file
has a line feed in it.
-/

set_option autoImplicit false

namespace LexicalPass.Text

def displayMessage (s : List Char) : List Char :=
  expandTabs (dropCarriageCodes (replaceEmojiCodes s))

/-- The characters that a bracketed word may start with. -/
def opensBracketed (c : Char) : Bool := c.isLower || c = '#' || c = '/' || c = '@'

def isBracket (c : Char) : Bool := c = '[' || c = ']'

/-- A bracketed word at the front of a text, and the text after it. -/
def bracketed? (s : List Char) : Option (List Char × List Char) :=
  if s.head? = some '[' ∧ (s.drop 1).head?.any opensBracketed then
    match (s.drop 1).dropWhile fun c => !isBracket c with
    | ']' :: rest => some ('[' :: (s.drop 1).takeWhile (fun c => !isBracket c) ++ [']'], rest)
    | _ => none
  else none

theorem length_of_bracketed? {s word rest : List Char} (found : bracketed? s = some (word, rest)) :
    rest.length < s.length := by
  have shorter := (List.dropWhile_suffix (fun c => !isBracket c) (l := s.drop 1)).length_le
  simp only [List.length_drop] at shorter
  unfold bracketed? at found
  split at found
  · split at found
    · rename_i dropped
      rw [dropped] at shorter
      simp only [Option.some.injEq, Prod.mk.injEq] at found
      obtain ⟨_, rfl⟩ := found
      simp only [List.length_cons] at shorter
      omega
    · simp at found
  · simp at found

def isBackslash (c : Char) : Bool := c = '\\'

/-- The pieces of a title that stand apart: bracketed words, the backslashes
right before them, and the text between.  The text before `s` that belongs to
its first piece is given in reverse. -/
def piecesAfter (before : List Char) (s : List Char) : List (List Char) :=
  match s with
  | [] => [before.reverse]
  | c :: t =>
      match _found : bracketed? ((c :: t).dropWhile isBackslash) with
      | some (word, rest) =>
          before.reverse :: (c :: t).takeWhile isBackslash :: word :: piecesAfter [] rest
      | none => piecesAfter (c :: before) t
termination_by s.length
decreasing_by
  · have shorter := (List.dropWhile_suffix isBackslash (l := c :: t)).length_le
    have rest_shorter := length_of_bracketed? _found
    omega
  · simp

def pieces (s : List Char) : List (List Char) := piecesAfter [] s

def dropBracketEscapes : List Char → List Char
  | '\\' :: '[' :: s => '[' :: dropBracketEscapes s
  | c :: s => c :: dropBracketEscapes s
  | [] => []

def displayTitle (s : List Char) : List Char :=
  let shown := (pieces s).flatMap fun piece => replaceEmojiCodes (dropBracketEscapes piece)
  expandTabs (dropCarriageCodes shown)

end LexicalPass.Text
