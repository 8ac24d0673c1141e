import LexicalPass.Text.CellWidth

/-!
Tab stops.  A tab becomes one blank at least, and as many as it takes to reach
the next stop.
-/

set_option autoImplicit false

namespace LexicalPass.Text

/-- The distance between two tab stops. -/
def tabSize : Nat := 8

/-- The first tab stop that is not before a cell. -/
def tabStopFrom (cell : Nat) : Nat := (cell + (tabSize - 1)) / tabSize * tabSize

/-- Join the parts of a line that tabs divide, the first of which starts at a cell. -/
def joinAtStops (start : Nat) : List (List Char) → List Char
  | [] => []
  | [part] => part
  | part :: parts =>
      let ended := part ++ [' ']
      let reached := start + cellLength ended
      let stop := tabStopFrom reached
      ended ++ List.replicate (stop - reached) ' ' ++ joinAtStops stop parts

def expandLine (line : List Char) : List Char := joinAtStops 0 (line.splitOn '\t')

/-- Each line of a text has its tab stops counted from its own start. -/
def expandTabs (s : List Char) : List Char :=
  List.intercalate ['\n'] ((s.splitOn '\n').map expandLine)

end LexicalPass.Text
