import LexicalPass.Text.DoubleWidth
import LexicalPass.Text.ZeroWidth

/-!
Width of text in terminal cells.  A character takes no cell, one or two.  Two
characters act on their neighbours: a selector asks for the pictograph of the
symbol before it, and a joiner draws the character after it into the one before.
-/

set_option autoImplicit false

namespace LexicalPass.Text

def cellWidth (c : Char) : Nat :=
  if CharRange.covers zeroWidth c.toNat then 0
  else if CharRange.covers doubleWidth c.toNat then 2
  else 1

def joiner : Char := '\u200d'

def pictographSelector : Char := '\ufe0f'

def growsWhenSelected (c : Char) : Bool := CharRange.covers pictographic c.toNat

/-- The measure of a text read from left to right. -/
structure Measure where
  cells : Nat := 0
  /-- The last character that took cells, until a selector has acted on it. -/
  last : Option Char := none
  /-- Whether a joiner waits for the character it draws in. -/
  joins : Bool := false
deriving DecidableEq, Repr

namespace Measure

def add (m : Measure) (c : Char) : Measure :=
  if m.joins then { m with joins := false }
  else if c = joiner then { m with joins := true }
  else if c = pictographSelector then
    { m with cells := m.cells + (if m.last.any growsWhenSelected then 1 else 0), last := none }
  else if cellWidth c = 0 then m
  else { m with cells := m.cells + cellWidth c, last := some c }

end Measure

def cellLength (s : List Char) : Nat := (s.foldl Measure.add {}).cells

@[simp] theorem cellLength_nil : cellLength [] = 0 := rfl

/-- The characters at the front of a text that belong to the character before
it, and the text after them. -/
def splitAttached : List Char → List Char × List Char
  | [] => ([], [])
  | [c] => if c = joiner ∨ cellWidth c = 0 then ([c], []) else ([], [c])
  | c :: d :: s =>
      if c = joiner then
        let (attached, rest) := splitAttached s
        (c :: d :: attached, rest)
      else if cellWidth c = 0 then
        let (attached, rest) := splitAttached (d :: s)
        (c :: attached, rest)
      else ([], c :: d :: s)

theorem splitAttached_append (s : List Char) :
    (splitAttached s).1 ++ (splitAttached s).2 = s := by
  fun_induction splitAttached s <;> simp_all

theorem length_splitAttached_le (s : List Char) : (splitAttached s).2.length ≤ s.length := by
  have whole := congrArg List.length (splitAttached_append s)
  simp only [List.length_append] at whole
  omega

/-- The text brought to exactly `width` cells from the front.  A character of
two cells that would cross the edge leaves one blank cell in its place. -/
def fitCells (width : Nat) (s : List Char) : List Char :=
  match s with
  | [] => List.replicate width ' '
  | c :: s =>
      let glyph := c :: (splitAttached s).1
      if cellLength glyph ≤ width then
        glyph ++ fitCells (width - cellLength glyph) (splitAttached s).2
      else if width = 0 then []
      else [' ']
termination_by s.length
decreasing_by
  have shorter := length_splitAttached_le s
  simp only [List.length_cons]
  omega

/-- A text too long for `width` cells is cut, with an ellipsis in its last cell. -/
def abridge (width : Nat) (s : List Char) : List Char :=
  if cellLength s ≤ width then s
  else fitCells (width - 1) s ++ ['…']

end LexicalPass.Text
