/-!
Similarity of names.  Two names are compared by their longest common run of
characters, and then by what stands before it and what stands after it in both.
-/

set_option autoImplicit false

namespace LexicalPass.CommandLine

def commonStart : List Char → List Char → Nat
  | a :: as, b :: bs => if a = b then commonStart as bs + 1 else 0
  | _, _ => 0

/-- A run of characters that two texts have in common, by where it starts in each. -/
structure CommonRun where
  first : Nat
  second : Nat
  size : Nat
deriving DecidableEq, Repr

/-- The longer of two runs, and the earlier of two as long. -/
def CommonRun.prefer (earlier later : CommonRun) : CommonRun :=
  if earlier.size < later.size then later else earlier

/-- The longest common run that starts with the first text, which stands at `i`,
and somewhere in the second, which stands at `j`. -/
def longestRunAt (i : Nat) (a : List Char) (best : CommonRun) : Nat → List Char → CommonRun
  | _, [] => best
  | j, b :: bs =>
      longestRunAt i a (best.prefer ⟨i, j, commonStart a (b :: bs)⟩) (j + 1) bs

def longestRunFrom (b : List Char) (best : CommonRun) : Nat → List Char → CommonRun
  | _, [] => best
  | i, a :: as => longestRunFrom b (longestRunAt i (a :: as) best 0 b) (i + 1) as

/-- The longest common run, the first of several in the first text and then in
the second. -/
def longestRun (a b : List Char) : CommonRun := longestRunFrom b ⟨0, 0, 0⟩ 0 a

/-- The number of characters that two texts share. -/
def sharedLength (a b : List Char) : Nat :=
  match longestRun a b with
  | ⟨first, second, size⟩ =>
      if size = 0 ∨ a.length ≤ first then 0
      else
        sharedLength (a.take first) (b.take second) + size +
          sharedLength (a.drop (first + size)) (b.drop (second + size))
termination_by a.length
decreasing_by
  all_goals simp only [List.length_take, List.length_drop]; omega

/-- How much of two names is shared, as a part of their lengths together. -/
structure Likeness where
  name : String
  shared : Nat
  total : Nat
deriving DecidableEq, Repr

namespace Likeness

def of (given name : String) : Likeness where
  name := name
  shared := sharedLength name.toList given.toList
  total := name.length + given.length

/-- Two names are close when three fifths of their characters are shared. -/
def Close (l : Likeness) : Prop := 3 * l.total ≤ 5 * (2 * l.shared)

instance (l : Likeness) : Decidable l.Close := inferInstanceAs (Decidable (_ ≤ _))

/-- Of two names with the same share the later in the alphabet goes first. -/
def goesBefore (l m : Likeness) : Bool :=
  m.shared * l.total < l.shared * m.total ||
    (m.shared * l.total == l.shared * m.total && decide (m.name ≤ l.name))

end Likeness

/-- The three names closest to the one given, in the order of the alphabet. -/
def closest (names : List String) (given : String) : List String :=
  let close := (names.map (Likeness.of given)).filter (·.Close)
  let best := (close.mergeSort Likeness.goesBefore).take 3
  (best.map Likeness.name).mergeSort fun a b => decide (a ≤ b)

end LexicalPass.CommandLine
