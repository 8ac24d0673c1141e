/-!
Places in a source text.  Lines and columns are counted from one, a column for
each character, and a line feed is the last character of its line.
-/

set_option autoImplicit false

namespace LexicalPass

structure Position where
  line : Int
  column : Int
deriving DecidableEq, Repr

namespace Position

def start : Position := ⟨1, 1⟩

/-- The place right after a character that stands at this one. -/
def after (p : Position) (c : Char) : Position :=
  if c = '\n' then ⟨p.line + 1, 1⟩ else ⟨p.line, p.column + 1⟩

@[simp] theorem after_newline (p : Position) : p.after '\n' = ⟨p.line + 1, 1⟩ := rfl

theorem after_of_ne {c : Char} (notNewline : c ≠ '\n') (p : Position) :
    p.after c = ⟨p.line, p.column + 1⟩ := by
  simp [after, notNewline]

def afterAll (p : Position) (s : List Char) : Position := s.foldl after p

@[simp] theorem afterAll_nil (p : Position) : p.afterAll [] = p := rfl

@[simp] theorem afterAll_cons (p : Position) (c : Char) (s : List Char) :
    p.afterAll (c :: s) = (p.after c).afterAll s := rfl

@[simp] theorem afterAll_append (p : Position) (s t : List Char) :
    p.afterAll (s ++ t) = (p.afterAll s).afterAll t := by
  simp [afterAll]

/-- The place right behind a text that stands at the start of a source: one line
for each line feed in it, one column for each character since the last of them. -/
def behind (s : List Char) : Position where
  line := 1 + s.count '\n'
  column := 1 + (s.reverse.takeWhile (· ≠ '\n')).length

@[simp] theorem behind_nil : behind [] = start := rfl

theorem behind_concat (s : List Char) (c : Char) : behind (s ++ [c]) = (behind s).after c := by
  by_cases newline : c = '\n'
  · simp [behind, newline, Int.add_assoc]
  · simp [behind, after, newline, Int.add_assoc]

/-- The place can be computed character by character. -/
theorem behind_append (s t : List Char) : behind (s ++ t) = (behind s).afterAll t := by
  induction t generalizing s with
  | nil => simp
  | cons c t inductionHypothesis =>
      rw [List.append_cons, inductionHypothesis, behind_concat]
      rfl

end Position

end LexicalPass
