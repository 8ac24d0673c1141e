import LexicalPass.CharClass
import LexicalPass.Cursor

/-!
Scanners.  Each reads on after the first character of a unit, collects the text
of the unit and leaves the cursor before the first character that is not part
of it.
-/

set_option autoImplicit false

namespace LexicalPass.Cursor

/-- Read a string literal up to its closing quote.  Without one the result is
`none` and all the remaining text has been collected. -/
def scanString (c : Cursor) (collected : String) : String × Option Cursor :=
  match _advanced : c.advance with
  | (none, _) => (collected, none)
  | (some ch, next) =>
      if ch = '\x22' then (collected, some next) else scanString next (collected.push ch)
termination_by c.rest.length
decreasing_by
  have shorter := congrArg List.length (rest_of_advance _advanced)
  simp only [List.length_cons] at shorter
  omega

/-- Read digits and points.  The character that ends the run was read too and
is given back. -/
def scanNumber (c : Cursor) (collected : String) : Except PushbackError (String × Cursor) :=
  match _advanced : c.advance with
  | (none, next) => .ok (collected, next)
  | (some ch, next) =>
      if IsNumeric ch then scanNumber next (collected.push ch)
      else
        match next.pushback (some (String.singleton ch)) with
        | .ok back => .ok (collected, back)
        | .error e => .error e
termination_by c.rest.length
decreasing_by
  have shorter := congrArg List.length (rest_of_advance _advanced)
  simp only [List.length_cons] at shorter
  omega

/-- What was looked at is handed out next. -/
theorem advance_of_peek {c next : Cursor} {ch : Char} (peeked : c.peek = .ok (some ch, next)) :
    ∃ after, next.advance = (some ch, after) ∧ c.rest = ch :: after.rest := by
  obtain ⟨same, head⟩ := rest_of_peek peeked
  cases advanced : next.advance with
  | mk taken after =>
      cases taken with
      | none =>
          have empty := (rest_of_advance_none advanced).1
          rw [same] at empty
          simp [empty] at head
      | some taken =>
          have handed := rest_of_advance advanced
          rw [same] at handed
          rw [handed, List.head?_cons, Option.some.injEq] at head
          cases head
          exact ⟨after, rfl, handed⟩

theorem isSome_advance_of_peek {c next : Cursor} {ch : Char}
    (peeked : c.peek = .ok (some ch, next)) : next.advance.1.isSome = true := by
  obtain ⟨after, advanced, _⟩ := advance_of_peek peeked
  rw [advanced]
  rfl

theorem rest_advance_of_peek {c next : Cursor} {ch : Char} (peeked : c.peek = .ok (some ch, next)) :
    next.advance.2.rest.length < c.rest.length := by
  obtain ⟨after, advanced, handed⟩ := advance_of_peek peeked
  simp [advanced, handed]

/-- Read letters, digits and underscores.  Each is looked at before it is read, and what
is then read is collected. -/
def scanWord (c : Cursor) (collected : String) : Except PushbackError (String × Cursor) :=
  match _peeked : c.peek with
  | .error e => .error e
  | .ok (none, next) => .ok (collected, next)
  | .ok (some ch, next) =>
      if IsWordChar ch then
        let taken := next.advance.1.get (isSome_advance_of_peek _peeked)
        scanWord next.advance.2 (collected.push taken)
      else .ok (collected, next)
termination_by c.rest.length
decreasing_by exact rest_advance_of_peek _peeked

theorem rest_le_of_scanString {c next : Cursor} {collected body : String}
    (scanned : c.scanString collected = (body, some next)) :
    next.rest.length ≤ c.rest.length := by
  fun_induction scanString c collected with
  | case1 => simp at scanned
  | case2 c collected behind advanced =>
      obtain ⟨rfl, rfl⟩ := scanned
      simp [rest_of_advance advanced]
  | case3 c collected ch behind advanced other inductionHypothesis =>
      have shorter := inductionHypothesis scanned
      simp only [rest_of_advance advanced, List.length_cons]
      omega

theorem rest_le_of_scanNumber {c next : Cursor} {collected lexeme : String}
    (scanned : c.scanNumber collected = .ok (lexeme, next)) :
    next.rest.length ≤ c.rest.length := by
  fun_induction scanNumber c collected with
  | case1 c collected behind advanced =>
      obtain ⟨rfl, rfl⟩ := scanned
      simp [(rest_of_advance_none advanced).2]
  | case2 c collected ch behind advanced numeric inductionHypothesis =>
      have shorter := inductionHypothesis scanned
      simp only [rest_of_advance advanced, List.length_cons]
      omega
  | case3 c collected ch behind advanced other back taken =>
      obtain ⟨rfl, rfl⟩ := scanned
      obtain ⟨_, _, restored⟩ := rest_of_pushback taken
      simp [rest_of_advance advanced, restored]
  | case4 => simp at scanned

theorem rest_le_of_scanWord {c next : Cursor} {collected lexeme : String}
    (scanned : c.scanWord collected = .ok (lexeme, next)) :
    next.rest.length ≤ c.rest.length := by
  fun_induction scanWord c collected with
  | case1 => simp at scanned
  | case2 c collected behind peeked =>
      obtain ⟨rfl, rfl⟩ := scanned
      simp [(rest_of_peek peeked).1]
  | case3 c collected ch behind peeked word taken inductionHypothesis =>
      have shorter := inductionHypothesis scanned
      have less := rest_advance_of_peek peeked
      omega
  | case4 c collected ch behind peeked other =>
      obtain ⟨rfl, rfl⟩ := scanned
      simp [(rest_of_peek peeked).1]

end LexicalPass.Cursor
