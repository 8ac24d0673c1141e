import LexicalPass.Cursor.Scan

/-!
What the scanners do, said through the text that a cursor still has to read.
No scanner is refused by the cursor, and each leaves it right behind the unit,
with the first character after the unit in the slot if that was looked at.
-/

set_option autoImplicit false

namespace LexicalPass.Cursor

theorem advance_nil {c : Cursor} (atEnd : c.rest = []) : c.advance = (none, c) := by
  simp only [rest, List.append_eq_nil_iff, Option.toList_eq_nil_iff] at atEnd
  simp [advance, atEnd]

theorem advance_cons {c : Cursor} {ch : Char} {s : List Char} (starts : c.rest = ch :: s) :
    c.advance = (some ch, c.past ch s) := by
  -- The character is in the slot or, with nothing there, first in the unread text.
  cases slot : c.slot with
  | some taken =>
      simp only [rest, slot, Option.toList_some, List.singleton_append, List.cons.injEq] at starts
      simp [advance, slot, starts]
  | none =>
      simp only [rest, slot, Option.toList_none, List.nil_append] at starts
      simp [advance, slot, starts]

/-- The cursor before the character `ch`, which it has looked at. -/
def holding (c : Cursor) (ch : Char) (unread : List Char) : Cursor where
  slot := some ch
  unread := unread
  position := c.position
  previous := c.position

@[simp] theorem rest_holding (c : Cursor) (ch : Char) (unread : List Char) :
    (c.holding ch unread).rest = ch :: unread := rfl

/-- What was handed out last can be taken back. -/
theorem pushback_past (c : Cursor) (ch : Char) (unread : List Char) :
    (c.past ch unread).pushback (some (String.singleton ch)) = .ok (c.holding ch unread) := by
  simp [pushback, past, holding]

theorem slot_of_rest_nil {c : Cursor} (atEnd : c.rest = []) : c.slot = none := by
  simp only [rest, List.append_eq_nil_iff, Option.toList_eq_nil_iff] at atEnd
  exact atEnd.1

theorem peek_nil {c : Cursor} (atEnd : c.rest = []) : c.peek = .ok (none, c) := by
  simp [peek, advance_nil atEnd, pushback]

theorem peek_cons {c : Cursor} {ch : Char} {s : List Char} (starts : c.rest = ch :: s) :
    c.peek = .ok (some ch, c.holding ch s) := by
  simp [peek, advance_cons starts, pushback_past]

theorem push_append_ofList (collected : String) (c : Char) (s : List Char) :
    collected.push c ++ String.ofList s = collected ++ String.ofList (c :: s) := by
  apply String.toList_inj.mp
  simp

theorem scanString_nil {c : Cursor} (atEnd : c.rest = []) (collected : String) :
    c.scanString collected = (collected, none) := by
  rw [scanString]
  split
  · rfl
  · rename_i advanced
    rw [advance_nil atEnd] at advanced
    simp at advanced

theorem scanString_cons {c : Cursor} {ch : Char} {s : List Char} (starts : c.rest = ch :: s)
    (collected : String) :
    c.scanString collected =
      if ch = '\x22' then (collected, some (c.past ch s))
      else (c.past ch s).scanString (collected.push ch) := by
  rw [scanString]
  split
  · rename_i advanced
    rw [advance_cons starts] at advanced
    simp at advanced
  · rename_i advanced
    rw [advance_cons starts] at advanced
    cases advanced
    rfl

theorem scanString_open {c : Cursor} {body : List Char} (starts : c.rest = body)
    (absent : '\x22' ∉ body) (collected : String) :
    c.scanString collected = (collected ++ String.ofList body, none) := by
  induction body generalizing c collected with
  | nil => simp [scanString_nil starts]
  | cons ch body inductionHypothesis =>
      simp only [List.mem_cons, not_or] at absent
      rw [scanString_cons starts, if_neg (Ne.symm absent.1),
        inductionHypothesis (rest_past ..) absent.2, push_append_ofList]

theorem scanString_closed {c : Cursor} {body s : List Char} (starts : c.rest = body ++ '\x22' :: s)
    (absent : '\x22' ∉ body) (collected : String) :
    ∃ next, c.scanString collected = (collected ++ String.ofList body, some next) ∧
      next.rest = s ∧ next.position = c.position.afterAll (body ++ ['\x22']) := by
  induction body generalizing c collected with
  | nil =>
      refine ⟨c.past '\x22' s, ?_, rfl, rfl⟩
      rw [scanString_cons starts]
      simp
  | cons ch body inductionHypothesis =>
      simp only [List.mem_cons, not_or] at absent
      obtain ⟨next, scanned, rest, position⟩ :=
        inductionHypothesis (rest_past c ch (body ++ '\x22' :: s)) absent.2 (collected.push ch)
      refine ⟨next, ?_, rest, position⟩
      rw [List.cons_append] at starts
      rw [scanString_cons starts, if_neg (Ne.symm absent.1), scanned, push_append_ofList]

section Run

variable {P : Char → Prop} [DecidablePred P]
  {scan : Cursor → String → Except PushbackError (String × Cursor)}

/-- A scanner collects a run when it reads on through the characters of one sort
and holds the first of another.  Both ways of looking ahead come to this. -/
structure Collects (P : Char → Prop) [DecidablePred P]
    (scan : Cursor → String → Except PushbackError (String × Cursor)) : Prop where
  atEnd : ∀ {c : Cursor}, c.rest = [] → ∀ collected, scan c collected = .ok (collected, c)
  step : ∀ {c : Cursor} {ch : Char} {s : List Char}, c.rest = ch :: s → ∀ collected,
    scan c collected =
      if P ch then scan (c.past ch s) (collected.push ch)
      else .ok (collected, c.holding ch s)

theorem Collects.run (collects : Collects P scan) {c : Cursor} {run s : List Char}
    (starts : c.rest = run ++ s) (inside : ∀ ch ∈ run, P ch) (outside : ∀ ch ∈ s.head?, ¬ P ch)
    (collected : String) :
    ∃ next, scan c collected = .ok (collected ++ String.ofList run, next) ∧
      next.rest = s ∧ next.position = c.position.afterAll run ∧ next.slot = s.head? := by
  induction run generalizing c collected with
  | nil =>
      rw [List.nil_append] at starts
      cases s with
      | nil =>
          refine ⟨c, ?_, starts, rfl, slot_of_rest_nil starts⟩
          rw [collects.atEnd starts]
          simp
      | cons ch s =>
          refine ⟨c.holding ch s, ?_, rfl, rfl, rfl⟩
          rw [collects.step starts, if_neg (outside ch rfl)]
          simp
  | cons ch run inductionHypothesis =>
      rw [List.cons_append] at starts
      rw [List.forall_mem_cons] at inside
      obtain ⟨next, scanned, rest, position, slot⟩ :=
        inductionHypothesis (rest_past c ch (run ++ s)) inside.2 (collected.push ch)
      refine ⟨next, ?_, rest, position, slot⟩
      rw [collects.step starts, if_pos inside.1, scanned, push_append_ofList]

theorem collects_scanNumber : Collects IsNumeric scanNumber where
  atEnd := by
    intro c atEnd collected
    rw [scanNumber]
    split
    · rename_i advanced
      rw [advance_nil atEnd] at advanced
      cases advanced
      rfl
    · rename_i advanced
      rw [advance_nil atEnd] at advanced
      simp at advanced
  step := by
    intro c ch s starts collected
    rw [scanNumber]
    split
    · rename_i advanced
      rw [advance_cons starts] at advanced
      simp at advanced
    · rename_i advanced
      rw [advance_cons starts] at advanced
      cases advanced
      rw [pushback_past]

theorem collects_scanWord : Collects IsWordChar scanWord where
  atEnd := by
    intro c atEnd collected
    rw [scanWord]
    split
    · rename_i peeked
      rw [peek_nil atEnd] at peeked
      simp at peeked
    · rename_i peeked
      rw [peek_nil atEnd] at peeked
      cases peeked
      rfl
    · rename_i peeked
      rw [peek_nil atEnd] at peeked
      simp at peeked
  step := by
    intro c ch s starts collected
    rw [scanWord]
    split
    · rename_i peeked
      rw [peek_cons starts] at peeked
      simp at peeked
    · rename_i peeked
      rw [peek_cons starts] at peeked
      simp at peeked
    · rename_i peeked
      rw [peek_cons starts] at peeked
      cases peeked
      simp only [advance_cons (rest_holding c ch s), Option.get_some]
      rfl

end Run

end LexicalPass.Cursor
