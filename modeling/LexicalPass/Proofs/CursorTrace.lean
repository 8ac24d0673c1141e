import LexicalPass.Cursor.Call
import LexicalPass.Proofs.Scanning

/-!
Calls on a cursor, seen from its text.  At every moment the text falls into what
has been consumed and what is left, and each call moves the cut by one character
forward, by one back, or not at all.  Where a character was kept, in the slot or
in the unread text, makes no difference.
-/

set_option autoImplicit false

namespace LexicalPass.Cursor

/-- The cursor stands in the text right behind `consumed`, before all that it has
still to read. -/
structure Divides (text consumed : List Char) (c : Cursor) : Prop where
  whole : text = consumed ++ c.rest
  position : c.position = .behind consumed

/-- What a call on the cursor `c`, which has consumed a text, may answer, which
cursor it may leave, and what that one has consumed. -/
inductive Moves (c : Cursor) : List Char → Call → Reply → Cursor → List Char → Prop
  | advance {consumed : List Char} {ch : Char} {next : Cursor} :
      c.rest = ch :: next.rest →
      Moves c consumed .advance (.char (some ch)) next (consumed ++ [ch])
  | advanceAtEnd {consumed : List Char} :
      c.rest = [] → Moves c consumed .advance (.char none) c consumed
  | peek {consumed : List Char} {next : Cursor} :
      next.rest = c.rest → next.position = c.position →
      Moves c consumed .peek (.char c.rest.head?) next consumed
  | atEnd {consumed : List Char} {next : Cursor} :
      next.rest = c.rest → next.position = c.position →
      Moves c consumed .atEnd (.truth c.rest.isEmpty) next consumed
  | pushback {consumed : List Char} {ch : Char} {next : Cursor} :
      c.last = some ch → next.rest = ch :: c.rest →
      Moves c (consumed ++ [ch]) (.pushback (some (String.singleton ch))) .done next consumed
  | pushbackNothing {consumed : List Char} :
      Moves c consumed (.pushback none) .done c consumed
  | refused {consumed : List Char} {text : String} {error : PushbackError} :
      (∀ ch, c.last = some ch → text ≠ String.singleton ch) →
      Moves c consumed (.pushback (some text)) (.refused error) c consumed
  | drain {consumed : List Char} {next : Cursor} {read : List (Char × Position)} :
      read.map Prod.fst = c.rest → next.rest = [] →
      Moves c consumed .drain (.read read) next (consumed ++ c.rest)

/-- Calls one after the other, with the text divided before and after each. -/
inductive Trace (text : List Char) :
    Cursor → List Char → List Call → List Reply → Cursor → List Char → Prop
  | nil {c : Cursor} {consumed : List Char} :
      Divides text consumed c → Trace text c consumed [] [] c consumed
  | cons {c next final : Cursor} {consumed further all : List Char} {call : Call}
      {calls : List Call} {reply : Reply} {replies : List Reply} :
      Divides text consumed c → Moves c consumed call reply next further →
      Trace text next further calls replies final all →
      Trace text c consumed (call :: calls) (reply :: replies) final all

/-- What every call preserves.  A character that can be taken back is the last of
the consumed text, the slot is free for it, and the place before it is known. -/
structure Consistent (text consumed : List Char) (c : Cursor) : Prop
    extends Divides text consumed c where
  returnable : ∀ ch, c.last = some ch →
    c.slot = none ∧ ∃ before, consumed = before ++ [ch] ∧ c.previous = .behind before

theorem consistent_ofText (text : String) : Consistent text.toList [] (ofText text) where
  whole := rfl
  position := rfl
  returnable := by simp [ofText]

section Step

variable {text consumed : List Char} {c : Cursor}

theorem consistent_past (consistent : Consistent text consumed c) {ch : Char} {s : List Char}
    (starts : c.rest = ch :: s) : Consistent text (consumed ++ [ch]) (c.past ch s) where
  whole := by rw [consistent.whole, starts, rest_past, List.append_cons]
  position := by rw [Position.behind_concat, ← consistent.position, past]
  returnable := by
    rintro taken ⟨rfl⟩
    exact ⟨rfl, consumed, rfl, consistent.position⟩

theorem consistent_holding (consistent : Consistent text consumed c) {ch : Char} {s : List Char}
    (starts : c.rest = ch :: s) : Consistent text consumed (c.holding ch s) where
  whole := by rw [consistent.whole, starts, rest_holding]
  position := consistent.position
  returnable := by simp [holding]

/-- A character that is taken back comes from the end of the consumed text. -/
theorem consistent_pushback {before : List Char} {ch : Char} (free : c.slot = none)
    (previous : c.previous = .behind before) (whole : text = before ++ [ch] ++ c.rest) :
    Consistent text before { c with slot := some ch, last := none, position := c.previous } where
  whole := by simpa [rest, free] using whole
  position := previous
  returnable := by simp

theorem moves_advance (consistent : Consistent text consumed c) :
    ∃ further, Moves c consumed .advance (.char c.advance.1) c.advance.2 further ∧
      Consistent text further c.advance.2 := by
  cases left : c.rest with
  | nil =>
      rw [advance_nil left]
      exact ⟨consumed, .advanceAtEnd left, consistent⟩
  | cons ch s =>
      rw [advance_cons left]
      exact ⟨consumed ++ [ch], .advance left, consistent_past consistent left⟩

/-- Looking ahead is never refused and leaves the cursor where it is. -/
theorem peek_of_consistent (consistent : Consistent text consumed c) :
    ∃ next, c.peek = .ok (c.rest.head?, next) ∧ next.rest = c.rest ∧
      next.position = c.position ∧ Consistent text consumed next := by
  cases left : c.rest with
  | nil => exact ⟨c, peek_nil left, left, rfl, consistent⟩
  | cons ch s =>
      exact ⟨c.holding ch s, peek_cons left, rfl, rfl, consistent_holding consistent left⟩

theorem atEnd_of_peek {ch : Option Char} {next : Cursor} (peeked : c.peek = .ok (ch, next)) :
    c.atEnd = .ok (ch.isNone, next) := by
  rw [atEnd, peeked]

theorem moves_pushback (consistent : Consistent text consumed c) (given : Option String) :
    ∃ further, Moves c consumed (.pushback given) (c.perform (.pushback given)).1
        (c.perform (.pushback given)).2 further ∧
      Consistent text further (c.perform (.pushback given)).2 := by
  cases given with
  | none => exact ⟨consumed, .pushbackNothing, consistent⟩
  | some given =>
      cases latest : c.last with
      | none =>
          -- Nothing can be taken back, whether or not the slot is free.
          have unreturnable : ∀ ch, c.last = some ch → given ≠ String.singleton ch := by
            simp [latest]
          refine ⟨consumed, ?_⟩
          by_cases full : c.slot.isSome = true
          · simp only [perform, pushback, full, if_true]
            exact ⟨.refused unreturnable, consistent⟩
          · simp only [perform, pushback, full, latest]
            exact ⟨.refused unreturnable, consistent⟩
      | some ch =>
          obtain ⟨free, before, rfl, previous⟩ := consistent.returnable ch latest
          by_cases same : given = String.singleton ch
          · subst same
            refine ⟨before, ?_⟩
            simp only [perform, pushback, free, latest, Option.isSome_none, Bool.false_eq_true,
              if_false, if_true]
            refine ⟨.pushback latest ?_, ?_⟩
            · simp [rest, free]
            · exact consistent_pushback free previous consistent.whole
          · refine ⟨before ++ [ch], ?_⟩
            simp only [perform, pushback, free, latest, Option.isSome_none, Bool.false_eq_true,
              if_false, same]
            refine ⟨.refused ?_, consistent⟩
            intro other isLast
            rw [latest] at isLast
            cases isLast
            exact same

theorem drain_nil (atEnd : c.rest = []) : c.drain = ([], c) := by
  rw [drain]
  split
  · rename_i advanced
    rw [advance_nil atEnd] at advanced
    cases advanced
    rfl
  · rename_i advanced
    rw [advance_nil atEnd] at advanced
    simp at advanced

theorem drain_cons {ch : Char} {s : List Char} (starts : c.rest = ch :: s) :
    c.drain = ((ch, c.position.after ch) :: (c.past ch s).drain.1, (c.past ch s).drain.2) := by
  rw [drain]
  split
  · rename_i advanced
    rw [advance_cons starts] at advanced
    simp at advanced
  · rename_i advanced
    rw [advance_cons starts] at advanced
    cases advanced
    rfl

theorem map_fst_drain (c : Cursor) : c.drain.1.map Prod.fst = c.rest := by
  generalize left : c.rest = s
  induction s generalizing c with
  | nil => simp [drain_nil left]
  | cons ch s inductionHypothesis =>
      simp [drain_cons left, inductionHypothesis _ (rest_past c ch s)]

/-- Draining a cursor takes it to the end of its text. -/
theorem consistent_drain (consistent : Consistent text consumed c) :
    c.drain.2.rest = [] ∧ Consistent text (consumed ++ c.rest) c.drain.2 := by
  generalize left : c.rest = s
  induction s generalizing c consumed with
  | nil =>
      rw [drain_nil left, List.append_nil]
      exact ⟨left, consistent⟩
  | cons ch s inductionHypothesis =>
      rw [drain_cons left, List.append_cons]
      exact inductionHypothesis (consistent_past consistent left) (rest_past c ch s)

/-- A call moves the cut in the text as its sort allows and leaves a consistent
cursor. -/
theorem moves_perform (consistent : Consistent text consumed c) (call : Call) :
    ∃ further, Moves c consumed call (c.perform call).1 (c.perform call).2 further ∧
      Consistent text further (c.perform call).2 := by
  cases call with
  | advance => exact moves_advance consistent
  | peek =>
      obtain ⟨next, peeked, rest, position, stays⟩ := peek_of_consistent consistent
      simp only [perform, peeked]
      exact ⟨consumed, .peek rest position, stays⟩
  | atEnd =>
      obtain ⟨next, peeked, rest, position, stays⟩ := peek_of_consistent consistent
      have empty : c.rest.head?.isNone = c.rest.isEmpty := by cases c.rest <;> rfl
      simp only [perform, atEnd_of_peek peeked, empty]
      exact ⟨consumed, .atEnd rest position, stays⟩
  | pushback given => exact moves_pushback consistent given
  | drain =>
      obtain ⟨atEnd, final⟩ := consistent_drain consistent
      exact ⟨consumed ++ c.rest, .drain (map_fst_drain c) atEnd, final⟩

theorem trace_of_consistent (consistent : Consistent text consumed c) (calls : List Call) :
    ∃ all, Trace text c consumed calls (c.performAll calls).1 (c.performAll calls).2 all := by
  induction calls generalizing c consumed with
  | nil => exact ⟨consumed, .nil consistent.toDivides⟩
  | cons call calls inductionHypothesis =>
      obtain ⟨further, moves, stays⟩ := moves_perform consistent call
      obtain ⟨all, trace⟩ := inductionHypothesis stays
      rw [performAll_cons]
      exact ⟨all, .cons consistent.toDivides moves trace⟩

end Step

/-- Whatever is called on a cursor, refused calls included, its text is divided
into what it has consumed and what it has still to read, and draining it reads
exactly that. -/
theorem trace_of_calls (text : String) (calls : List Call) :
    ∃ consumed,
      Trace text.toList (ofText text) [] calls ((ofText text).performAll calls).1
        ((ofText text).performAll calls).2 consumed ∧
      ((ofText text).performAll calls).2.drain.1.map Prod.fst =
        ((ofText text).performAll calls).2.rest := by
  obtain ⟨consumed, trace⟩ := trace_of_consistent (consistent_ofText text) calls
  exact ⟨consumed, trace, map_fst_drain _⟩

end LexicalPass.Cursor
