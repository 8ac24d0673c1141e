import LexicalPass.Position
import LexicalPass.Text.Quoted

/-!
A cursor hands out the characters of a text one by one and can take back the
latest of them, which then waits in a slot in front of the unread text.  The
position is always that of the next character.
-/

set_option autoImplicit false

namespace LexicalPass

structure Cursor where
  slot : Option Char := none
  unread : List Char
  position : Position := .start
  /-- Where the cursor stood before the latest character was handed out. -/
  previous : Position := .start
  /-- The latest character handed out, as long as it can be taken back. -/
  last : Option Char := none
deriving DecidableEq, Repr

namespace Cursor

def ofText (text : String) : Cursor where
  unread := text.toList

/-- All that is still to be read. -/
def rest (c : Cursor) : List Char := c.slot.toList ++ c.unread

@[simp] theorem rest_ofText (text : String) : (ofText text).rest = text.toList := rfl

/-- The cursor past the character `ch`, with `unread` after it. -/
def past (c : Cursor) (ch : Char) (unread : List Char) : Cursor where
  unread := unread
  position := c.position.after ch
  previous := c.position
  last := some ch

@[simp] theorem rest_past (c : Cursor) (ch : Char) (unread : List Char) :
    (c.past ch unread).rest = unread := rfl

/-- Hand out the next character.  At the end of the text nothing changes. -/
def advance (c : Cursor) : Option Char × Cursor :=
  match c.slot, c.unread with
  | some ch, unread => (some ch, c.past ch unread)
  | none, ch :: unread => (some ch, c.past ch unread)
  | none, [] => (none, c)

theorem rest_of_advance {c next : Cursor} {ch : Char} (advanced : c.advance = (some ch, next)) :
    c.rest = ch :: next.rest := by
  unfold advance at advanced
  split at advanced
  · rename_i slot
    cases advanced
    simp [rest, slot, past]
  · rename_i slot unread
    cases advanced
    simp [rest, slot, unread, past]
  · simp at advanced

theorem rest_of_advance_none {c next : Cursor} (advanced : c.advance = (none, next)) :
    c.rest = [] ∧ next = c := by
  unfold advance at advanced
  split at advanced
  · simp at advanced
  · simp at advanced
  · rename_i slot unread
    cases advanced
    simp [rest, slot, unread]

inductive PushbackError where
  | occupied
  | mismatch (given : String) (last : Option Char)
deriving DecidableEq, Repr

def PushbackError.message : PushbackError → String
  | occupied => "Cursor supports only one character of pushback"
  | mismatch given last =>
      "Cannot push back " ++ Text.quote given ++ "; the last consumed character was " ++
        (last.map fun ch => Text.quote (String.singleton ch)).getD "None"

/-- Take back the latest character.  No text stands for the end of the text,
which can be taken back at any time and to no effect. -/
def pushback (c : Cursor) : Option String → Except PushbackError Cursor
  | none => .ok c
  | some text =>
      if c.slot.isSome then .error .occupied
      else
        match c.last with
        | none => .error (.mismatch text none)
        | some ch =>
            if text = String.singleton ch then
              .ok { c with slot := some ch, last := none, position := c.previous }
            else .error (.mismatch text (some ch))

/-- The next character, which is handed out and taken back. -/
def peek (c : Cursor) : Except PushbackError (Option Char × Cursor) :=
  let (ch, next) := c.advance
  match next.pushback (ch.map String.singleton) with
  | .ok back => .ok (ch, back)
  | .error e => .error e

theorem rest_of_pushback {c next : Cursor} {text : String}
    (taken : c.pushback (some text) = .ok next) :
    ∃ ch, text = String.singleton ch ∧ next.rest = ch :: c.rest := by
  simp only [pushback] at taken
  split at taken
  · simp at taken
  · rename_i empty
    split at taken
    · simp at taken
    · rename_i ch _
      split at taken
      · rename_i same
        cases taken
        have free : c.slot = none := by simpa using empty
        exact ⟨ch, same, by simp [rest, free]⟩
      · simp at taken

theorem rest_of_peek {c next : Cursor} {ch : Option Char} (peeked : c.peek = .ok (ch, next)) :
    next.rest = c.rest ∧ ch = c.rest.head? := by
  unfold peek at peeked
  cases advanced : c.advance with
  | mk taken behind =>
      cases taken with
      | none =>
          obtain ⟨empty, rfl⟩ := rest_of_advance_none advanced
          simp only [advanced, Option.map_none, pushback, Except.ok.injEq,
            Prod.mk.injEq] at peeked
          obtain ⟨rfl, rfl⟩ := peeked
          simp [empty]
      | some taken =>
          have handed := rest_of_advance advanced
          simp only [advanced, Option.map_some] at peeked
          split at peeked
          · rename_i back given
            obtain ⟨other, same, restored⟩ := rest_of_pushback given
            have equal : taken = other := by
              have := congrArg String.toList same
              simpa using this
            simp only [Except.ok.injEq, Prod.mk.injEq] at peeked
            obtain ⟨rfl, rfl⟩ := peeked
            simp [handed, restored, equal]
          · simp at peeked

/-- Whether the whole text has been read. -/
def atEnd (c : Cursor) : Except PushbackError (Bool × Cursor) :=
  match c.peek with
  | .ok (ch, next) => .ok (ch.isNone, next)
  | .error e => .error e

/-- Read to the end, with the place after each character. -/
def drain (c : Cursor) : List (Char × Position) × Cursor :=
  match _advanced : c.advance with
  | (none, next) => ([], next)
  | (some ch, next) =>
      let (later, final) := drain next
      ((ch, next.position) :: later, final)
termination_by c.rest.length
decreasing_by
  have shorter := congrArg List.length (rest_of_advance _advanced)
  simp only [List.length_cons] at shorter
  omega

end Cursor

end LexicalPass
