import LexicalPass.Cursor

/-!
Calls on a cursor, one after the other.  A call that is refused leaves the
cursor as it was.
-/

set_option autoImplicit false

namespace LexicalPass.Cursor

inductive Call where
  | advance
  | peek
  | atEnd
  | pushback (text : Option String)
  | drain
deriving DecidableEq, Repr

inductive Reply where
  | char (c : Option Char)
  | truth (holds : Bool)
  | done
  | read (chars : List (Char × Position))
  | refused (error : PushbackError)
deriving DecidableEq, Repr

def perform (c : Cursor) : Call → Reply × Cursor
  | .advance =>
      let (ch, next) := c.advance
      (.char ch, next)
  | .peek =>
      match c.peek with
      | .ok (ch, next) => (.char ch, next)
      | .error e => (.refused e, c)
  | .atEnd =>
      match c.atEnd with
      | .ok (holds, next) => (.truth holds, next)
      | .error e => (.refused e, c)
  | .pushback text =>
      match c.pushback text with
      | .ok next => (.done, next)
      | .error e => (.refused e, c)
  | .drain =>
      let (chars, next) := c.drain
      (.read chars, next)

/-- The replies to a list of calls and the cursor after them. -/
def performAll (c : Cursor) : List Call → List Reply × Cursor
  | [] => ([], c)
  | call :: calls =>
      let (reply, next) := c.perform call
      let (replies, final) := next.performAll calls
      (reply :: replies, final)

@[simp] theorem performAll_nil (c : Cursor) : c.performAll [] = ([], c) := rfl

theorem performAll_cons (c : Cursor) (call : Call) (calls : List Call) :
    c.performAll (call :: calls) =
      ((c.perform call).1 :: ((c.perform call).2.performAll calls).1,
        ((c.perform call).2.performAll calls).2) := rfl

end LexicalPass.Cursor
