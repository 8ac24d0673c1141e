import LexicalPass.Position
import LexicalPass.Text.Quoted

/-!
A location is a place in a named source.
-/

set_option autoImplicit false

namespace LexicalPass

structure Location where
  source : CodePoints
  position : Position := .start
deriving DecidableEq, Repr

namespace Location

def line (l : Location) : Int := l.position.line

def column (l : Location) : Int := l.position.column

def render (l : Location) : CodePoints :=
  l.source ++ ":" ++ toString l.line ++ ":" ++ toString l.column

/-- The form for debugging, in which the name of the source is quoted. -/
def inspect (l : Location) : String :=
  "SourceLocation(" ++ Text.quote l.source ++ ", " ++ toString l.line ++ ", " ++
    toString l.column ++ ")"

end Location

end LexicalPass
