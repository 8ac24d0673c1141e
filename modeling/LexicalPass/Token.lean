import LexicalPass.Location
import LexicalPass.Token.Punctuation

/-!
A token holds the text that was captured for it.  The quotes around a string
literal are not part of that text, yet its place is that of the opening quote.
-/

set_option autoImplicit false

namespace LexicalPass

structure Token where
  kind : Kind
  lexeme : String
  source : CodePoints
  position : Position := .start
deriving DecidableEq, Repr

namespace Token

def location (t : Token) : Location := ⟨t.source, t.position⟩

def render (t : Token) : String := t.kind.name ++ "(" ++ Text.quote t.lexeme ++ ")"

/-- The form for debugging, which shows every part of the token. -/
def inspect (t : Token) : String :=
  "Token(" ++ t.kind.name ++ ", " ++ Text.quote t.lexeme ++ ", " ++ Text.quote t.source ++
    ", L" ++ toString t.position.line ++ ":" ++ toString t.position.column ++ ")"

def IsLiteral (t : Token) : Prop := t.kind.IsLiteral

instance (t : Token) : Decidable t.IsLiteral := inferInstanceAs (Decidable t.kind.IsLiteral)

def IsPunctuation (t : Token) : Prop := t.kind.IsPunctuation

instance (t : Token) : Decidable t.IsPunctuation :=
  inferInstanceAs (Decidable t.kind.IsPunctuation)

def IsIdentifier (t : Token) : Prop := t.kind = .identifier

instance (t : Token) : Decidable t.IsIdentifier := inferInstanceAs (Decidable (_ = _))

/-- An invalid token marks malformed input. -/
def IsError (t : Token) : Prop := t.kind = .invalid

instance (t : Token) : Decidable t.IsError := inferInstanceAs (Decidable (_ = _))

end Token

end LexicalPass
