import LexicalPass.Diagnostic
import LexicalPass.Text.Described

/-!
Warnings: problems that do not stop a pass.  Each keeps the text it is about.
-/

set_option autoImplicit false

namespace LexicalPass

structure Warning where
  message : String
  location : Location
  code : Option String := none
  help : Option String := none
  lexeme : Option String := none
deriving DecidableEq, Repr

namespace Warning

def diagnostic (w : Warning) : Diagnostic where
  message := w.message
  location := w.location
  severity := "warning"
  code := w.code
  help := w.help

def render (w : Warning) : CodePoints := w.diagnostic.render

/-- The form for debugging. -/
def inspect (w : Warning) : String :=
  "LexerWarning(" ++ w.code.getD "None" ++ ", " ++ Text.quote w.message ++ ", " ++
    w.location.inspect ++ ")"

def malformedNumber (lexeme : String) (location : Location) (reason : String) : Warning where
  message := Problem.malformedNumber.title ++ ": '" ++ lexeme ++ "'"
  location := location
  code := some Problem.malformedNumber.code
  help := some reason
  lexeme := some lexeme

def ofDescription (text description : String) (location : Location) : Warning where
  message := Problem.unrecognizedCharacter.title ++ ": " ++ description
  location := location
  code := some Problem.unrecognizedCharacter.code
  help := some "The character was skipped."
  lexeme := some text

/-- A text that cannot be described cannot be reported either. -/
def unrecognized (text : String) (location : Location) : Except Text.DescribeError Warning :=
  match Text.describe text with
  | .ok description => .ok (ofDescription text description location)
  | .error e => .error e

theorem unrecognized_singleton (c : Char) (location : Location) :
    unrecognized (String.singleton c) location =
      .ok (ofDescription (String.singleton c) (Text.describeChar c) location) := by
  unfold unrecognized
  rw [Text.describe_singleton]

end Warning

end LexicalPass
