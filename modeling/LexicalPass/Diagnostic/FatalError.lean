import LexicalPass.Diagnostic

/-!
Fatal errors: problems that end a pass.  A source that cannot be read gives no
text to scan, and after an unbalanced quote nothing that follows can be trusted.
-/

set_option autoImplicit false

namespace LexicalPass

inductive FatalError.Kind where
  | general
  | sourceUnavailable
  | unterminatedLiteral
deriving DecidableEq, Repr

structure FatalError where
  kind : FatalError.Kind
  message : CodePoints
  location : Location
  code : Option String := none
  help : Option String := none
  preview : Option String := none
deriving DecidableEq, Repr

namespace FatalError

def diagnostic (e : FatalError) : Diagnostic where
  message := e.message
  location := e.location
  severity := "error"
  code := e.code
  help := e.help
  preview := e.preview

def render (e : FatalError) : CodePoints := e.diagnostic.render

/-- The first `length` characters of a text.  A negative length says how many
characters are left off at the end. -/
def previewOf (length : Int) (text : String) : String :=
  let chars := text.toList
  if 0 ≤ length then String.ofList (chars.take length.toNat)
  else String.ofList (chars.take (chars.length - length.natAbs))

def sourceUnavailable (name : CodePoints) (reason : String) : FatalError where
  kind := .sourceUnavailable
  message := "Cannot read source file '" ++ name ++ "'"
  location := ⟨name, .start⟩
  code := some Problem.sourceUnavailable.code
  help := some reason

/-- A string literal is open since `location` and the source ends after `body`. -/
def unterminatedString (body : String) (location : Location) (previewLength : Int) :
    FatalError where
  kind := .unterminatedLiteral
  message := Problem.unterminatedString.title
  location := location
  code := some Problem.unterminatedString.code
  help := some "String literals must be closed with a matching \" quote."
  preview := some (previewOf previewLength body)

end FatalError

end LexicalPass
