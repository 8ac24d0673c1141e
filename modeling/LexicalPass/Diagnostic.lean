import LexicalPass.Location
import LexicalPass.Text.UpperCase

/-!
Diagnostics and how they read.  A diagnostic has a line for its message, one for
its place and, where it has them, one for a preview of the text and one of help.
-/

set_option autoImplicit false

namespace LexicalPass

structure Diagnostic where
  message : CodePoints
  location : Location
  severity : String
  code : Option String := none
  help : Option String := none
  preview : Option String := none
deriving DecidableEq, Repr

namespace Diagnostic

/-- An empty code is left out like an absent one. -/
def codeMark : Option String → String
  | none => ""
  | some code => if code = "" then "" else "[" ++ code ++ "]"

/-- An empty preview is shown: the text broke off right where it began. -/
def previewLine : Option String → String
  | none => ""
  | some preview => "  near: " ++ Text.quote preview ++ "\n"

def helpLine : Option String → String
  | none => ""
  | some help => if help = "" then "" else "  help: " ++ help ++ "\n"

def render (d : Diagnostic) : CodePoints :=
  Text.upperCase d.severity ++ codeMark d.code ++ ": " ++ d.message ++ "\n" ++
    "  --> " ++ d.location.render ++ "\n" ++ previewLine d.preview ++ helpLine d.help

end Diagnostic

/-- The problems that a pass over a source can meet. -/
inductive Problem where
  | sourceUnavailable
  | unterminatedString
  | malformedNumber
  | unrecognizedCharacter
deriving DecidableEq, Repr

namespace Problem

def all : List Problem :=
  [sourceUnavailable, unterminatedString, malformedNumber, unrecognizedCharacter]

def code : Problem → String
  | sourceUnavailable => "L001"
  | unterminatedString => "L002"
  | malformedNumber => "L003"
  | unrecognizedCharacter => "L004"

def title : Problem → String
  | sourceUnavailable => "Source unavailable"
  | unterminatedString => "Unterminated string literal"
  | malformedNumber => "Malformed numeric literal"
  | unrecognizedCharacter => "Unrecognized character"

end Problem

end LexicalPass
