import LexicalPass.Text.CodePoints
import LexicalPass.Text.Printable

/-!
Quoted text, as it stands in messages and tables.  The written form shows every
character: what is not printable is spelled by its code point.
-/

set_option autoImplicit false

namespace LexicalPass.Text

def apostrophe : Char := '\x27'

def quotationMark : Char := '\x22'

/-- A text with apostrophes and no quotation mark stands between quotation
marks and needs no escape; all others stand between apostrophes. -/
def delimiter (s : CodePoints) : Char :=
  if .char apostrophe ∈ s ∧ .char quotationMark ∉ s then quotationMark else apostrophe

def escapeChar (delimiter c : Char) : List Char :=
  if c = delimiter ∨ c = '\\' then ['\\', c]
  else if c = '\n' then ['\\', 'n']
  else if c = '\r' then ['\\', 'r']
  else if c = '\t' then ['\\', 't']
  else if isPrintable c then [c]
  else CodePoint.spelling (.char c)

def escape (delimiter : Char) : CodePoint → List Char
  | .char c => escapeChar delimiter c
  | c@(.surrogate _) => c.spelling

def quoteChars (s : CodePoints) : List Char :=
  delimiter s :: s.flatMap (escape (delimiter s)) ++ [delimiter s]

def quote (s : CodePoints) : String := String.ofList (quoteChars s)

@[simp] theorem toList_quote (s : CodePoints) : (quote s).toList = quoteChars s := by
  simp [quote]

end LexicalPass.Text
