/-!
Tables of code points.  A table lists closed ranges from low to high, so a
search stops at the first range that starts above the code point sought.
-/

set_option autoImplicit false

namespace LexicalPass.Text

structure CharRange where
  first : Nat
  last : Nat
deriving DecidableEq, Repr

def CharRange.covers : List CharRange → Nat → Bool
  | [], _ => false
  | range :: ranges, code =>
      if code < range.first then false
      else code ≤ range.last || covers ranges code

end LexicalPass.Text
