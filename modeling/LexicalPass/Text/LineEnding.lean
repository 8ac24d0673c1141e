/-!
Line endings.  A carriage return ends a line, alone or together with the line
feed after it; folding leaves the line feed as the only line ending.  Where a
carriage return alone is no line ending, only the pairs are folded.
-/

set_option autoImplicit false

namespace LexicalPass.Text

def foldLineEndings : List Char → List Char
  | [] => []
  | '\r' :: '\n' :: s => '\n' :: foldLineEndings s
  | '\r' :: s => '\n' :: foldLineEndings s
  | c :: s => c :: foldLineEndings s

def foldPairs : List Char → List Char
  | [] => []
  | '\r' :: '\n' :: s => '\n' :: foldPairs s
  | c :: s => c :: foldPairs s

end LexicalPass.Text
