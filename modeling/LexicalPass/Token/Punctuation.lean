import LexicalPass.Token.Kind

/-!
Punctuation and operators: each is one character with a kind of its own.
-/

set_option autoImplicit false

namespace LexicalPass

def punctuation : List (Char × Kind) :=
  [('(', .leftParen),
   (')', .rightParen),
   ('[', .leftBracket),
   (']', .rightBracket),
   ('{', .leftBrace),
   ('}', .rightBrace),
   ('~', .tilde),
   ('|', .pipe),
   (',', .comma),
   (';', .semicolon),
   (':', .colon),
   ('.', .dot),
   ('+', .plus),
   ('-', .minus),
   ('*', .star),
   ('/', .slash),
   ('%', .percent),
   ('=', .equals),
   ('<', .less),
   ('>', .greater),
   ('!', .bang),
   ('&', .ampersand),
   ('^', .caret),
   ('?', .question),
   ('@', .atSign),
   ('#', .hash)]

namespace Kind

def ofChar? (c : Char) : Option Kind := punctuation.lookup c

theorem mem_punctuation_of_ofChar? {c : Char} {kind : Kind} (found : ofChar? c = some kind) :
    (c, kind) ∈ punctuation := by
  obtain ⟨front, back, whole, _⟩ := List.lookup_eq_some_iff.mp found
  simp [whole]

def IsPunctuation (kind : Kind) : Prop := kind ∈ punctuation.map Prod.snd

instance (kind : Kind) : Decidable kind.IsPunctuation :=
  inferInstanceAs (Decidable (_ ∈ _))

theorem isPunctuation_of_ofChar? {c : Char} {kind : Kind} (found : ofChar? c = some kind) :
    kind.IsPunctuation :=
  List.mem_map.mpr ⟨(c, kind), mem_punctuation_of_ofChar? found, rfl⟩

end Kind

end LexicalPass
