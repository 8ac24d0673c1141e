/-!
The kinds of token.  Reserved words are identifiers here; a later stage tells
them apart.
-/

set_option autoImplicit false

namespace LexicalPass

inductive Kind where
  | stringLiteral
  | intLiteral
  | floatLiteral
  | identifier
  | leftParen
  | rightParen
  | leftBracket
  | rightBracket
  | leftBrace
  | rightBrace
  | tilde
  | pipe
  | comma
  | semicolon
  | colon
  | dot
  | plus
  | minus
  | star
  | slash
  | percent
  | equals
  | less
  | greater
  | bang
  | ampersand
  | caret
  | question
  | atSign
  | hash
  | endOfLine
  | invalid
deriving DecidableEq, Repr

namespace Kind

/-- All kinds, in the order in which they are numbered. -/
def all : List Kind :=
  [.stringLiteral, .intLiteral, .floatLiteral, .identifier, .leftParen, .rightParen,
   .leftBracket, .rightBracket, .leftBrace, .rightBrace, .tilde, .pipe, .comma,
   .semicolon, .colon, .dot, .plus, .minus, .star, .slash, .percent, .equals, .less,
   .greater, .bang, .ampersand, .caret, .question, .atSign, .hash, .endOfLine, .invalid]

theorem mem_all (kind : Kind) : kind ∈ all := by
  cases kind <;> decide

def name : Kind → String
  | .stringLiteral => "STRING_LITERAL"
  | .intLiteral => "INT_LITERAL"
  | .floatLiteral => "FLOAT_LITERAL"
  | .identifier => "IDENTIFIER"
  | .leftParen => "LEFT_PAREN"
  | .rightParen => "RIGHT_PAREN"
  | .leftBracket => "LEFT_BRACKET"
  | .rightBracket => "RIGHT_BRACKET"
  | .leftBrace => "LEFT_BRACE"
  | .rightBrace => "RIGHT_BRACE"
  | .tilde => "TILDE"
  | .pipe => "PIPE"
  | .comma => "COMMA"
  | .semicolon => "SEMICOLON"
  | .colon => "COLON"
  | .dot => "DOT"
  | .plus => "PLUS"
  | .minus => "MINUS"
  | .star => "STAR"
  | .slash => "SLASH"
  | .percent => "PERCENT"
  | .equals => "EQUALS"
  | .less => "LESS"
  | .greater => "GREATER"
  | .bang => "BANG"
  | .ampersand => "AMPERSAND"
  | .caret => "CARET"
  | .question => "QUESTION"
  | .atSign => "AT"
  | .hash => "HASH"
  | .endOfLine => "END_OF_LINE"
  | .invalid => "INVALID"

/-- Kinds are numbered from one. -/
def number (kind : Kind) : Nat := all.idxOf kind + 1

def ofName? (name : String) : Option Kind := all.find? (·.name == name)

theorem ofName?_name (kind : Kind) : ofName? kind.name = some kind := by
  cases kind <;> decide

def IsLiteral (kind : Kind) : Prop :=
  kind = stringLiteral ∨ kind = intLiteral ∨ kind = floatLiteral

instance (kind : Kind) : Decidable kind.IsLiteral := inferInstanceAs (Decidable (_ ∨ _))

end Kind

end LexicalPass
