import LexicalPass.Diagnostic.Warning
import LexicalPass.Token

/-!
The output of a pass: tokens in source order and the warnings met on the way.
A sequence only grows, and not at all once it is closed.
-/

set_option autoImplicit false

namespace LexicalPass

structure TokenSequence where
  source : CodePoints := "<unknown>"
  tokens : Array Token := #[]
  warnings : Array Warning := #[]
  isClosed : Bool := false
deriving DecidableEq, Repr

namespace TokenSequence

/-- What a caller hands over to be appended.  Anything but a token is known by
the name of its type. -/
inductive Entry where
  | token (token : Token)
  | other (typeName : String)
deriving DecidableEq, Repr

inductive WriteError where
  | notAToken (typeName : String)
  | closed
deriving DecidableEq, Repr

def WriteError.message : WriteError → String
  | notAToken typeName => "Expected Token, got " ++ typeName
  | closed => "Token sequence is sealed and cannot be modified"

def append (s : TokenSequence) (token : Token) : Except WriteError TokenSequence :=
  if s.isClosed then .error .closed else .ok { s with tokens := s.tokens.push token }

/-- That an entry is a token is checked before anything else. -/
def appendEntry (s : TokenSequence) : Entry → Except WriteError TokenSequence
  | .token token => s.append token
  | .other typeName => .error (.notAToken typeName)

def report (s : TokenSequence) (warning : Warning) : Except WriteError TokenSequence :=
  if s.isClosed then .error .closed else .ok { s with warnings := s.warnings.push warning }

def close (s : TokenSequence) : TokenSequence := { s with isClosed := true }

@[simp] theorem append_of_open {s : TokenSequence} (isOpen : s.isClosed = false)
    (token : Token) : s.append token = .ok { s with tokens := s.tokens.push token } := by
  simp [append, isOpen]

@[simp] theorem append_of_closed {s : TokenSequence} (isClosed : s.isClosed = true)
    (token : Token) : s.append token = .error .closed := by
  simp [append, isClosed]

@[simp] theorem report_of_open {s : TokenSequence} (isOpen : s.isClosed = false)
    (warning : Warning) :
    s.report warning = .ok { s with warnings := s.warnings.push warning } := by
  simp [report, isOpen]

@[simp] theorem report_of_closed {s : TokenSequence} (isClosed : s.isClosed = true)
    (warning : Warning) : s.report warning = .error .closed := by
  simp [report, isClosed]

def size (s : TokenSequence) : Nat := s.tokens.size

def hasWarnings (s : TokenSequence) : Bool := 0 < s.warnings.size

def kinds (s : TokenSequence) : List Kind := s.tokens.toList.map Token.kind

def lexemes (s : TokenSequence) : List String := s.tokens.toList.map Token.lexeme

/-- Two sequences agree when they say the same about the same source.  Being
closed does not count. -/
def Agrees (s t : TokenSequence) : Prop :=
  s.source = t.source ∧ s.tokens = t.tokens ∧ s.warnings = t.warnings

instance (s t : TokenSequence) : Decidable (s.Agrees t) :=
  inferInstanceAs (Decidable (_ ∧ _ ∧ _))

theorem close_agrees (s : TokenSequence) : s.close.Agrees s := ⟨rfl, rfl, rfl⟩

/-- The form for debugging. -/
def inspect (s : TokenSequence) : String :=
  "TokenSequence(" ++ Text.quote s.source ++ ", " ++ toString s.tokens.size ++ " tokens, " ++
    toString s.warnings.size ++ " diagnostics)"

end TokenSequence

end LexicalPass
