import LexicalPass.TokenSequence.Selection

/-!
Operations on a token sequence, one after the other.  Reading changes nothing,
and neither does an operation that is refused.
-/

set_option autoImplicit false

namespace LexicalPass.TokenSequence

inductive Query where
  | size
  | tokens
  | warnings
  | hasWarnings
  | kinds
  | lexemes
  | isClosed
  | get (index : Int)
  | slice (slice : Slice)
  | inspect
  /-- A comparison, possibly with something that is no sequence. -/
  | agrees (other : Option TokenSequence)
deriving DecidableEq, Repr

inductive Operation where
  | append (entry : Entry)
  | report (warning : Warning)
  | close
  | ask (query : Query)
deriving DecidableEq, Repr

inductive Answer where
  | done
  | count (count : Nat)
  | truth (holds : Bool)
  | token (token : Token)
  | tokens (tokens : List Token)
  | warnings (warnings : List Warning)
  | kinds (kinds : List Kind)
  | lexemes (lexemes : List String)
  | text (text : String)
deriving DecidableEq, Repr

inductive Refusal where
  | write (error : WriteError)
  | access (error : AccessError)
deriving DecidableEq, Repr

def ask (s : TokenSequence) : Query → Except AccessError Answer
  | .size => .ok (.count s.size)
  | .tokens => .ok (.tokens s.tokens.toList)
  | .warnings => .ok (.warnings s.warnings.toList)
  | .hasWarnings => .ok (.truth s.hasWarnings)
  | .kinds => .ok (.kinds s.kinds)
  | .lexemes => .ok (.lexemes s.lexemes)
  | .isClosed => .ok (.truth s.isClosed)
  | .get index => (s.get index).map .token
  | .slice slice => (s.slice slice).map .tokens
  | .inspect => .ok (.text s.inspect)
  | .agrees none => .ok (.truth false)
  | .agrees (some other) => .ok (.truth (decide (s.Agrees other)))

def perform (s : TokenSequence) : Operation → Except Refusal Answer × TokenSequence
  | .append entry =>
      match s.appendEntry entry with
      | .ok next => (.ok .done, next)
      | .error e => (.error (.write e), s)
  | .report warning =>
      match s.report warning with
      | .ok next => (.ok .done, next)
      | .error e => (.error (.write e), s)
  | .close => (.ok .done, s.close)
  | .ask query =>
      match s.ask query with
      | .ok answer => (.ok answer, s)
      | .error e => (.error (.access e), s)

@[simp] theorem perform_ask_snd (s : TokenSequence) (query : Query) :
    (s.perform (.ask query)).2 = s := by
  simp only [perform]
  split <;> rfl

/-- The sequence after a list of operations. -/
def performAll (s : TokenSequence) (operations : List Operation) : TokenSequence :=
  operations.foldl (fun s operation => (s.perform operation).2) s

@[simp] theorem performAll_nil (s : TokenSequence) : s.performAll [] = s := rfl

@[simp] theorem performAll_cons (s : TokenSequence) (operation : Operation)
    (operations : List Operation) :
    s.performAll (operation :: operations) = (s.perform operation).2.performAll operations := rfl

end LexicalPass.TokenSequence
