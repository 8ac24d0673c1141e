import LexicalPass.CharClass
import LexicalPass.Config
import LexicalPass.Diagnostic.FatalError
import LexicalPass.Token.Numeral
import LexicalPass.TokenSequence

/-!
The lexical grammar, said on the text alone.  A text falls into segments, each
decided by its first character and as long as its class allows.  What a segment
stands for depends on its text and on the text before it only.
-/

set_option autoImplicit false

namespace LexicalPass

inductive Segment where
  | newline
  | blank (c : Char)
  | string (body : List Char)
  /-- A string literal that the text ends in. -/
  | unclosed (body : List Char)
  | numeral (first : Char) (others : List Char)
  | word (first : Char) (others : List Char)
  | symbol (c : Char)
deriving DecidableEq, Repr

namespace Segment

def text : Segment → List Char
  | newline => ['\n']
  | blank c => [c]
  | string body => '\x22' :: body ++ ['\x22']
  | unclosed body => '\x22' :: body
  | numeral first others => first :: others
  | word first others => first :: others
  | symbol c => [c]

/-- The segment at the front of the text `c :: s`, and the text after it. -/
def first (c : Char) (s : List Char) : Segment × List Char :=
  match CharClass.ofChar c with
  | .newline => (newline, s)
  | .whitespace => (blank c, s)
  | .quote =>
      match s.dropWhile (· ≠ '\x22') with
      | [] => (unclosed s, [])
      | _ :: rest => (string (s.takeWhile (· ≠ '\x22')), rest)
  | .digit => (numeral c (s.takeWhile (IsNumeric ·)), s.dropWhile (IsNumeric ·))
  | .wordStart => (word c (s.takeWhile (IsWordChar ·)), s.dropWhile (IsWordChar ·))
  | .other => (symbol c, s)

theorem length_dropWhile_le (p : Char → Bool) (s : List Char) :
    (s.dropWhile p).length ≤ s.length :=
  (List.dropWhile_suffix p).length_le

theorem length_first_le (c : Char) (s : List Char) : (first c s).2.length ≤ s.length := by
  unfold first
  split
  · exact Nat.le_refl _
  · exact Nat.le_refl _
  · split
    · exact Nat.zero_le _
    · rename_i closing rest dropped
      have shorter := length_dropWhile_le (· ≠ '\x22') s
      rw [dropped] at shorter
      exact Nat.le_of_succ_le shorter
  · exact length_dropWhile_le _ s
  · exact length_dropWhile_le _ s
  · exact Nat.le_refl _

/-- All segments of a text. -/
def all : List Char → List Segment
  | [] => []
  | c :: s => (first c s).1 :: all (first c s).2
termination_by s => s.length
decreasing_by exact Nat.lt_succ_of_le (length_first_le c s)

/-- The kind of the token that a segment stands for, if it stands for one. -/
def kind? (config : Config) : Segment → Option Kind
  | newline => if config.emitEndOfLine then some .endOfLine else none
  | blank _ => none
  | string _ => some .stringLiteral
  | unclosed _ => none
  | numeral first others =>
      match Numeral.ofRun (first :: others) with
      | .integer => some .intLiteral
      | .decimal => some .floatLiteral
      | .malformed _ => some .invalid
  | word _ _ => some .identifier
  | symbol c => Kind.ofChar? c

/-- The quotes of a string literal are not part of its lexeme. -/
def lexeme : Segment → List Char
  | string body => body
  | segment => segment.text

/-- A segment and the text before it. -/
structure Placed where
  before : List Char
  segment : Segment
deriving DecidableEq, Repr

/-- Segments that follow each other, the first of them after the text `before`. -/
def place (before : List Char) : List Segment → List Placed
  | [] => []
  | segment :: segments => ⟨before, segment⟩ :: place (before ++ segment.text) segments

namespace Placed

def position (p : Placed) : Position := .behind p.before

def location (name : CodePoints) (p : Placed) : Location := ⟨name, p.position⟩

def token? (config : Config) (name : CodePoints) (p : Placed) : Option Token :=
  (p.segment.kind? config).map fun kind =>
    ⟨kind, String.ofList p.segment.lexeme, name, p.position⟩

def warning? (name : CodePoints) (p : Placed) : Option Warning :=
  match p.segment with
  | numeral first others =>
      match Numeral.ofRun (first :: others) with
      | .malformed flaw =>
          some (.malformedNumber (String.ofList (first :: others)) (p.location name) flaw.reason)
      | _ => none
  | symbol c =>
      match Kind.ofChar? c with
      | none =>
          some (.ofDescription (String.singleton c) (Text.describeChar c) (p.location name))
      | some _ => none
  | _ => none

/-- What a pass warns of: malformed numbers and characters without a meaning. -/
theorem warning?_cases {name : CodePoints} {p : Placed} {warning : Warning}
    (found : p.warning? name = some warning) :
    (∃ first others flaw, p.segment = numeral first others ∧
      Numeral.ofRun (first :: others) = .malformed flaw ∧
      warning = .malformedNumber (String.ofList (first :: others)) (p.location name)
        flaw.reason) ∨
    ∃ c, p.segment = symbol c ∧ Kind.ofChar? c = none ∧
      warning = .ofDescription (String.singleton c) (Text.describeChar c) (p.location name) := by
  unfold warning? at found
  split at found
  · rename_i first others isNumeral
    split at found
    · rename_i flaw malformed
      cases found
      exact .inl ⟨first, others, flaw, isNumeral, malformed, rfl⟩
    · simp at found
  · rename_i c isSymbol
    split at found
    · rename_i unknown
      cases found
      exact .inr ⟨c, isSymbol, unknown, rfl⟩
    · simp at found
  · simp at found

def fatal? (config : Config) (name : CodePoints) (p : Placed) : Option FatalError :=
  match p.segment with
  | unclosed body =>
      some (.unterminatedString (String.ofList body) (p.location name) config.previewLength)
  | _ => none

def tokens (config : Config) (name : CodePoints) (ps : List Placed) : List Token :=
  ps.filterMap (token? config name)

@[simp] theorem tokens_nil (config : Config) (name : CodePoints) : tokens config name [] = [] := rfl

@[simp] theorem tokens_cons (config : Config) (name : CodePoints) (p : Placed) (ps : List Placed) :
    tokens config name (p :: ps) = (p.token? config name).toList ++ tokens config name ps := by
  cases found : p.token? config name <;> simp [tokens, found]

@[simp] theorem tokens_append (config : Config) (name : CodePoints) (ps qs : List Placed) :
    tokens config name (ps ++ qs) = tokens config name ps ++ tokens config name qs :=
  List.filterMap_append

def warnings (name : CodePoints) (ps : List Placed) : List Warning :=
  ps.filterMap (warning? name)

@[simp] theorem warnings_nil (name : CodePoints) : warnings name [] = [] := rfl

@[simp] theorem warnings_cons (name : CodePoints) (p : Placed) (ps : List Placed) :
    warnings name (p :: ps) = (p.warning? name).toList ++ warnings name ps := by
  cases found : p.warning? name <;> simp [warnings, found]

@[simp] theorem warnings_append (name : CodePoints) (ps qs : List Placed) :
    warnings name (ps ++ qs) = warnings name ps ++ warnings name qs :=
  List.filterMap_append

def failure? (config : Config) (name : CodePoints) (ps : List Placed) : Option FatalError :=
  ps.findSome? (fatal? config name)

@[simp] theorem failure?_nil (config : Config) (name : CodePoints) :
    failure? config name [] = none := rfl

@[simp] theorem failure?_cons (config : Config) (name : CodePoints) (p : Placed)
    (ps : List Placed) :
    failure? config name (p :: ps) = (p.fatal? config name).or (failure? config name ps) := by
  cases found : p.fatal? config name <;> simp [failure?, found]

@[simp] theorem failure?_append (config : Config) (name : CodePoints) (ps qs : List Placed) :
    failure? config name (ps ++ qs) =
      (failure? config name ps).or (failure? config name qs) :=
  List.findSome?_append

end Placed

end Segment

/-- The segments of a source text, each with the text before it. -/
def segmentsOf (source : String) : List Segment.Placed :=
  Segment.place [] (Segment.all source.toList)

end LexicalPass
