import LexicalPass.Proofs.Grammar
import LexicalPass.Proofs.Simulation

/-!
A reference lexer without a cursor.  It looks at the first character that is
left, takes the unit that starts there off the text, and stamps what the unit
means with the place that the consumed text gives.  The pass computes the same
result for every source.
-/

set_option autoImplicit false

namespace LexicalPass.Reference

open Segment

/-- The unit at the front of a text, what it means, and the text after it. -/
structure Front where
  text : List Char
  rest : List Char
  tokens : List Token := []
  warnings : List Warning := []
deriving DecidableEq, Repr

def inNumber (c : Char) : Bool := c.isDigit || c == '.'

def inWord (c : Char) : Bool := c.isAlpha || c.isDigit || c == '_'

def numeral (location : Location) (text rest : List Char) : Front :=
  let token kind : Token := ⟨kind, String.ofList text, location.source, location.position⟩
  let points := text.count '.'
  if points = 0 then { text, rest, tokens := [token .intLiteral] }
  else if points = 1 ∧ text.getLast? ≠ some '.' then { text, rest, tokens := [token .floatLiteral] }
  else
    let flaw : Numeral.Flaw := if 1 < points then .manyPoints else .trailingPoint
    { text, rest, tokens := [token .invalid],
      warnings := [.malformedNumber (String.ofList text) location flaw.reason] }

/-- The unit that starts with `c`, which stands right behind the text `consumed`. -/
def front (config : Config) (name : CodePoints) (consumed : List Char) (c : Char) (s : List Char) :
    Except FatalError Front :=
  let location : Location := ⟨name, .behind consumed⟩
  let token kind lexeme : Token := ⟨kind, String.ofList lexeme, name, .behind consumed⟩
  if c = '\n' then
    let tokens := if config.emitEndOfLine then [token .endOfLine ['\n']] else []
    .ok { text := ['\n'], rest := s, tokens }
  else if c = ' ' ∨ c = '\t' ∨ c = '\r' ∨ c = '\x0c' ∨ c = '\x0b' then
    .ok { text := [c], rest := s }
  else if c = '\x22' then
    match s.dropWhile (· ≠ '\x22') with
    | [] => .error (.unterminatedString (String.ofList s) location config.previewLength)
    | _ :: rest =>
        let body := s.takeWhile (· ≠ '\x22')
        .ok { text := '\x22' :: body ++ ['\x22'], rest, tokens := [token .stringLiteral body] }
  else if c.isDigit then
    .ok (numeral location (c :: s.takeWhile inNumber) (s.dropWhile inNumber))
  else if c.isAlpha ∨ c = '_' then
    let text := c :: s.takeWhile inWord
    .ok { text, rest := s.dropWhile inWord, tokens := [token .identifier text] }
  else
    match punctuation.lookup c with
    | some kind => .ok { text := [c], rest := s, tokens := [token kind [c]] }
    | none =>
        .ok { text := [c], rest := s,
              warnings := [.ofDescription (String.singleton c) (Text.describeChar c) location] }

theorem inNumber_eq : inNumber = fun c => decide (IsNumeric c) := by
  funext c
  apply Bool.eq_iff_iff.mpr
  rw [decide_eq_true_iff]
  simp [inNumber, IsNumeric]

theorem inWord_eq : inWord = fun c => decide (IsWordChar c) := by
  funext c
  apply Bool.eq_iff_iff.mpr
  rw [decide_eq_true_iff]
  simp only [inWord, IsWordChar, IsWordStart, Bool.or_eq_true, beq_iff_eq]
  exact or_right_comm

/-- A segment at the front of a text, as the grammar reads it. -/
def frontOf (config : Config) (name : CodePoints) (consumed : List Char) (g : Segment)
    (rest : List Char) : Except FatalError Front :=
  match Placed.fatal? config name ⟨consumed, g⟩ with
  | some error => .error error
  | none => .ok {
      text := g.text
      rest
      tokens := (Placed.token? config name ⟨consumed, g⟩).toList
      warnings := (Placed.warning? name ⟨consumed, g⟩).toList }

section Front

variable (config : Config) (name : CodePoints) (consumed : List Char) {c : Char} (s : List Char)

theorem front_newline :
    front config name consumed '\n' s = frontOf config name consumed .newline s := by
  cases emits : config.emitEndOfLine <;>
    simp [front, frontOf, Placed.fatal?, Placed.token?, Placed.warning?, kind?, lexeme, text,
      Placed.position, emits]

theorem front_blank (notNewline : c ≠ '\n') (blank : IsBlank c) :
    front config name consumed c s = frontOf config name consumed (.blank c) s := by
  have chars : c = ' ' ∨ c = '\t' ∨ c = '\r' ∨ c = '\x0c' ∨ c = '\x0b' := by
    simpa [IsBlank] using blank
  simp only [front, if_neg notNewline, if_pos chars]
  rfl

theorem front_quote :
    front config name consumed '\x22' s =
      frontOf config name consumed (first '\x22' s).1 (first '\x22' s).2 := by
  simp only [front, first, CharClass.ofChar_quote]
  cases s.dropWhile (· ≠ '\x22') with
  | nil => rfl
  | cons closing rest => rfl

theorem numeral_eq {run : List Char} (wellFormed : (Segment.numeral c run).WellFormed)
    (rest : List Char) :
    .ok (numeral ⟨name, .behind consumed⟩ (c :: run) rest) =
      frontOf config name consumed (.numeral c run) rest := by
  have numeric := isNumeric_of_mem_numeral wellFormed
  have last := Numeral.endsInDigit_iff numeric (by simp)
  simp only [numeral, frontOf, Placed.fatal?, Placed.token?, Placed.warning?, kind?,
    Numeral.ofRun, last]
  split_ifs <;> rfl

end Front

/-- The front of a text is its first segment with its meaning. -/
theorem front_eq (config : Config) (name : CodePoints) (consumed : List Char) (c : Char)
    (s : List Char) :
    front config name consumed c s =
      frontOf config name consumed (first c s).1 (first c s).2 := by
  by_cases newline : c = '\n'
  · subst newline
    exact front_newline config name consumed s
  by_cases blank : IsBlank c
  · simp only [first, CharClass.ofChar_of_isBlank blank]
    exact front_blank config name consumed s newline blank
  by_cases quote : c = '\x22'
  · subst quote
    exact front_quote config name consumed s
  have notBlank : ¬ (c = ' ' ∨ c = '\t' ∨ c = '\r' ∨ c = '\x0c' ∨ c = '\x0b') := by
    simpa [IsBlank] using blank
  simp only [front, if_neg newline, if_neg notBlank, if_neg quote, inNumber_eq, inWord_eq]
  by_cases digit : c.isDigit = true
  · have wellFormed := wellFormed_first c s
    simp only [first, CharClass.ofChar_of_isDigit digit] at wellFormed ⊢
    rw [if_pos digit]
    exact numeral_eq config name consumed wellFormed _
  by_cases start : c.isAlpha = true ∨ c = '_'
  · simp only [first, CharClass.ofChar_of_isWordStart start]
    rw [if_neg digit, if_pos start]
    rfl
  · have cls : CharClass.ofChar c = .other := by
      simp [CharClass.ofChar, newline, blank, quote, digit, IsWordStart, start]
    simp only [first, cls]
    rw [if_neg digit, if_neg start]
    simp only [frontOf, Placed.fatal?, Placed.token?, Placed.warning?, kind?, Kind.ofChar?]
    cases punctuation.lookup c <;> rfl

theorem length_rest_of_front {config : Config} {name : CodePoints} {consumed : List Char} {c : Char}
    {s : List Char} {found : Front} (isFront : front config name consumed c s = .ok found) :
    found.rest.length ≤ s.length := by
  rw [front_eq, frontOf] at isFront
  split at isFront
  · simp at isFront
  · cases isFront
    exact length_first_le c s

/-- All that a text means which stands behind the text `consumed`. -/
def read (config : Config) (name : CodePoints) (consumed : List Char) :
    List Char → Except FatalError (List Token × List Warning)
  | [] => .ok ([], [])
  | c :: s =>
      match _isFront : front config name consumed c s with
      | .error error => .error error
      | .ok found =>
          match read config name (consumed ++ found.text) found.rest with
          | .error error => .error error
          | .ok (tokens, warnings) =>
              .ok (found.tokens ++ tokens, found.warnings ++ warnings)
termination_by s => s.length
decreasing_by exact Nat.lt_succ_of_le (length_rest_of_front _isFront)

def tokenize (config : Config) (name : CodePoints) (source : String) : Except Fault TokenSequence :=
  match read config name [] source.toList with
  | .error error => .error (.fatal error)
  | .ok (tokens, warnings) => .ok {
      source := name
      tokens := tokens.toArray
      warnings := warnings.toArray
      isClosed := true }

theorem read_cons (config : Config) (name : CodePoints) (consumed : List Char) (c : Char)
    (s : List Char) :
    read config name consumed (c :: s) =
      match Placed.fatal? config name ⟨consumed, (first c s).1⟩ with
      | some error => .error error
      | none =>
          match read config name (consumed ++ (first c s).1.text) (first c s).2 with
          | .error error => .error error
          | .ok (tokens, warnings) =>
              .ok ((Placed.token? config name ⟨consumed, (first c s).1⟩).toList ++ tokens,
                (Placed.warning? name ⟨consumed, (first c s).1⟩).toList ++ warnings) := by
  rw [read]
  split
  · rename_i isFront
    rw [front_eq, frontOf] at isFront
    split at isFront
    · cases isFront
      rfl
    · simp at isFront
  · rename_i isFront
    rw [front_eq, frontOf] at isFront
    split at isFront
    · simp at isFront
    · cases isFront
      rfl

theorem read_eq (config : Config) (name : CodePoints) (consumed s : List Char) :
    read config name consumed s =
      match Placed.failure? config name (place consumed (all s)) with
      | some error => .error error
      | none => .ok (Placed.tokens config name (place consumed (all s)),
          Placed.warnings name (place consumed (all s))) := by
  fun_induction all s generalizing consumed with
  | case1 =>
      rw [read]
      rfl
  | case2 c s inductionHypothesis =>
      rw [read_cons, inductionHypothesis]
      simp only [place, Placed.failure?_cons, Placed.tokens_cons, Placed.warnings_cons]
      cases Placed.fatal? config name ⟨consumed, (first c s).1⟩ with
      | some error => rfl
      | none =>
          rw [Option.none_or]
          cases Placed.failure? config name (place (consumed ++ (first c s).1.text)
            (all (first c s).2)) <;> rfl

end LexicalPass.Reference

namespace LexicalPass

/-- The pass over a source, with its cursor and its counters, gives what the
reference lexer gives. -/
theorem tokenize_eq_reference (config : Config) (name : CodePoints) (source : String) :
    tokenize config name source = Reference.tokenize config name source := by
  rw [tokenize_eq, Reference.tokenize, Reference.read_eq, segmentsOf]
  cases Segment.Placed.failure? config name
    (Segment.place [] (Segment.all source.toList)) <;> rfl

end LexicalPass
