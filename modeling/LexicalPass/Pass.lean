import LexicalPass.Config
import LexicalPass.Cursor.Scan
import LexicalPass.Diagnostic.FatalError
import LexicalPass.Log
import LexicalPass.Token.Numeral
import LexicalPass.TokenSequence

/-!
The pass over a source.  It takes a character from the cursor, hands it to the
scanner of its class, and goes on until the text ends.  Malformed numbers and
stray characters are reported on the way; a string literal without its closing
quote aborts the pass.

Every unit shortens the text still to be read, which is why the pass ends.
-/

set_option autoImplicit false

namespace LexicalPass

/-- What can abort a pass.  Besides fatal errors these are the refusals of the
cursor, of the sequence and of the description of a character, none of which
the pass provokes. -/
inductive Fault where
  | fatal (error : FatalError)
  | pushback (error : Cursor.PushbackError)
  | write (error : TokenSequence.WriteError)
  | describe (error : Text.DescribeError)
deriving DecidableEq, Repr

def Fault.message : Fault → CodePoints
  | fatal error => error.render
  | pushback error => error.message
  | write error => error.message
  | describe error => error.message

/-- Where a pass stands. -/
structure Progress where
  cursor : Cursor
  sequence : TokenSequence
  records : Array LogRecord := #[]
deriving DecidableEq, Repr

structure Completed where
  sequence : TokenSequence
  records : Array LogRecord
deriving DecidableEq, Repr

/-- What was recorded before a pass was aborted is kept. -/
structure Aborted where
  fault : Fault
  records : Array LogRecord
deriving DecidableEq, Repr

namespace Pass

def passRecord (message : CodePoints) : LogRecord := ⟨.debug, "solace.lexer.lexer", message⟩

def startRecord (name : CodePoints) (source : String) : LogRecord :=
  passRecord ("Lexing " ++ name ++ " (" ++ toString source.length ++ " characters)")

def warningRecord (warning : Warning) : LogRecord :=
  passRecord (warning.location.render ++ ": " ++ warning.message)

def endRecord (sequence : TokenSequence) : LogRecord :=
  passRecord ("Lexed " ++ sequence.source ++ ": " ++ toString sequence.size ++ " tokens, " ++
    toString sequence.warnings.size ++ " diagnostics")

end Pass

namespace Progress

open Pass

def emit : Progress → Token → Except Aborted Progress
  | ⟨cursor, sequence, records⟩, token =>
      match sequence.append token with
      | .ok sequence => .ok ⟨cursor, sequence, records⟩
      | .error e => .error ⟨.write e, records⟩

def report : Progress → Warning → Except Aborted Progress
  | ⟨cursor, sequence, records⟩, warning =>
      let records := records.push (warningRecord warning)
      match sequence.report warning with
      | .ok sequence => .ok ⟨cursor, sequence, records⟩
      | .error e => .error ⟨.write e, records⟩

theorem cursor_of_emit {p next : Progress} {token : Token} (emitted : p.emit token = .ok next) :
    next.cursor = p.cursor := by
  obtain ⟨cursor, sequence, records⟩ := p
  simp only [emit] at emitted
  split at emitted
  · cases emitted
    rfl
  · simp at emitted

theorem cursor_of_report {p next : Progress} {warning : Warning}
    (reported : p.report warning = .ok next) : next.cursor = p.cursor := by
  obtain ⟨cursor, sequence, records⟩ := p
  simp only [report] at reported
  split at reported
  · cases reported
    rfl
  · simp at reported

end Progress

namespace Pass

variable (config : Config) (location : Location)

/-- A token at the place where the current unit starts. -/
def tokenAt (kind : Kind) (lexeme : String) : Token :=
  ⟨kind, lexeme, location.source, location.position⟩

def newline (p : Progress) : Except Aborted Progress :=
  if config.emitEndOfLine then p.emit (tokenAt location .endOfLine "\n") else .ok p

def string : Progress → Except Aborted Progress
  | ⟨cursor, sequence, records⟩ =>
      match cursor.scanString "" with
      | (body, some cursor) =>
          Progress.emit ⟨cursor, sequence, records⟩ (tokenAt location .stringLiteral body)
      | (body, none) =>
          .error ⟨.fatal (.unterminatedString body location config.previewLength), records⟩

/-- Emit a numeral; one that is malformed is emitted as invalid and reported. -/
def numeral (lexeme : String) (p : Progress) : Except Aborted Progress :=
  match Numeral.ofRun lexeme.toList with
  | .integer => p.emit (tokenAt location .intLiteral lexeme)
  | .decimal => p.emit (tokenAt location .floatLiteral lexeme)
  | .malformed flaw =>
      match p.emit (tokenAt location .invalid lexeme) with
      | .ok p => p.report (.malformedNumber lexeme location flaw.reason)
      | .error aborted => .error aborted

def number (first : Char) : Progress → Except Aborted Progress
  | ⟨cursor, sequence, records⟩ =>
      match cursor.scanNumber (String.singleton first) with
      | .ok (lexeme, cursor) => numeral location lexeme ⟨cursor, sequence, records⟩
      | .error e => .error ⟨.pushback e, records⟩

def word (first : Char) : Progress → Except Aborted Progress
  | ⟨cursor, sequence, records⟩ =>
      match cursor.scanWord (String.singleton first) with
      | .ok (lexeme, cursor) =>
          Progress.emit ⟨cursor, sequence, records⟩ (tokenAt location .identifier lexeme)
      | .error e => .error ⟨.pushback e, records⟩

/-- A character without a scanner is punctuation or is reported and skipped. -/
def symbol (c : Char) (p : Progress) : Except Aborted Progress :=
  match Kind.ofChar? c with
  | some kind => p.emit (tokenAt location kind (String.singleton c))
  | none =>
      match Warning.unrecognized (String.singleton c) location with
      | .ok warning => p.report warning
      | .error e => .error ⟨.describe e, p.records⟩

/-- Scan the unit that starts with `c`, which the cursor is past. -/
def unit (c : Char) (p : Progress) : Except Aborted Progress :=
  match CharClass.ofChar c with
  | .newline => newline config location p
  | .whitespace => .ok p
  | .quote => string config location p
  | .digit => number location c p
  | .wordStart => word location c p
  | .other => symbol location c p

theorem rest_le_of_string {p next : Progress} (done : string config location p = .ok next) :
    next.cursor.rest.length ≤ p.cursor.rest.length := by
  obtain ⟨cursor, sequence, records⟩ := p
  simp only [string] at done
  split at done
  · rename_i scanned
    rw [Progress.cursor_of_emit done]
    exact Cursor.rest_le_of_scanString scanned
  · simp at done

theorem cursor_of_numeral {lexeme : String} {p next : Progress}
    (done : numeral location lexeme p = .ok next) : next.cursor = p.cursor := by
  unfold numeral at done
  split at done
  · exact Progress.cursor_of_emit done
  · exact Progress.cursor_of_emit done
  · split at done
    · rename_i emitted
      rw [Progress.cursor_of_report done, Progress.cursor_of_emit emitted]
    · simp at done

theorem rest_le_of_number {first : Char} {p next : Progress}
    (done : number location first p = .ok next) :
    next.cursor.rest.length ≤ p.cursor.rest.length := by
  obtain ⟨cursor, sequence, records⟩ := p
  simp only [number] at done
  split at done
  · rename_i scanned
    rw [cursor_of_numeral location done]
    exact Cursor.rest_le_of_scanNumber scanned
  · simp at done

theorem rest_le_of_word {first : Char} {p next : Progress}
    (done : word location first p = .ok next) :
    next.cursor.rest.length ≤ p.cursor.rest.length := by
  obtain ⟨cursor, sequence, records⟩ := p
  simp only [word] at done
  split at done
  · rename_i scanned
    rw [Progress.cursor_of_emit done]
    exact Cursor.rest_le_of_scanWord scanned
  · simp at done

theorem cursor_of_symbol {c : Char} {p next : Progress}
    (done : symbol location c p = .ok next) : next.cursor = p.cursor := by
  unfold symbol at done
  cases kind : Kind.ofChar? c with
  | some kind =>
      rw [kind] at done
      exact Progress.cursor_of_emit done
  | none =>
      rw [kind, Warning.unrecognized_singleton] at done
      exact Progress.cursor_of_report done

/-- No scanner reads backwards. -/
theorem rest_le_of_unit {c : Char} {p next : Progress}
    (done : unit config location c p = .ok next) :
    next.cursor.rest.length ≤ p.cursor.rest.length := by
  unfold unit at done
  split at done
  · unfold newline at done
    split at done
    · simp [Progress.cursor_of_emit done]
    · cases done
      exact Nat.le_refl _
  · cases done
    exact Nat.le_refl _
  · exact rest_le_of_string config location done
  · exact rest_le_of_number location done
  · exact rest_le_of_word location done
  · simp [cursor_of_symbol location done]

/-- Go on with a pass until the text ends. -/
def run (config : Config) (name : CodePoints) (p : Progress) : Except Aborted Completed :=
  match _advanced : p.cursor.advance with
  | (none, _) => .ok ⟨p.sequence.close, p.records.push (endRecord p.sequence)⟩
  | (some c, cursor) =>
      match _scanned : unit config ⟨name, p.cursor.position⟩ c { p with cursor } with
      | .ok next => run config name next
      | .error aborted => .error aborted
termination_by p.cursor.rest.length
decreasing_by
  have shorter := congrArg List.length (Cursor.rest_of_advance _advanced)
  have after := rest_le_of_unit _ _ _scanned
  simp only [List.length_cons] at shorter after
  omega

def start (name : CodePoints) (source : String) : Progress where
  cursor := .ofText source
  sequence := { source := name }
  records := #[startRecord name source]

end Pass

/-- Lex a source text under a name. -/
def lex (config : Config) (name : CodePoints) (source : String) : Except Aborted Completed :=
  Pass.run config name (Pass.start name source)

/-- The tokens of a source text, or what aborted the pass. -/
def tokenize (config : Config) (name : CodePoints) (source : String) :
    Except Fault TokenSequence :=
  match lex config name source with
  | .ok completed => .ok completed.sequence
  | .error aborted => .error aborted.fault

/-- All that a pass over a source text recorded, to whichever end it came. -/
def passRecords (config : Config) (name : CodePoints) (source : String) : List LogRecord :=
  match lex config name source with
  | .ok completed => completed.records.toList
  | .error aborted => aborted.records.toList

end LexicalPass
