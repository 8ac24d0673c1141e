import LexicalPass.Pass
import LexicalPass.Proofs.Scanning
import LexicalPass.Proofs.Segmentation

/-!
The pass over a source does what its segments say.  One turn of the main loop
takes one segment, wherever the cursor keeps the text; a whole pass takes all of
them, and is aborted by nothing but an unclosed string literal.
-/

set_option autoImplicit false

namespace LexicalPass

open Segment

/-- A sequence with more tokens and warnings at its end. -/
def TokenSequence.extend (s : TokenSequence) (tokens : List Token) (warnings : List Warning) :
    TokenSequence :=
  { s with tokens := s.tokens ++ tokens.toArray, warnings := s.warnings ++ warnings.toArray }

namespace Progress

open Pass

/-- A pass that has emitted and reported more, and has recorded its warnings. -/
def write (p : Progress) (tokens : List Token) (warnings : List Warning) : Progress where
  cursor := p.cursor
  sequence := p.sequence.extend tokens warnings
  records := p.records ++ (warnings.map warningRecord).toArray

@[simp] theorem write_nil (p : Progress) : p.write [] [] = p := by
  simp [write, TokenSequence.extend]

@[simp] theorem write_write (p : Progress) (tokens tokens' : List Token)
    (warnings warnings' : List Warning) :
    (p.write tokens warnings).write tokens' warnings' =
      p.write (tokens ++ tokens') (warnings ++ warnings') := by
  simp [write, TokenSequence.extend]

theorem emit_of_open {p : Progress} (isOpen : p.sequence.isClosed = false) (token : Token) :
    p.emit token = .ok (p.write [token] []) := by
  simp [emit, isOpen, write, TokenSequence.extend]

theorem report_of_open {p : Progress} (isOpen : p.sequence.isClosed = false)
    (warning : Warning) : p.report warning = .ok (p.write [] [warning]) := by
  simp [report, isOpen, write, TokenSequence.extend]

end Progress

namespace Pass

variable (config : Config) (name : CodePoints)

theorem run_nil {p : Progress} (atEnd : p.cursor.rest = []) :
    run config name p = .ok ⟨p.sequence.close, p.records.push (endRecord p.sequence)⟩ := by
  rw [run]
  split
  · rfl
  · rename_i advanced
    rw [Cursor.advance_nil atEnd] at advanced
    simp at advanced

theorem run_cons {p : Progress} {c : Char} {s : List Char} (starts : p.cursor.rest = c :: s) :
    run config name p =
      match unit config ⟨name, p.cursor.position⟩ c { p with cursor := p.cursor.past c s } with
      | .ok next => run config name next
      | .error aborted => .error aborted := by
  rw [run]
  split
  · rename_i advanced
    rw [Cursor.advance_cons starts] at advanced
    simp at advanced
  · rename_i advanced
    rw [Cursor.advance_cons starts] at advanced
    cases advanced
    split
    · rename_i scanned
      rw [scanned]
    · rename_i scanned
      rw [scanned]

section Unit

variable (before : List Char) {p : Progress}

theorem numeral_of_open (isOpen : p.sequence.isClosed = false) (first : Char)
    (others : List Char) :
    numeral ⟨name, .behind before⟩ (String.ofList (first :: others)) p =
      .ok (p.write (Placed.token? config name ⟨before, .numeral first others⟩).toList
        (Placed.warning? name ⟨before, .numeral first others⟩).toList) := by
  unfold numeral
  rw [String.toList_ofList]
  cases shape : Numeral.ofRun (first :: others) with
  | integer =>
      simp only [Progress.emit_of_open isOpen, Placed.token?, Placed.warning?, kind?, shape]
      rfl
  | decimal =>
      simp only [Progress.emit_of_open isOpen, Placed.token?, Placed.warning?, kind?, shape]
      rfl
  | malformed flaw =>
      have stillOpen (token : Token) : (p.write [token] []).sequence.isClosed = false := isOpen
      simp only [Progress.emit_of_open isOpen, Progress.report_of_open (stillOpen _),
        Progress.write_write, Placed.token?, Placed.warning?, kind?, shape]
      rfl

theorem symbol_of_open (isOpen : p.sequence.isClosed = false) (c : Char) :
    Pass.symbol ⟨name, .behind before⟩ c p =
      .ok (p.write (Placed.token? config name ⟨before, .symbol c⟩).toList
        (Placed.warning? name ⟨before, .symbol c⟩).toList) := by
  unfold Pass.symbol
  cases kind : Kind.ofChar? c with
  | some kind =>
      simp only [Progress.emit_of_open isOpen, Placed.token?, Placed.warning?, kind?, kind]
      rfl
  | none =>
      simp only [Warning.unrecognized_singleton, Progress.report_of_open isOpen, Placed.token?,
        Placed.warning?, kind?, kind]
      rfl

/-- The scanner of a closed segment reads the rest of it, writes what the segment
stands for and leaves the cursor behind it. -/
theorem unit_of_closed {g : Segment} {c : Char} {others s : List Char}
    (wellFormed : g.WellFormed) (stops : g.StopsBefore s) (closed : g.Closed)
    (isOpen : p.sequence.isClosed = false) (starts : g.text = c :: others)
    (rest : p.cursor.rest = others ++ s) :
    ∃ cursor : Cursor, cursor.rest = s ∧ cursor.position = p.cursor.position.afterAll others ∧
      unit config ⟨name, .behind before⟩ c p =
        .ok (Progress.write { p with cursor } (Placed.token? config name ⟨before, g⟩).toList
          (Placed.warning? name ⟨before, g⟩).toList) := by
  obtain ⟨cursor, sequence, records⟩ := p
  have stillOpen (next : Cursor) :
      (⟨next, sequence, records⟩ : Progress).sequence.isClosed = false := isOpen
  cases g with
  | newline =>
      obtain ⟨rfl, rfl⟩ := List.cons.inj starts
      refine ⟨cursor, rest, rfl, ?_⟩
      simp only [unit, CharClass.ofChar_newline, newline]
      split
      · rename_i emits
        rw [Progress.emit_of_open isOpen]
        simp only [Placed.token?, Placed.warning?, kind?, emits, if_true]
        rfl
      · rename_i silent
        simp [Placed.token?, Placed.warning?, kind?, silent]
  | blank d =>
      obtain ⟨rfl, rfl⟩ := List.cons.inj starts
      refine ⟨cursor, rest, rfl, ?_⟩
      simp [unit, CharClass.ofChar_of_isBlank wellFormed, Placed.token?, Placed.warning?, kind?]
  | string body =>
      obtain ⟨rfl, rfl⟩ := List.cons.inj starts
      have closes : cursor.rest = body ++ '\x22' :: s := by simpa using rest
      obtain ⟨next, scanned, nextRest, nextPosition⟩ :=
        Cursor.scanString_closed closes wellFormed ""
      refine ⟨next, nextRest, nextPosition, ?_⟩
      simp only [unit, CharClass.ofChar_quote, string, scanned]
      rw [Progress.emit_of_open (stillOpen next)]
      simp [Placed.token?, Placed.warning?, kind?, lexeme, tokenAt, Placed.position]
  | unclosed body => exact absurd rfl (closed body)
  | numeral d run =>
      obtain ⟨rfl, rfl⟩ := List.cons.inj starts
      obtain ⟨next, scanned, nextRest, nextPosition, _⟩ := Cursor.collects_scanNumber.run
        rest wellFormed.2 stops (String.singleton d)
      refine ⟨next, nextRest, nextPosition, ?_⟩
      simp only [unit, CharClass.ofChar_of_isDigit wellFormed.1, number, scanned]
      rw [← String.ofList_cons, numeral_of_open config name before (stillOpen next)]
  | word d run =>
      obtain ⟨rfl, rfl⟩ := List.cons.inj starts
      obtain ⟨next, scanned, nextRest, nextPosition, _⟩ := Cursor.collects_scanWord.run
        rest wellFormed.2 stops (String.singleton d)
      refine ⟨next, nextRest, nextPosition, ?_⟩
      simp only [unit, CharClass.ofChar_of_isWordStart wellFormed.1, word, scanned]
      rw [Progress.emit_of_open (stillOpen next)]
      simp [Placed.token?, Placed.warning?, kind?, lexeme, text, tokenAt, Placed.position]
  | symbol d =>
      obtain ⟨rfl, rfl⟩ := List.cons.inj starts
      have cls : CharClass.ofChar d = .other := wellFormed
      refine ⟨cursor, rest, rfl, ?_⟩
      simp only [unit, cls]
      exact symbol_of_open config name before isOpen d

theorem unit_of_unclosed {body : List Char} (absent : '\x22' ∉ body)
    (rest : p.cursor.rest = body) :
    unit config ⟨name, .behind before⟩ '\x22' p =
      .error ⟨.fatal (.unterminatedString (String.ofList body) ⟨name, .behind before⟩
        config.previewLength), p.records⟩ := by
  obtain ⟨cursor, sequence, records⟩ := p
  simp only [unit, CharClass.ofChar_quote, string, Cursor.scanString_open rest absent]
  simp

/-- One turn of the main loop takes one closed segment. -/
theorem run_of_closed {g : Segment} {s : List Char} (wellFormed : g.WellFormed)
    (stops : g.StopsBefore s) (closed : g.Closed) (isOpen : p.sequence.isClosed = false)
    (rest : p.cursor.rest = g.text ++ s) (position : p.cursor.position = .behind before) :
    ∃ cursor : Cursor, cursor.rest = s ∧ cursor.position = .behind (before ++ g.text) ∧
      run config name p =
        run config name (Progress.write { p with cursor }
          (Placed.token? config name ⟨before, g⟩).toList
          (Placed.warning? name ⟨before, g⟩).toList) := by
  obtain ⟨c, others, starts⟩ := List.exists_cons_of_ne_nil g.text_ne_nil
  have start : p.cursor.rest = c :: (others ++ s) := by rw [rest, starts, List.cons_append]
  have pastOpen :
      ({ p with cursor := p.cursor.past c (others ++ s) } : Progress).sequence.isClosed = false :=
    isOpen
  obtain ⟨cursor, cursorRest, cursorPosition, done⟩ :=
    unit_of_closed config name before wellFormed stops closed pastOpen starts rfl
  refine ⟨cursor, cursorRest, ?_, ?_⟩
  · rw [cursorPosition, starts, Position.behind_append, Position.afterAll_cons, ← position]
    rfl
  · rw [run_cons config name start, position, done]

end Unit

/-- How a pass that stands at the first of some segments ends. -/
def conclude (config : Config) (name : CodePoints) (p : Progress) (ps : List Placed) :
    Except Aborted Completed :=
  let written := p.write (Placed.tokens config name ps) (Placed.warnings name ps)
  match Placed.failure? config name ps with
  | some error => .error ⟨.fatal error, written.records⟩
  | none => .ok ⟨written.sequence.close, written.records.push (endRecord written.sequence)⟩

theorem conclude_of_closed {config : Config} {name : CodePoints} {p : Progress} {g : Segment}
    (closed : g.Closed) (before : List Char) (gs : List Segment) (cursor : Cursor) :
    conclude config name (Progress.write { p with cursor }
        (Placed.token? config name ⟨before, g⟩).toList (Placed.warning? name ⟨before, g⟩).toList)
        (place (before ++ g.text) gs) =
      conclude config name p (place before (g :: gs)) := by
  have harmless := fatal?_of_closed config name before closed
  simp only [conclude, place, Progress.write_write, Placed.tokens_cons, Placed.warnings_cons,
    Placed.failure?_cons, harmless, Option.none_or]
  rfl

/-- A pass takes all the segments of the text that is left. -/
theorem run_of_tiles (config : Config) (name : CodePoints) {gs : List Segment}
    {s before : List Char} (tiles : Tiles gs s) {p : Progress} (isOpen : p.sequence.isClosed = false)
    (rest : p.cursor.rest = s) (position : p.cursor.position = .behind before) :
    run config name p = conclude config name p (place before gs) := by
  induction tiles generalizing p before with
  | nil =>
      rw [run_nil config name rest]
      simp [conclude, place]
  | @cons g gs s wellFormed stops tiles inductionHypothesis =>
      by_cases closed : g.Closed
      · obtain ⟨cursor, cursorRest, cursorPosition, step⟩ :=
          run_of_closed config name before wellFormed stops closed isOpen rest position
        rw [step, ← conclude_of_closed closed before gs cursor]
        exact inductionHypothesis isOpen cursorRest cursorPosition
      · obtain ⟨body, rfl, rfl, rfl⟩ := last_of_not_closed stops tiles closed
        have start : p.cursor.rest = '\x22' :: body := by rw [rest]; simp [text]
        rw [run_cons config name start, position,
          unit_of_unclosed config name before wellFormed rfl]
        simp [conclude, place, Placed.token?, Placed.warning?, Placed.fatal?, kind?,
          Placed.location, Placed.position]

end Pass

theorem lex_eq (config : Config) (name : CodePoints) (source : String) :
    lex config name source =
      Pass.conclude config name (Pass.start name source) (segmentsOf source) := by
  exact Pass.run_of_tiles config name (tiles_all source.toList) rfl rfl rfl

/-- The tokens and warnings of a text are those of its segments. -/
theorem tokenize_eq (config : Config) (name : CodePoints) (source : String) :
    tokenize config name source =
      match Placed.failure? config name (segmentsOf source) with
      | some error => .error (.fatal error)
      | none => .ok {
          source := name
          tokens := (Placed.tokens config name (segmentsOf source)).toArray
          warnings := (Placed.warnings name (segmentsOf source)).toArray
          isClosed := true } := by
  unfold tokenize
  rw [lex_eq, Pass.conclude]
  cases Placed.failure? config name (segmentsOf source) with
  | some error => rfl
  | none =>
      simp [Progress.write, TokenSequence.extend, TokenSequence.close, Pass.start]

def FatalError.withoutPreview (e : FatalError) : FatalError := { e with preview := none }

/-- Two passes of which both succeed or both fail, and these with errors that
agree in everything but the preview. -/
def FailAlike (first second : Except Fault TokenSequence) : Prop :=
  ((∃ fault, first = .error fault) ↔ ∃ fault, second = .error fault) ∧
  ∀ fault fault', first = .error fault → second = .error fault' →
    ∃ error error', fault = .fatal error ∧ fault' = .fatal error' ∧
      error.withoutPreview = error'.withoutPreview

theorem failAlike_tokenize {config config' : Config} {name : CodePoints} {source source' : String}
    (same : (Placed.failure? config name (segmentsOf source)).map FatalError.withoutPreview =
      (Placed.failure? config' name (segmentsOf source')).map FatalError.withoutPreview) :
    FailAlike (tokenize config name source) (tokenize config' name source') := by
  simp only [tokenize_eq]
  cases failure : Placed.failure? config name (segmentsOf source) with
  | none =>
      cases failure' : Placed.failure? config' name (segmentsOf source') with
      | none => simp [FailAlike]
      | some error' => simp [failure, failure'] at same
  | some error =>
      cases failure' : Placed.failure? config' name (segmentsOf source') with
      | none => simp [failure, failure'] at same
      | some error' =>
          have agree : error.withoutPreview = error'.withoutPreview := by
            simpa [failure, failure'] using same
          simp [FailAlike, agree]

end LexicalPass
