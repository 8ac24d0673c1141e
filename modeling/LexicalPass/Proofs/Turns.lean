import LexicalPass.Proofs.Segmentation
import LexicalPass.Proofs.Simulation
import Mathlib.Logic.Relation

/-!
The main loop turn by turn.  A turn takes one character and scans the unit that it
starts; it reports at most one warning, and of two sorts only.  A pass that ends has
taken turns up to the end of its text.
-/

set_option autoImplicit false

namespace LexicalPass

namespace Progress

variable {p next : Progress}

theorem warnings_of_emit {token : Token} (emitted : p.emit token = .ok next) :
    next.sequence.warnings = p.sequence.warnings := by
  obtain ⟨cursor, ⟨source, tokens, warnings, isClosed⟩, records⟩ := p
  cases isClosed with
  | false =>
      rw [emit_of_open rfl] at emitted
      cases emitted
      simp [write, TokenSequence.extend]
  | true => simp [emit] at emitted

theorem warnings_of_report {warning : Warning} (reported : p.report warning = .ok next) :
    next.sequence.warnings = p.sequence.warnings.push warning := by
  obtain ⟨cursor, ⟨source, tokens, warnings, isClosed⟩, records⟩ := p
  cases isClosed with
  | false =>
      rw [report_of_open rfl] at reported
      cases reported
      simp [write, TokenSequence.extend]
  | true => simp [report] at reported

end Progress

/-- What a number is made of, is collected from the cursor as it is. -/
theorem Cursor.isNumeric_of_scanNumber {c next : Cursor} {collected lexeme : String}
    (scanned : c.scanNumber collected = .ok (lexeme, next))
    (numeric : ∀ ch ∈ collected.toList, IsNumeric ch) : ∀ ch ∈ lexeme.toList, IsNumeric ch := by
  fun_induction scanNumber c collected with
  | case1 =>
      cases scanned
      exact numeric
  | case2 c collected ch next advanced isNumeric inductionHypothesis =>
      apply inductionHypothesis scanned
      intro other inside
      rw [String.toList_push, List.mem_append, List.mem_singleton] at inside
      rcases inside with earlier | rfl
      · exact numeric other earlier
      · exact isNumeric
  | case3 =>
      cases scanned
      exact numeric
  | case4 => cases scanned

namespace Pass

/-- One turn of the main loop. -/
inductive Turn (config : Config) (name : CodePoints) (p : Progress) : Progress → Prop
  | scanned {c : Char} {cursor : Cursor} {next : Progress} :
      p.cursor.advance = (some c, cursor) →
      unit config ⟨name, p.cursor.position⟩ c { p with cursor } = .ok next →
      Turn config name p next

/-- Where a pass may stand after turns of the main loop. -/
def Reaches (config : Config) (name : CodePoints) : Progress → Progress → Prop :=
  Relation.ReflTransGen (Turn config name)

/-- What a unit at a location may report. -/
inductive Reportable (location : Location) : Warning → Prop
  | malformedNumber {lexeme : String} {flaw : Numeral.Flaw} :
      (∀ c ∈ lexeme.toList, IsNumeric c) →
      Reportable location (.malformedNumber lexeme location flaw.reason)
  | unrecognized {c : Char} :
      Reportable location (.ofDescription (String.singleton c) (Text.describeChar c) location)

/-- The warnings of a sequence after a unit: as they were before, or with one more. -/
def ReportsAtMostOne (location : Location) (before after : TokenSequence) : Prop :=
  after.warnings = before.warnings ∨
    ∃ w, Reportable location w ∧ after.warnings = before.warnings.push w

section Unit

variable {config : Config} {location : Location} {c : Char} {p next : Progress}

theorem reports_of_emit {token : Token} (emitted : p.emit token = .ok next) :
    ReportsAtMostOne location p.sequence next.sequence :=
  .inl (Progress.warnings_of_emit emitted)

theorem reports_of_numeral {lexeme : String} (numeric : ∀ ch ∈ lexeme.toList, IsNumeric ch)
    (done : numeral location lexeme p = .ok next) :
    ReportsAtMostOne location p.sequence next.sequence := by
  unfold numeral at done
  split at done
  · exact reports_of_emit done
  · exact reports_of_emit done
  · rename_i flaw _
    split at done
    · rename_i emitted
      refine .inr ⟨.malformedNumber lexeme location flaw.reason, .malformedNumber numeric, ?_⟩
      rw [Progress.warnings_of_report done, Progress.warnings_of_emit emitted]
    · cases done

theorem reports_of_symbol (done : symbol location c p = .ok next) :
    ReportsAtMostOne location p.sequence next.sequence := by
  unfold symbol at done
  split at done
  · exact reports_of_emit done
  · rw [Warning.unrecognized_singleton] at done
    exact .inr ⟨_, .unrecognized, Progress.warnings_of_report done⟩

/-- What a unit can add to the warnings. -/
theorem reports_of_unit (done : unit config location c p = .ok next) :
    ReportsAtMostOne location p.sequence next.sequence := by
  obtain ⟨cursor, sequence, records⟩ := p
  unfold unit at done
  split at done
  · unfold newline at done
    split at done
    · exact reports_of_emit done
    · cases done
      exact .inl rfl
  · cases done
    exact .inl rfl
  · simp only [string] at done
    split at done
    · have same := Progress.warnings_of_emit done
      exact .inl same
    · cases done
  · rename_i isDigit
    simp only [number] at done
    split at done
    · rename_i scanned
      have digit : c.isDigit = true := CharClass.describes_of_ofChar isDigit
      have numeric := Cursor.isNumeric_of_scanNumber scanned (by simp [IsNumeric, digit])
      have reports := reports_of_numeral numeric done
      exact reports
    · cases done
  · simp only [word] at done
    split at done
    · have same := Progress.warnings_of_emit done
      exact .inl same
    · cases done
  · exact reports_of_symbol done

end Unit

section Run

variable {config : Config} {name : CodePoints} {p q : Progress}

theorem reports_of_turn (turn : Turn config name p q) :
    ∃ position, ReportsAtMostOne ⟨name, position⟩ p.sequence q.sequence := by
  obtain ⟨_, done⟩ := turn
  have reports := reports_of_unit done
  exact ⟨_, reports⟩

/-- A property that every report has, all warnings have wherever a pass may stand. -/
theorem forall_warnings_of_reaches {P : Warning → Prop}
    (reported : ∀ position w, Reportable ⟨name, position⟩ w → P w)
    (reaches : Reaches config name p q) (start : ∀ w ∈ p.sequence.warnings, P w) :
    ∀ w ∈ q.sequence.warnings, P w := by
  induction reaches with
  | refl => exact start
  | tail _ turn inductionHypothesis =>
      intro w inside
      obtain ⟨position, same | ⟨added, reportable, more⟩⟩ := reports_of_turn turn
      · rw [same] at inside
        exact inductionHypothesis w inside
      · rw [more, Array.mem_push] at inside
        rcases inside with earlier | rfl
        · exact inductionHypothesis w earlier
        · exact reported position w reportable

/-- A pass that ends has come by turns to where it stands then. -/
theorem exists_reaches_of_run {completed : Completed} (done : run config name p = .ok completed) :
    ∃ q, Reaches config name p q ∧ completed.sequence = q.sequence.close := by
  fun_induction run config name p with
  | case1 p cursor advanced =>
      cases done
      exact ⟨p, .refl, rfl⟩
  | case2 p c cursor advanced next scanned inductionHypothesis =>
      obtain ⟨q, reaches, same⟩ := inductionHypothesis done
      exact ⟨q, .head (.scanned advanced scanned) reaches, same⟩
  | case3 => cases done

end Run

end Pass

end LexicalPass
