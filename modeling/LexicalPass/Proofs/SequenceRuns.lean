import LexicalPass.Proofs.Simulation
import LexicalPass.TokenSequence.Operation

/-!
Operations on a token sequence, seen as a whole.  What a sequence holds is what
was handed to it before it was first closed, in that order; what came later, what
was no token and what only asked has left no trace.
-/

set_option autoImplicit false

namespace LexicalPass.TokenSequence

namespace Operation

/-- The token that an operation hands over. -/
def token? : Operation → Option Token
  | .append (.token token) => some token
  | _ => none

/-- The warning that an operation hands over. -/
def warning? : Operation → Option Warning
  | .report warning => some warning
  | _ => none

end Operation

/-- The operations up to the first that closes. -/
def untilClosed (operations : List Operation) : List Operation :=
  operations.takeWhile (· ≠ .close)

/-- The tokens that operations bring into a new sequence. -/
def tokensOf (operations : List Operation) : List Token :=
  (untilClosed operations).filterMap Operation.token?

/-- The warnings that operations bring into a new sequence. -/
def warningsOf (operations : List Operation) : List Warning :=
  (untilClosed operations).filterMap Operation.warning?

theorem untilClosed_cons_of_ne {operation : Operation} (keeps : operation ≠ .close)
    (operations : List Operation) :
    untilClosed (operation :: operations) = operation :: untilClosed operations := by
  simp [untilClosed, keeps]

theorem tokensOf_cons_of_ne {operation : Operation} (keeps : operation ≠ .close)
    (operations : List Operation) :
    tokensOf (operation :: operations) = operation.token?.toList ++ tokensOf operations := by
  rw [tokensOf, untilClosed_cons_of_ne keeps, List.filterMap_cons]
  cases operation.token? <;> rfl

theorem warningsOf_cons_of_ne {operation : Operation} (keeps : operation ≠ .close)
    (operations : List Operation) :
    warningsOf (operation :: operations) = operation.warning?.toList ++ warningsOf operations := by
  rw [warningsOf, untilClosed_cons_of_ne keeps, List.filterMap_cons]
  cases operation.warning? <;> rfl

theorem extend_extend (s : TokenSequence) (tokens moreTokens : List Token)
    (warnings moreWarnings : List Warning) :
    (s.extend tokens warnings).extend moreTokens moreWarnings =
      s.extend (tokens ++ moreTokens) (warnings ++ moreWarnings) := by
  simp [extend]

section Step

variable {s : TokenSequence}

/-- An open sequence takes what an operation brings. -/
theorem perform_of_open (isOpen : s.isClosed = false) {operation : Operation}
    (keeps : operation ≠ .close) :
    (s.perform operation).2 =
      s.extend operation.token?.toList operation.warning?.toList := by
  cases operation with
  | append entry =>
      cases entry with
      | token token =>
          simp [perform, appendEntry, isOpen, Operation.token?, Operation.warning?, extend]
      | other typeName =>
          simp [perform, appendEntry, Operation.token?, Operation.warning?, extend]
  | report warning => simp [perform, isOpen, Operation.token?, Operation.warning?, extend]
  | close => exact absurd rfl keeps
  | ask query => simp [Operation.token?, Operation.warning?, extend]

theorem perform_of_closed (isClosed : s.isClosed = true) (operation : Operation) :
    (s.perform operation).2 = s := by
  obtain ⟨source, tokens, warnings, _⟩ := s
  cases isClosed
  cases operation with
  | append entry => cases entry <;> simp [perform, appendEntry]
  | report warning => simp [perform]
  | close => rfl
  | ask query => simp

theorem performAll_of_closed (isClosed : s.isClosed = true) (operations : List Operation) :
    s.performAll operations = s := by
  induction operations with
  | nil => rfl
  | cons operation operations inductionHypothesis =>
      rw [performAll_cons, perform_of_closed isClosed, inductionHypothesis]

/-- A refused operation changes nothing. -/
theorem perform_of_error {operation : Operation} {error : Refusal}
    (refused : (s.perform operation).1 = .error error) : (s.perform operation).2 = s := by
  cases operation with
  | append entry =>
      simp only [perform] at refused ⊢
      split at refused
      · cases refused
      · rfl
  | report warning =>
      simp only [perform] at refused ⊢
      split at refused
      · cases refused
      · rfl
  | close => cases refused
  | ask query => simp

end Step

/-- The sequence that operations make of an open one. -/
theorem performAll_of_open (s : TokenSequence) (isOpen : s.isClosed = false)
    (operations : List Operation) :
    s.performAll operations = { s.extend (tokensOf operations) (warningsOf operations) with
      isClosed := decide (.close ∈ operations) } := by
  induction operations generalizing s with
  | nil =>
      obtain ⟨source, tokens, warnings, _⟩ := s
      cases isOpen
      simp [tokensOf, warningsOf, untilClosed, extend]
  | cons operation operations inductionHypothesis =>
      rw [performAll_cons]
      by_cases closes : operation = .close
      · rw [closes, performAll_of_closed rfl]
        simp [perform, close, tokensOf, warningsOf, untilClosed, extend]
      · rw [perform_of_open isOpen closes, inductionHypothesis (s.extend _ _) isOpen,
          tokensOf_cons_of_ne closes, warningsOf_cons_of_ne closes]
        simp [extend_extend, Ne.symm closes]

theorem performAll_new (name : CodePoints) (operations : List Operation) :
    performAll { source := name } operations = {
      source := name
      tokens := (tokensOf operations).toArray
      warnings := (warningsOf operations).toArray
      isClosed := decide (.close ∈ operations) } := by
  rw [performAll_of_open _ rfl]
  simp [extend]

section Refusal

variable (s : TokenSequence)

/-- That an entry is no token counts before that the sequence is closed. -/
theorem append_eq_error_iff (entry : Entry) (error : Refusal) :
    (s.perform (.append entry)).1 = .error error ↔
      (∃ typeName, entry = .other typeName ∧ error = .write (.notAToken typeName)) ∨
        ∃ token, entry = .token token ∧ s.isClosed = true ∧ error = .write .closed := by
  cases entry with
  | token token =>
      cases isClosed : s.isClosed with
      | false => simp [perform, appendEntry, isClosed]
      | true =>
          simp only [perform, appendEntry, append_of_closed isClosed, Except.error.injEq]
          simp [eq_comm]
  | other typeName =>
      constructor
      · rintro ⟨rfl⟩
        exact .inl ⟨typeName, rfl, rfl⟩
      · rintro (⟨_, ⟨rfl⟩, rfl⟩ | ⟨_, isToken, _⟩)
        · rfl
        · cases isToken

theorem report_eq_error_iff (warning : Warning) (error : Refusal) :
    (s.perform (.report warning)).1 = .error error ↔
      s.isClosed = true ∧ error = .write .closed := by
  cases isClosed : s.isClosed with
  | false => simp [perform, isClosed]
  | true =>
      simp only [perform, report_of_closed isClosed, Except.error.injEq]
      simp [eq_comm]

end Refusal

/-- What is known of a sequence after operations on a new one: what it holds, and
what it answers to any further operation. -/
structure Reflects (name : CodePoints) (operations : List Operation) (s : TokenSequence) :
    Prop where
  source : s.source = name
  tokens : s.tokens.toList = tokensOf operations
  warnings : s.warnings.toList = warningsOf operations
  closed : s.isClosed = true ↔ .close ∈ operations
  append_fails : ∀ entry error, (s.perform (.append entry)).1 = .error error ↔
    (∃ typeName, entry = .other typeName ∧ error = .write (.notAToken typeName)) ∨
      ∃ token, entry = .token token ∧ .close ∈ operations ∧ error = .write .closed
  report_fails : ∀ warning error, (s.perform (.report warning)).1 = .error error ↔
    .close ∈ operations ∧ error = .write .closed
  refused : ∀ operation error, (s.perform operation).1 = .error error → (s.perform operation).2 = s
  asked : ∀ query, (s.perform (.ask query)).2 = s
  /-- Whether either sequence is closed does not count. -/
  agrees : ∀ other others,
    (s.perform (.ask (.agrees (some (performAll { source := other } others))))).1 =
      .ok (.truth (name = other ∧ tokensOf operations = tokensOf others ∧
        warningsOf operations = warningsOf others))

/-- After whatever operations, a sequence holds what was appended and reported
before it was first closed, and refuses what it should. -/
theorem performAll_reflects (name : CodePoints) (operations : List Operation) :
    Reflects name operations (performAll { source := name } operations) where
  source := by rw [performAll_new]
  tokens := by rw [performAll_new]
  warnings := by rw [performAll_new]
  closed := by simp [performAll_new]
  append_fails := by
    intro entry error
    rw [append_eq_error_iff]
    simp [performAll_new]
  report_fails := by
    intro warning error
    rw [report_eq_error_iff]
    simp [performAll_new]
  refused := by
    intro operation error
    exact perform_of_error
  asked := by
    intro query
    exact perform_ask_snd _ query
  agrees := by
    intro other others
    simp [perform, ask, performAll_new, Agrees]

end LexicalPass.TokenSequence
