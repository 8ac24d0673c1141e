import LexicalPass.Proofs.QuoteBalance
import Mathlib.Data.List.Induction

/-!
Lexing two texts one after the other.  Where the second text starts with nothing
that could go on with the first, the two are lexed independently: what the
second means is only moved by the length of the first.
-/

set_option autoImplicit false

namespace LexicalPass

open Segment

/-- Where a place in a text comes to be when the text `s` is put in front.  Only
the first line is moved to the right, by what stands on the last line of `s`. -/
def Position.shift (s : List Char) (p : Position) : Position where
  line := p.line + s.count '\n'
  column := if p.line = 1 then p.column + (s.reverse.takeWhile (· ≠ '\n')).length else p.column

def Location.shift (s : List Char) (l : Location) : Location :=
  { l with position := l.position.shift s }

def Token.shift (s : List Char) (t : Token) : Token :=
  { t with position := t.position.shift s }

def Warning.shift (s : List Char) (w : Warning) : Warning :=
  { w with location := w.location.shift s }

def FatalError.shift (s : List Char) (e : FatalError) : FatalError :=
  { e with location := e.location.shift s }

theorem Position.one_le_line_behind (s : List Char) : 1 ≤ (behind s).line := by
  simp only [behind]
  omega

theorem Position.shift_after (s : List Char) {p : Position} (positive : 1 ≤ p.line) (c : Char) :
    (p.after c).shift s = (p.shift s).after c := by
  by_cases newline : c = '\n'
  · have notFirst : p.line + 1 ≠ 1 := by omega
    subst newline
    rw [after_newline, after_newline]
    simp only [shift, if_neg notFirst, mk.injEq, and_true]
    omega
  · simp only [after_of_ne newline, shift, mk.injEq, true_and]
    split_ifs <;> omega

theorem Position.behind_append_eq_shift (s t : List Char) :
    behind (s ++ t) = (behind t).shift s := by
  induction t using List.reverseRecOn with
  | nil => simp [behind, shift]
  | append_singleton t c inductionHypothesis =>
      rw [← List.append_assoc, behind_concat, inductionHypothesis, behind_concat,
        shift_after s (one_le_line_behind t)]

namespace Segment

namespace Placed

/-- A segment with more text before it. -/
def under (s : List Char) (p : Placed) : Placed := { p with before := s ++ p.before }

theorem token?_under (config : Config) (name : CodePoints) (s : List Char) (p : Placed) :
    (p.under s).token? config name = (p.token? config name).map (Token.shift s) := by
  simp only [token?, under, position, Position.behind_append_eq_shift, Option.map_map]
  rfl

theorem location_under (name : CodePoints) (s : List Char) (p : Placed) :
    (p.under s).location name = (p.location name).shift s := by
  simp only [location, under, position, Position.behind_append_eq_shift]
  rfl

theorem warning?_under (name : CodePoints) (s : List Char) (p : Placed) :
    (p.under s).warning? name = (p.warning? name).map (Warning.shift s) := by
  have moved := location_under name s p
  obtain ⟨before, segment⟩ := p
  simp only [under] at moved ⊢
  cases segment with
  | numeral first others =>
      simp only [warning?, moved]
      cases Numeral.ofRun (first :: others) <;> rfl
  | symbol c =>
      simp only [warning?, moved]
      cases Kind.ofChar? c <;> rfl
  | newline => rfl
  | blank c => rfl
  | string body => rfl
  | unclosed body => rfl
  | word first others => rfl

theorem fatal?_under (config : Config) (name : CodePoints) (s : List Char) (p : Placed) :
    (p.under s).fatal? config name = (p.fatal? config name).map (FatalError.shift s) := by
  have moved := location_under name s p
  obtain ⟨before, segment⟩ := p
  simp only [under] at moved ⊢
  cases segment with
  | unclosed body =>
      simp only [fatal?, moved]
      rfl
  | newline => rfl
  | blank c => rfl
  | string body => rfl
  | numeral first others => rfl
  | word first others => rfl
  | symbol c => rfl

theorem tokens_under (config : Config) (name : CodePoints) (s : List Char) (ps : List Placed) :
    tokens config name (ps.map (under s)) = (tokens config name ps).map (Token.shift s) := by
  simp only [tokens, List.filterMap_map, List.map_filterMap, Function.comp_def, token?_under]

theorem warnings_under (name : CodePoints) (s : List Char) (ps : List Placed) :
    warnings name (ps.map (under s)) = (warnings name ps).map (Warning.shift s) := by
  simp only [warnings, List.filterMap_map, List.map_filterMap, Function.comp_def, warning?_under]

theorem failure?_under (config : Config) (name : CodePoints) (s : List Char) (ps : List Placed) :
    failure? config name (ps.map (under s)) =
      (failure? config name ps).map (FatalError.shift s) := by
  induction ps with
  | nil => rfl
  | cons p ps inductionHypothesis =>
      rw [List.map_cons, failure?_cons, failure?_cons, inductionHypothesis, fatal?_under,
        Option.map_or]

end Placed

theorem place_under (s before : List Char) (gs : List Segment) :
    place (s ++ before) gs = (place before gs).map (Placed.under s) := by
  induction gs generalizing before with
  | nil => rfl
  | cons g gs inductionHypothesis =>
      rw [place, place, List.append_assoc, inductionHypothesis]
      rfl

end Segment

/-- At a safe cut the segments of a text are those of its parts. -/
theorem segmentsOf_append {s₁ s₂ : String} (balanced : Even (s₁.toList.count '\x22'))
    (apart : ∀ c ∈ s₂.toList.head?, ¬ IsWordChar c ∧ c ≠ '.') :
    segmentsOf (s₁ ++ s₂) = segmentsOf s₁ ++ (segmentsOf s₂).map (Placed.under s₁.toList) := by
  have left := tiles_all s₁.toList
  have right := tiles_all s₂.toList
  have separate : ∀ c ∈ s₂.toList.head?, ¬ IsWordChar c ∧ ¬ IsNumeric c := by
    intro c head
    obtain ⟨notWord, notPoint⟩ := apart c head
    refine ⟨notWord, ?_⟩
    rintro (digit | point)
    · exact notWord (.inr digit)
    · exact notPoint point
  have joined := tiles_append left (closed_of_even left balanced) separate right
  rw [segmentsOf, String.toList_append, all_of_tiles joined, place_append,
    flatMap_text_of_tiles left, List.nil_append]
  nth_rewrite 2 [← List.append_nil s₁.toList]
  rw [place_under]
  rfl

/-- A text that starts with neither a letter, a digit, an underscore nor a point
is lexed after a text with an even number of quotes as it is lexed alone, but
for its place. -/
theorem tokenize_append (config : Config) (name : CodePoints) (s₁ s₂ : String)
    (balanced : Even (s₁.toList.count '\x22'))
    (apart : ∀ c ∈ s₂.toList.head?, ¬ IsWordChar c ∧ c ≠ '.') :
    ∃ first, tokenize config name s₁ = .ok first ∧
      ((∃ whole, tokenize config name (s₁ ++ s₂) = .ok whole) ↔
        ∃ second, tokenize config name s₂ = .ok second) ∧
      (∀ second, tokenize config name s₂ = .ok second →
        tokenize config name (s₁ ++ s₂) = .ok {
          source := name
          tokens := first.tokens ++ second.tokens.map (Token.shift s₁.toList)
          warnings := first.warnings ++ second.warnings.map (Warning.shift s₁.toList)
          isClosed := true }) ∧
      ∀ fault, tokenize config name s₂ = .error fault →
        ∃ error, fault = .fatal error ∧
          tokenize config name (s₁ ++ s₂) = .error (.fatal (error.shift s₁.toList)) := by
  simp only [tokenize_eq, segmentsOf_append balanced apart, Placed.failure?_append,
    failure?_of_even balanced, Option.none_or, Placed.failure?_under, Placed.tokens_append,
    Placed.tokens_under, Placed.warnings_append, Placed.warnings_under]
  refine ⟨_, rfl, ?_⟩
  cases Placed.failure? config name (segmentsOf s₂) with
  | none => simp
  | some error => simp

/-- A cut right after a number on the second line of the text. -/
theorem tokenize_append_after_number :
    ∃ first second, tokenize {} "f" "\"a\"\n12" = .ok first ∧
      tokenize {} "f" "+3." = .ok second ∧
      tokenize {} "f" ("\"a\"\n12" ++ "+3.") = .ok {
        source := "f"
        tokens := first.tokens ++ second.tokens.map (Token.shift "\"a\"\n12".toList)
        warnings := first.warnings ++ second.warnings.map (Warning.shift "\"a\"\n12".toList)
        isClosed := true } := by
  have apart : ∀ c ∈ "+3.".toList.head?, ¬ IsWordChar c ∧ c ≠ '.' := by
    rintro c ⟨rfl⟩
    decide
  obtain ⟨first, firstDone, _, joined, _⟩ :=
    tokenize_append {} "f" "\"a\"\n12" "+3." (by decide) apart
  have secondDone := tokenize_eq {} "f" "+3."
  rw [failure?_of_even (by decide)] at secondDone
  exact ⟨first, _, firstDone, secondDone, joined _ secondDone⟩

end LexicalPass
