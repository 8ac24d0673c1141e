import LexicalPass.Proofs.OutsideLiterals
import LexicalPass.Proofs.QuoteBalance

/-!
What a configuration can change.  Two passes over one source take the same
segments, so they fail alike; on success they differ in the tokens of line ends
at most, and these are the line feeds before which the quotes are balanced.
-/

set_option autoImplicit false

namespace LexicalPass

open Segment

namespace Segment

theorem kind?_congr {config config' : Config}
    (same : config.emitEndOfLine = config'.emitEndOfLine) (g : Segment) :
    g.kind? config = g.kind? config' := by
  cases g <;> simp [kind?, same]

/-- Only a line feed stands for a line end. -/
theorem kind?_eq_endOfLine_iff {config : Config} {g : Segment} :
    g.kind? config = some .endOfLine ↔ g = newline ∧ config.emitEndOfLine = true := by
  rcases g.newline_or_literal_or_isPlain with rfl | ⟨body, rfl⟩ | ⟨body, rfl⟩ | plain
  · simp [kind?]
  · simp [kind?]
  · simp [kind?]
  · constructor
    · intro found
      exact absurd rfl (kind?_of_isPlain plain found).2
    · rintro ⟨rfl, _⟩
      exact plain.elim

/-- All other segments stand for the same under every configuration. -/
theorem kind?_of_ne_newline {g : Segment} (other : g ≠ newline) (config config' : Config) :
    g.kind? config = g.kind? config' := by
  cases g with
  | newline => exact absurd rfl other
  | _ => rfl

namespace Placed

variable (config config' : Config) (name : CodePoints)

theorem fatal?_withoutPreview (p : Placed) :
    (p.fatal? config name).map FatalError.withoutPreview =
      (p.fatal? config' name).map FatalError.withoutPreview := by
  obtain ⟨before, g⟩ := p
  cases g <;> rfl

theorem failure?_withoutPreview (ps : List Placed) :
    (failure? config name ps).map FatalError.withoutPreview =
      (failure? config' name ps).map FatalError.withoutPreview := by
  simp only [failure?, List.map_findSome?, Function.comp_def, fatal?_withoutPreview config config']

theorem tokens_congr {config config' : Config} (same : config.emitEndOfLine = config'.emitEndOfLine)
    (name : CodePoints) (ps : List Placed) : tokens config name ps = tokens config' name ps := by
  have tell : token? config name = token? config' name := by
    funext p
    simp only [token?, kind?_congr same]
  rw [tokens, tokens, tell]

theorem token?_newline (before : List Char) :
    (token? config name ⟨before, newline⟩).filter (·.kind ≠ .endOfLine) = none := by
  cases emits : config.emitEndOfLine <;> simp [token?, kind?, emits, Option.filter]

/-- Under all configurations a segment stands for the same token but for line ends. -/
theorem token?_without_endOfLine (p : Placed) :
    (p.token? config name).filter (·.kind ≠ .endOfLine) =
      (p.token? config' name).filter (·.kind ≠ .endOfLine) := by
  obtain ⟨before, g⟩ := p
  by_cases isNewline : g = newline
  · rw [isNewline, token?_newline, token?_newline]
  · simp only [token?, kind?_of_ne_newline isNewline config config']

theorem tokens_without_endOfLine (ps : List Placed) :
    (tokens config name ps).filter (·.kind ≠ .endOfLine) =
      (tokens config' name ps).filter (·.kind ≠ .endOfLine) := by
  simp only [tokens, List.filter_filterMap, token?_without_endOfLine config config']

/-- A token of a line end comes from a line feed, under a configuration that
keeps these. -/
theorem newline_of_endOfLine {config : Config} {name : CodePoints} {p : Placed} {token : Token}
    (found : p.token? config name = some token) (isEnd : token.kind = .endOfLine) :
    p.segment = newline ∧ config.emitEndOfLine = true := by
  obtain ⟨kind, isKind, rfl⟩ := Option.map_eq_some_iff.mp found
  have isEnd : kind = .endOfLine := isEnd
  exact kind?_eq_endOfLine_iff.mp (isEnd ▸ isKind)

theorem filter_endOfLine_of_ne_newline {before : List Char} {g : Segment} (other : g ≠ newline) :
    (token? config name ⟨before, g⟩).filter (·.kind = .endOfLine) = none := by
  apply Option.filter_eq_none_iff.mpr
  intro token found isEnd
  exact other (newline_of_endOfLine found (of_decide_eq_true isEnd)).1

end Placed

end Segment

/-- The token of the line feed right behind a text. -/
def Token.endOfLineBehind (name : CodePoints) (before : List Char) : Token :=
  ⟨.endOfLine, "\n", name, .behind before⟩

/-- A segment stands for a line end where it is a line feed outside literals. -/
theorem endOfLine_of_marks {config : Config} (emits : config.emitEndOfLine = true)
    (name : CodePoints)
    {g : Segment} {before : List Char} (wellFormed : g.WellFormed) (closed : g.Closed)
    (balanced : Even (before.count '\x22')) :
    ((Placed.token? config name ⟨before, g⟩).filter (·.kind = .endOfLine)).toList =
      (marksFrom (· = '\n') before g.text).map fun mark => .endOfLineBehind name mark.1 := by
  rcases g.newline_or_literal_or_isPlain with rfl | ⟨body, rfl⟩ | ⟨body, rfl⟩ | plain
  · simp [Placed.token?, kind?, emits, marksFrom, text, balanced, lexeme, Placed.position,
      Token.endOfLineBehind]
  · have unmarked : marksFrom (· = '\n') before (string body).text = [] :=
      marksFrom_literal balanced wellFormed (by decide)
    rw [unmarked, Placed.filter_endOfLine_of_ne_newline config name (by simp)]
    rfl
  · exact absurd rfl (closed body)
  · have other : g ≠ newline := by
      rintro rfl
      exact plain.elim
    have absent : ∀ c ∈ g.text, decide (c = '\n') = false := by
      intro c inside
      simp [(mem_text_of_isPlain wellFormed plain c inside).1]
    rw [marksFrom_of_absent absent, Placed.filter_endOfLine_of_ne_newline config name other]
    rfl

theorem lineEnds_of_tokenize {config : Config} (emits : config.emitEndOfLine = true)
    {name : CodePoints} {source : String} (closed : ∀ g ∈ all source.toList, g.Closed) :
    (Placed.tokens config name (segmentsOf source)).filter (·.kind = .endOfLine) =
      (outsideLiterals (· = '\n') source.toList).map fun (_, i) =>
        .endOfLineBehind name (source.toList.take i) := by
  have balanced : Even (([] : List Char).count '\x22') := by decide
  have told := filterMap_place_of_marks
    (fun p => (p.token? config name).filter (·.kind = .endOfLine))
    (fun mark => Token.endOfLineBehind name mark.1)
    (endOfLine_of_marks emits name) (tiles_all source.toList) closed balanced
  rw [Placed.tokens, List.filter_filterMap, segmentsOf, told, marksFrom_nil_eq, List.map_map]
  rfl

/-- Two configurations make two passes over one source fail alike or succeed
with the same warnings and the same tokens but for line ends, which are there
only if the configuration keeps them, and then for each line feed outside of
string literals. -/
theorem tokenize_config_influence (config config' : Config) (name : CodePoints) (source : String) :
    FailAlike (tokenize config name source) (tokenize config' name source) ∧
    (∀ sequence sequence', tokenize config name source = .ok sequence →
      tokenize config' name source = .ok sequence' →
      sequence.warnings = sequence'.warnings ∧
      sequence.tokens.toList.filter (·.kind ≠ .endOfLine) =
        sequence'.tokens.toList.filter (·.kind ≠ .endOfLine) ∧
      (config.emitEndOfLine = config'.emitEndOfLine → sequence = sequence')) ∧
    ∀ sequence, tokenize config name source = .ok sequence →
      (config.emitEndOfLine = false → ∀ token ∈ sequence.tokens.toList, token.kind ≠ .endOfLine) ∧
      (config.emitEndOfLine = true →
        sequence.tokens.toList.filter (·.kind = .endOfLine) =
          (outsideLiterals (· = '\n') source.toList).map fun (_, i) =>
            ⟨.endOfLine, "\n", name, .behind (source.toList.take i)⟩) := by
  refine ⟨failAlike_tokenize (Placed.failure?_withoutPreview config config' name _), ?_, ?_⟩
  · intro sequence sequence' done done'
    obtain ⟨_, rfl⟩ := of_tokenize_ok done
    obtain ⟨_, rfl⟩ := of_tokenize_ok done'
    refine ⟨rfl, Placed.tokens_without_endOfLine config config' name _, ?_⟩
    intro same
    rw [Placed.tokens_congr same]
  · intro sequence done
    obtain ⟨closed, rfl⟩ := of_tokenize_ok done
    refine ⟨?_, fun emits => lineEnds_of_tokenize emits closed⟩
    intro silent token inside isEnd
    obtain ⟨p, _, found⟩ := List.mem_filterMap.mp inside
    have emits := (Placed.newline_of_endOfLine found isEnd).2
    rw [silent] at emits
    simp at emits

/-- Of three line feeds the one inside the literal is no line end. -/
theorem tokenize_line_ends_around_literal :
    ∃ sequence, tokenize { emitEndOfLine := true } "f" "1\n\"a\nb\"\nx" = .ok sequence ∧
      sequence.tokens.toList.filter (·.kind = .endOfLine) =
        [⟨.endOfLine, "\n", "f", ⟨1, 2⟩⟩, ⟨.endOfLine, "\n", "f", ⟨3, 3⟩⟩] := by
  have done := tokenize_eq { emitEndOfLine := true } "f" "1\n\"a\nb\"\nx"
  rw [failure?_of_even (by decide)] at done
  have influence := tokenize_config_influence { emitEndOfLine := true } {} "f" "1\n\"a\nb\"\nx"
  have lineEnds := (influence.2.2 _ done).2 rfl
  refine ⟨_, done, lineEnds.trans ?_⟩
  decide

end LexicalPass
