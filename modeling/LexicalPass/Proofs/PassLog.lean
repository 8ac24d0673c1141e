import LexicalPass.Proofs.QuoteBalance
import LexicalPass.Proofs.SourceOrder

/-!
What a pass records.  Every warning is recorded when it is met, between a record
of the start and one of the end; a pass that is aborted leaves out the end.  Up
to the quote that aborts it, a pass does what it does on the text before that
quote.
-/

set_option autoImplicit false

namespace LexicalPass

open Segment

/-- How the record of a warning reads. -/
def Warning.record (name : CodePoints) (w : Warning) : LogRecord where
  level := .debug
  logger := "solace.lexer.lexer"
  message := name ++ ":" ++ toString w.location.line ++ ":" ++ toString w.location.column ++ ": " ++
    w.message

theorem warningRecord_of_warning? {name : CodePoints} {p : Placed} {w : Warning}
    (found : p.warning? name = some w) : Pass.warningRecord w = w.record name := by
  have named : w.location.source = name := by
    rw [Placed.location_of_warning? found]
    rfl
  rw [Pass.warningRecord, Location.render, named]
  rfl

theorem map_warningRecord (name : CodePoints) (ps : List Placed) :
    (Placed.warnings name ps).map Pass.warningRecord =
      (Placed.warnings name ps).map (Warning.record name) := by
  apply List.map_congr_left
  intro w inside
  obtain ⟨p, _, found⟩ := List.mem_filterMap.mp inside
  exact warningRecord_of_warning? found

/-- The records of a pass, by the segments of its source. -/
theorem passRecords_eq (config : Config) (name : CodePoints) (source : String) :
    passRecords config name source =
      Pass.startRecord name source ::
        (Placed.warnings name (segmentsOf source)).map (Warning.record name) ++
        match Placed.failure? config name (segmentsOf source) with
        | some _ => []
        | none => [Pass.endRecord {
            source := name
            tokens := (Placed.tokens config name (segmentsOf source)).toArray
            warnings := (Placed.warnings name (segmentsOf source)).toArray }] := by
  rw [← map_warningRecord]
  unfold passRecords
  rw [lex_eq, Pass.conclude]
  cases Placed.failure? config name (segmentsOf source) with
  | some error => simp [Progress.write, Pass.start]
  | none => simp [Progress.write, Pass.start, TokenSequence.extend]

/-- A source with an odd number of quotes is cut before its last quote into
segments that are those of the text before the cut, and an unclosed literal. -/
theorem segmentsOf_of_odd {source : String} (unbalanced : Odd (source.toList.count '\x22')) :
    ∃ before body, source.toList = before ++ '\x22' :: body ∧ '\x22' ∉ body ∧
      Even (before.count '\x22') ∧
      segmentsOf source = segmentsOf (String.ofList before) ++ [⟨before, .unclosed body⟩] := by
  have tiles := tiles_all source.toList
  rcases closed_or_ends_unclosed tiles with
    closed | ⟨hs, before, body, tilesBefore, closedBefore, absent, segments, whole⟩
  · have even := even_count_quote_of_tiles tiles closed
    exact absurd unbalanced (Nat.not_odd_iff_even.mpr even)
  · have even := even_count_quote_of_tiles tilesBefore closedBefore
    refine ⟨before, body, whole, absent, even, ?_⟩
    rw [segmentsOf, segments, place_append, flatMap_text_of_tiles tilesBefore, List.nil_append,
      segmentsOf, String.toList_ofList, all_of_tiles tilesBefore]
    rfl

/-- A pass records its start, each warning and, if it comes to its end, what it
has found.  A pass that fails records the warnings of the pass over the text
before the last quote, which succeeds. -/
theorem passRecords_keep_warnings (config : Config) (name : CodePoints) (source : String) :
    let opening : LogRecord :=
      ⟨.debug, "solace.lexer.lexer",
        "Lexing " ++ name ++ " (" ++ toString source.length ++ " characters)"⟩
    (∀ sequence, tokenize config name source = .ok sequence →
      passRecords config name source =
        opening :: sequence.warnings.toList.map (Warning.record name) ++
          [⟨.debug, "solace.lexer.lexer",
            "Lexed " ++ name ++ ": " ++ toString sequence.tokens.size ++ " tokens, " ++
              toString sequence.warnings.size ++ " diagnostics"⟩]) ∧
    ∀ fault, tokenize config name source = .error fault →
      ∃ before body cut, source.toList = before ++ '\x22' :: body ∧ '\x22' ∉ body ∧
        tokenize config name (String.ofList before) = .ok cut ∧
        passRecords config name source =
          opening :: cut.warnings.toList.map (Warning.record name) := by
  intro opening
  rw [tokenize_eq, passRecords_eq]
  rcases Nat.even_or_odd (source.toList.count '\x22') with balanced | unbalanced
  · rw [failure?_of_even balanced]
    constructor
    · rintro sequence ⟨rfl⟩
      rfl
    · simp
  · obtain ⟨before, body, whole, absent, even, segments⟩ := segmentsOf_of_odd unbalanced
    have balanced : Even ((String.ofList before).toList.count '\x22') := by
      rwa [String.toList_ofList]
    have done := tokenize_eq config name (String.ofList before)
    rw [failure?_of_even balanced] at done
    -- The unclosed literal adds the failure and no warning.
    have failure : Placed.failure? config name (segmentsOf source) =
        Placed.fatal? config name ⟨before, .unclosed body⟩ := by
      simp [segments, failure?_of_even balanced]
    have warnings : Placed.warnings name (segmentsOf source) =
        Placed.warnings name (segmentsOf (String.ofList before)) := by
      simp [segments, Placed.warning?]
    rw [failure, warnings]
    constructor
    · simp [Placed.fatal?]
    · intro fault _
      exact ⟨before, body, _, whole, absent, done, List.append_nil _⟩

/-- A number that the quote ends in one pass, and the end of the text in the other. -/
theorem passRecords_of_number_before_quote :
    ∃ fault before body cut, tokenize {} "f" "$1.\"x" = .error fault ∧
      "$1.\"x".toList = before ++ '\x22' :: body ∧ '\x22' ∉ body ∧
      tokenize {} "f" (String.ofList before) = .ok cut ∧
      passRecords {} "f" "$1.\"x" =
        ⟨.debug, "solace.lexer.lexer", "Lexing f (5 characters)"⟩ ::
          cut.warnings.toList.map (Warning.record "f") ∧
      cut.warnings.toList.map (Warning.record "f") =
        [⟨.debug, "solace.lexer.lexer", "f:1:1: Unrecognized character: '$'"⟩,
         ⟨.debug, "solace.lexer.lexer", "f:1:2: Malformed numeric literal: '1.'"⟩] := by
  obtain ⟨_, _, _, _, failure⟩ := @failure?_of_odd "$1.\"x" (by decide) {} "f"
  have failed := tokenize_eq {} "f" "$1.\"x"
  rw [failure] at failed
  obtain ⟨before, body, cut, whole, absent, done, records⟩ :=
    (passRecords_keep_warnings {} "f" "$1.\"x").2 _ failed
  have computed : passRecords {} "f" "$1.\"x" =
      [⟨.debug, "solace.lexer.lexer", "Lexing f (5 characters)"⟩,
       ⟨.debug, "solace.lexer.lexer", "f:1:1: Unrecognized character: '$'"⟩,
       ⟨.debug, "solace.lexer.lexer", "f:1:2: Malformed numeric literal: '1.'"⟩] := by
    decide +kernel
  exact ⟨_, before, body, cut, failed, whole, absent, done, records,
    (List.cons.inj (records.symm.trans computed)).2⟩

end LexicalPass
