import LexicalPass.Proofs.Simulation
import Mathlib.Algebra.Ring.Parity

/-!
Quotes decide whether a pass succeeds.  Outside string literals no scanner reads
over a quote, so a source with an even number of them is read to its end, and
one with an odd number breaks off at the last of them.
-/

set_option autoImplicit false

namespace LexicalPass

open Segment

theorem odd_count_of_unclosed {front body : List Char} (even : Even (front.count '\x22'))
    (absent : '\x22' ∉ body) : Odd ((front ++ '\x22' :: body).count '\x22') := by
  rw [List.count_append, List.count_cons_self, List.count_eq_zero_of_not_mem absent]
  exact even.add_one

theorem closed_of_even {gs : List Segment} {s : List Char} (tiles : Tiles gs s)
    (balanced : Even (s.count '\x22')) : ∀ g ∈ gs, g.Closed := by
  rcases closed_or_ends_unclosed tiles with
    closed | ⟨hs, front, body, tilesFront, closedFront, absent, rfl, rfl⟩
  · exact closed
  · have even := even_count_quote_of_tiles tilesFront closedFront
    have odd := odd_count_of_unclosed even absent
    exact absurd balanced (Nat.not_even_iff_odd.mpr odd)

theorem failure?_of_even {source : String} (balanced : Even (source.toList.count '\x22'))
    (config : Config) (name : CodePoints) :
    Placed.failure? config name (segmentsOf source) = none :=
  failure?_of_closed config name [] (closed_of_even (tiles_all source.toList) balanced)

/-- A source with an odd number of quotes ends in a literal that its last quote
opens. -/
theorem failure?_of_odd {source : String} (unbalanced : Odd (source.toList.count '\x22'))
    (config : Config) (name : CodePoints) :
    ∃ before body, source.toList = before ++ '\x22' :: body ∧ '\x22' ∉ body ∧
      Placed.failure? config name (segmentsOf source) =
        some (.unterminatedString (String.ofList body) ⟨name, .behind before⟩
          config.previewLength) := by
  have tiles := tiles_all source.toList
  rcases closed_or_ends_unclosed tiles with
    closed | ⟨hs, front, body, tilesFront, closedFront, absent, segments, whole⟩
  · have even := even_count_quote_of_tiles tiles closed
    exact absurd unbalanced (Nat.not_odd_iff_even.mpr even)
  · refine ⟨front, body, whole, absent, ?_⟩
    rw [segmentsOf, segments, place_append, flatMap_text_of_tiles tilesFront,
      Placed.failure?_append, failure?_of_closed config name [] closedFront, Option.none_or]
    rfl

/-- A pass that succeeds has met closed segments only and tells what they mean. -/
theorem of_tokenize_ok {config : Config} {name : CodePoints} {source : String}
    {sequence : TokenSequence} (done : tokenize config name source = .ok sequence) :
    (∀ g ∈ all source.toList, g.Closed) ∧
      sequence = {
        source := name
        tokens := (Placed.tokens config name (segmentsOf source)).toArray
        warnings := (Placed.warnings name (segmentsOf source)).toArray
        isClosed := true } := by
  rw [tokenize_eq] at done
  rcases Nat.even_or_odd (source.toList.count '\x22') with balanced | unbalanced
  · rw [failure?_of_even balanced] at done
    exact ⟨closed_of_even (tiles_all source.toList) balanced, (Except.ok.inj done).symm⟩
  · obtain ⟨before, body, _, _, failure⟩ := failure?_of_odd unbalanced config name
    rw [failure] at done
    simp at done

/-- A pass fails exactly on an odd number of quotes.  It then fails with the
error of an unterminated literal, which points at the last quote and shows how
the text after that begins; nothing else can abort a pass. -/
theorem tokenize_fails_iff_odd_quotes (config : Config) (name : CodePoints) (source : String) :
    ((∃ fault, tokenize config name source = .error fault) ↔
      Odd (source.toList.count '\x22')) ∧
    ∀ fault, tokenize config name source = .error fault →
      ∃ before body, source.toList = before ++ '\x22' :: body ∧ '\x22' ∉ body ∧
        fault = .fatal {
          kind := .unterminatedLiteral
          message := "Unterminated string literal"
          location := ⟨name, .behind before⟩
          code := some "L002"
          help := some "String literals must be closed with a matching \" quote."
          preview := some (String.ofList (body.take config.previewLength)) } := by
  rw [tokenize_eq]
  rcases Nat.even_or_odd (source.toList.count '\x22') with balanced | unbalanced
  · rw [failure?_of_even balanced]
    simp [balanced]
  · obtain ⟨before, body, whole, absent, failure⟩ := failure?_of_odd unbalanced config name
    rw [failure]
    refine ⟨⟨fun _ => unbalanced, fun _ => ⟨_, rfl⟩⟩, ?_⟩
    rintro fault ⟨rfl⟩
    refine ⟨before, body, whole, absent, ?_⟩
    simp [FatalError.unterminatedString, FatalError.previewOf, Problem.title, Problem.code]

/-- Of three quotes the last is the one that is not closed. -/
theorem tokenize_fails_on_three_quotes :
    ∃ fault, tokenize {} "f" "\"a\"\n \"bc" = .error fault ∧
      ∃ before body, "\"a\"\n \"bc".toList = before ++ '\x22' :: body ∧ '\x22' ∉ body ∧
        fault = .fatal {
          kind := .unterminatedLiteral
          message := "Unterminated string literal"
          location := ⟨"f", .behind before⟩
          code := some "L002"
          help := some "String literals must be closed with a matching \" quote."
          preview := some (String.ofList (body.take 15)) } := by
  have result := tokenize_fails_iff_odd_quotes {} "f" "\"a\"\n \"bc"
  obtain ⟨fault, failed⟩ := result.1.mpr (by decide)
  exact ⟨fault, failed, result.2 fault failed⟩

end LexicalPass
