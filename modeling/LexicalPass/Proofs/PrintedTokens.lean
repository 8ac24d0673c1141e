import LexicalPass.Proofs.ConfigInfluence
import LexicalPass.Proofs.Grammar
import Mathlib.Data.List.Basic

/-!
Printing tokens and lexing them again.  Tokens that are printed with a space
between each two of them are found again one by one, since no segment goes on
over a space; so a pass can be repeated on what it has found.
-/

set_option autoImplicit false

namespace LexicalPass

open Segment

/-- The text that stands for a token.  A string literal stands between quotes. -/
def Kind.spell (kind : Kind) (lexeme : String) : String :=
  if kind = .stringLiteral then "\"" ++ lexeme ++ "\"" else lexeme

/-- Kinds and lexemes printed with a space between each two. -/
def printed (entries : List (Kind × String)) : String :=
  " ".intercalate (entries.map fun (kind, lexeme) => kind.spell lexeme)

/-- The kinds and lexemes of a sequence, without their places. -/
def TokenSequence.entries (s : TokenSequence) : List (Kind × String) :=
  s.tokens.toList.map fun t => (t.kind, t.lexeme)

namespace Segment

/-- The kind and the lexeme of what a segment stands for. -/
def meaning? (config : Config) (g : Segment) : Option (Kind × String) :=
  (g.kind? config).map fun kind => (kind, String.ofList g.lexeme)

theorem toList_spell_of_kind? {config : Config} {g : Segment} {kind : Kind}
    (found : g.kind? config = some kind) :
    (kind.spell (String.ofList g.lexeme)).toList = g.text := by
  rw [text_of_kind? found, Kind.spell]
  split <;> simp

theorem stopsBefore_nil {g : Segment} (closed : g.Closed) : g.StopsBefore [] := by
  cases g with
  | unclosed body => exact absurd rfl (closed body)
  | numeral first others => simp [StopsBefore]
  | word first others => simp [StopsBefore]
  | _ => trivial

/-- Nothing closed goes on over a space. -/
theorem stopsBefore_space {g : Segment} (closed : g.Closed) (s : List Char) :
    g.StopsBefore (' ' :: s) := by
  have apart : ∀ c ∈ (' ' :: s).head?, ¬ IsWordChar c ∧ ¬ IsNumeric c := by
    rintro c ⟨rfl⟩
    decide
  exact stopsBefore_append (stopsBefore_nil closed) closed apart

/-- Segments with a space between each two tile the text that they make up. -/
theorem tiles_intersperse {gs : List Segment} (wellFormed : ∀ g ∈ gs, g.WellFormed)
    (closed : ∀ g ∈ gs, g.Closed) :
    Tiles (gs.intersperse (blank ' ')) ([' '].intercalate (gs.map text)) := by
  induction gs with
  | nil => exact .nil
  | cons g gs inductionHypothesis =>
      rw [List.forall_mem_cons] at wellFormed closed
      have tiles := inductionHypothesis wellFormed.2 closed.2
      cases gs with
      | nil =>
          have single := Tiles.cons wellFormed.1 (stopsBefore_nil closed.1) .nil
          simpa using single
      | cons h gs =>
          have isBlank : IsBlank ' ' := by decide
          have spaced : Tiles (blank ' ' :: (h :: gs).intersperse (blank ' '))
              (' ' :: [' '].intercalate ((h :: gs).map text)) :=
            .cons (g := blank ' ') isBlank trivial tiles
          exact .cons wellFormed.1 (stopsBefore_space closed.1 _) spaced

theorem filterMap_intersperse (config : Config) (gs : List Segment) :
    (gs.intersperse (blank ' ')).filterMap (meaning? config) = gs.filterMap (meaning? config) := by
  induction gs with
  | nil => rfl
  | cons g gs inductionHypothesis =>
      cases gs with
      | nil => rfl
      | cons h gs =>
          have silent : meaning? config (blank ' ') = none := rfl
          rw [List.intersperse_cons_cons]
          cases meaning : meaning? config g with
          | none =>
              rw [List.filterMap_cons_none meaning, List.filterMap_cons_none silent,
                inductionHypothesis, List.filterMap_cons_none meaning]
          | some x =>
              rw [List.filterMap_cons_some meaning, List.filterMap_cons_none silent,
                inductionHypothesis, List.filterMap_cons_some meaning]

theorem mem_or_eq_of_mem_intersperse {g sep : Segment} {gs : List Segment}
    (inside : g ∈ gs.intersperse sep) : g ∈ gs ∨ g = sep := by
  induction gs with
  | nil => simp at inside
  | cons h gs inductionHypothesis =>
      cases gs with
      | nil => exact .inl inside
      | cons k gs =>
          rw [List.intersperse_cons_cons, List.mem_cons, List.mem_cons] at inside
          rcases inside with rfl | rfl | later
          · exact .inl (by simp)
          · exact .inr rfl
          · rcases inductionHypothesis later with found | same
            · exact .inl (List.mem_cons_of_mem _ found)
            · exact .inr same

/-- The places of segments have no influence on kinds and lexemes. -/
theorem entries_of_place (config : Config) (name : CodePoints) (before : List Char)
    (gs : List Segment) :
    (Placed.tokens config name (place before gs)).map (fun t => (t.kind, t.lexeme)) =
      gs.filterMap (meaning? config) := by
  nth_rewrite 2 [← map_segment_place before gs]
  rw [Placed.tokens, List.map_filterMap, List.filterMap_map]
  apply List.filterMap_congr
  intro p _
  simp only [Placed.token?, Option.map_map, Function.comp_def, meaning?]

theorem kind?_eq_invalid_iff {config : Config} {g : Segment} :
    g.kind? config = some .invalid ↔
      ∃ first others flaw, g = numeral first others ∧
        Numeral.ofRun (first :: others) = .malformed flaw := by
  cases g with
  | newline => simp [kind?]
  | blank c => simp [kind?]
  | string body => simp [kind?]
  | unclosed body => simp [kind?]
  | numeral first others =>
      cases shape : Numeral.ofRun (first :: others) <;> simp [kind?, shape]
  | word first others => simp [kind?]
  | symbol c =>
      have notInvalid : Kind.ofChar? c ≠ some .invalid := by
        intro found
        have isPunctuation := Kind.isPunctuation_of_ofChar? found
        revert isPunctuation
        decide
      simp [kind?, notInvalid]

/-- A warning about a segment that is recognized is one about an invalid token. -/
theorem Placed.warning?_of_recognized (config : Config) (name : CodePoints) {p : Placed}
    (recognized : ∀ c, p.segment = symbol c → Kind.ofChar? c ≠ none) :
    (p.warning? name).map (fun w => (w.code, w.lexeme, w.location)) =
      ((p.token? config name).filter (·.kind = .invalid)).map
        fun t => (some "L003", some t.lexeme, t.location) := by
  obtain ⟨before, g⟩ := p
  by_cases isInvalid : g.kind? config = some .invalid
  · obtain ⟨first, others, flaw, rfl, malformed⟩ := kind?_eq_invalid_iff.mp isInvalid
    simp [token?, warning?, isInvalid, malformed, Warning.malformedNumber, Problem.code,
      Option.filter, lexeme, text, location, Token.location]
  · have silent : warning? name ⟨before, g⟩ = none := by
      apply Option.eq_none_iff_forall_ne_some.mpr
      intro warning found
      rcases warning?_cases found with
        ⟨first, others, flaw, rfl, malformed, _⟩ | ⟨c, same, unknown, _⟩
      · exact isInvalid (kind?_eq_invalid_iff.mpr ⟨first, others, flaw, rfl, malformed⟩)
      · exact recognized c same unknown
    have valid : (token? config name ⟨before, g⟩).filter (·.kind = .invalid) = none := by
      apply Option.filter_eq_none_iff.mpr
      intro token found isKind
      obtain ⟨kind, isSome, rfl⟩ := Option.map_eq_some_iff.mp found
      have same : kind = .invalid := of_decide_eq_true isKind
      exact isInvalid (same ▸ isSome)
    rw [silent, valid]
    rfl

theorem warnings_of_recognized (config : Config) (name : CodePoints) {ps : List Placed}
    (recognized : ∀ p ∈ ps, ∀ c, p.segment = symbol c → Kind.ofChar? c ≠ none) :
    (Placed.warnings name ps).map (fun w => (w.code, w.lexeme, w.location)) =
      ((Placed.tokens config name ps).filter (·.kind = .invalid)).map
        fun t => (some "L003", some t.lexeme, t.location) := by
  rw [Placed.warnings, Placed.tokens, List.filter_filterMap, List.map_filterMap,
    List.map_filterMap]
  apply List.filterMap_congr
  intro p inside
  exact Placed.warning?_of_recognized config name (recognized p inside)

end Segment

/-- Segments that stand for given kinds and lexemes. -/
theorem exists_segments_of_admits {config : Config} {entries : List (Kind × String)}
    (admitted : ∀ entry ∈ entries, entry.1.Admits entry.2.toList)
    (keeps : ∀ entry ∈ entries, entry.1 = .endOfLine → config.emitEndOfLine = true) :
    ∃ gs : List Segment, (∀ g ∈ gs, g.WellFormed ∧ ∃ kind, g.kind? config = some kind) ∧
      gs.filterMap (meaning? config) = entries ∧
      gs.map text = entries.map fun (kind, lexeme) => (kind.spell lexeme).toList := by
  induction entries with
  | nil => exact ⟨[], by simp⟩
  | cons entry entries inductionHypothesis =>
      obtain ⟨kind, lexeme⟩ := entry
      rw [List.forall_mem_cons] at admitted keeps
      obtain ⟨gs, stand, meanings, texts⟩ := inductionHypothesis admitted.2 keeps.2
      obtain ⟨g, wellFormed, found, spelled⟩ := exists_segment_of_admits admitted.1 keeps.1
      have same : String.ofList g.lexeme = lexeme := by rw [spelled, String.ofList_toList]
      have meaning : meaning? config g = some (kind, lexeme) := by
        rw [meaning?, found, same]
        rfl
      refine ⟨g :: gs, List.forall_mem_cons.mpr ⟨⟨wellFormed, kind, found⟩, stand⟩, ?_, ?_⟩
      · rw [List.filterMap_cons_some meaning, meanings]
      · rw [List.map_cons, List.map_cons, texts, ← toList_spell_of_kind? found, same]

/-- The segments of a printed text, with a blank between each two. -/
theorem segmentsOf_printed {gs : List Segment} {entries : List (Kind × String)}
    (wellFormed : ∀ g ∈ gs, g.WellFormed) (closed : ∀ g ∈ gs, g.Closed)
    (texts : gs.map text = entries.map fun (kind, lexeme) => (kind.spell lexeme).toList) :
    segmentsOf (printed entries) = place [] (gs.intersperse (blank ' ')) := by
  have whole : (printed entries).toList = [' '].intercalate (gs.map text) := by
    rw [printed, String.toList_intercalate, List.map_map, texts]
    rfl
  rw [segmentsOf, whole, all_of_tiles (tiles_intersperse wellFormed closed)]

/-- Printed kinds and lexemes are found again. -/
theorem tokenize_of_admits {config : Config} (name : CodePoints) {entries : List (Kind × String)}
    (admitted : ∀ entry ∈ entries, entry.1.Admits entry.2.toList)
    (keeps : ∀ entry ∈ entries, entry.1 = .endOfLine → config.emitEndOfLine = true) :
    ∃ sequence, tokenize config name (printed entries) = .ok sequence ∧
      sequence.entries = entries ∧
      sequence.warnings.toList.map (fun w => (w.code, w.lexeme, w.location)) =
        (sequence.tokens.toList.filter (·.kind = .invalid)).map
          fun t => (some "L003", some t.lexeme, t.location) := by
  obtain ⟨gs, stand, meanings, texts⟩ := exists_segments_of_admits admitted keeps
  have wellFormed : ∀ g ∈ gs, g.WellFormed := fun g inside => (stand g inside).1
  have closed : ∀ g ∈ gs, g.Closed := by
    intro g inside
    obtain ⟨_, kind, found⟩ := stand g inside
    exact closed_of_kind? found
  have segments := segmentsOf_printed wellFormed closed texts
  have harmless : Placed.failure? config name (segmentsOf (printed entries)) = none := by
    rw [segments]
    apply failure?_of_closed
    intro g inside
    rcases mem_or_eq_of_mem_intersperse inside with member | rfl
    · exact closed g member
    · simp [Closed]
  -- Every symbol among the segments stands for a token, so none is reported.
  have recognized : ∀ p ∈ segmentsOf (printed entries), ∀ c, p.segment = symbol c →
      Kind.ofChar? c ≠ none := by
    rw [segments]
    intro p placed c isSymbol unknown
    have inside := segment_mem_of_mem_place placed
    rw [isSymbol] at inside
    rcases mem_or_eq_of_mem_intersperse inside with member | other
    · obtain ⟨_, kind, found⟩ := stand _ member
      rw [kind?, unknown] at found
      simp at found
    · simp at other
  refine ⟨_, by rw [tokenize_eq, harmless], ?_, ?_⟩
  · simp only [TokenSequence.entries]
    rw [segments, entries_of_place, filterMap_intersperse, meanings]
  · exact warnings_of_recognized config name recognized

/-- What a pass has found has the patterns of its kinds. -/
theorem admits_of_tokenize {config : Config} {name : CodePoints} {source : String}
    {sequence : TokenSequence} (done : tokenize config name source = .ok sequence) :
    ∀ entry ∈ sequence.entries, entry.1.Admits entry.2.toList ∧
      (entry.1 = .endOfLine → config.emitEndOfLine = true) := by
  obtain ⟨_, rfl⟩ := of_tokenize_ok done
  intro entry inside
  obtain ⟨token, isToken, rfl⟩ := List.mem_map.mp inside
  obtain ⟨p, placed, found⟩ := List.mem_filterMap.mp isToken
  have wellFormed : p.segment.WellFormed :=
    wellFormed_of_tiles (tiles_all source.toList) _ (segment_mem_of_mem_place placed)
  refine ⟨?_, fun isEnd => (Placed.newline_of_endOfLine found isEnd).2⟩
  obtain ⟨kind, isKind, rfl⟩ := Option.map_eq_some_iff.mp found
  simpa using admits_of_kind? wellFormed isKind

/-- Kinds and lexemes that have their patterns are found again when they are
printed with spaces between them, with a warning about each invalid token and no
others.  So are those of any pass. -/
theorem tokenize_printed (config : Config) (name : CodePoints) :
    (config.emitEndOfLine = true → ∀ entries : List (Kind × String),
      (∀ entry ∈ entries, entry.1.Admits entry.2.toList) →
      ∃ sequence, tokenize config name (printed entries) = .ok sequence ∧
        sequence.entries = entries ∧
        sequence.warnings.toList.map (fun w => (w.code, w.lexeme, w.location)) =
          (sequence.tokens.toList.filter (·.kind = .invalid)).map
            fun t => (some "L003", some t.lexeme, t.location)) ∧
    ∀ (earlier : Config) (earlierName : CodePoints) (source : String) (sequence : TokenSequence),
      tokenize earlier earlierName source = .ok sequence →
      (earlier.emitEndOfLine = true → config.emitEndOfLine = true) →
      ∃ again, tokenize config name (printed sequence.entries) = .ok again ∧
        again.entries = sequence.entries := by
  constructor
  · intro emits entries admitted
    exact tokenize_of_admits name admitted fun _ _ _ => emits
  · intro earlier earlierName source sequence done keeps
    have admitted := admits_of_tokenize done
    obtain ⟨again, repeated, same, _⟩ := tokenize_of_admits name
      (fun entry inside => (admitted entry inside).1)
      fun entry inside isEnd => keeps ((admitted entry inside).2 isEnd)
    exact ⟨again, repeated, same⟩

/-- Neighbours that would merge without the spaces: a literal over two lines, an
empty one, numbers and points. -/
theorem tokenize_printed_neighbours :
    ∃ sequence,
      tokenize { emitEndOfLine := true } "f" "\"1\n \" \"\" 07 . 1.50 1..2 3. \n _x9 +" =
        .ok sequence ∧
      sequence.entries =
        [(.stringLiteral, "1\n "), (.stringLiteral, ""), (.intLiteral, "07"), (.dot, "."),
         (.floatLiteral, "1.50"), (.invalid, "1..2"), (.invalid, "3."), (.endOfLine, "\n"),
         (.identifier, "_x9"), (.plus, "+")] := by
  have literal : Kind.stringLiteral.Admits "1\n ".toList := by
    change '\x22' ∉ _
    decide
  have empty : Kind.stringLiteral.Admits "".toList := by
    change '\x22' ∉ _
    decide
  have integer : Kind.intLiteral.Admits "07".toList := by
    change IsDigits _
    simp [IsDigits]
  have decimal : Kind.floatLiteral.Admits "1.50".toList :=
    ⟨['1'], ['5', '0'], rfl, by simp [IsDigits], by simp [IsDigits]⟩
  have manyPoints : Kind.invalid.Admits "1..2".toList :=
    ⟨'1', ['.', '.', '2'], rfl, rfl, by simp [IsNumeric], by simp⟩
  have trailingPoint : Kind.invalid.Admits "3.".toList :=
    ⟨'3', ['.'], rfl, rfl, by simp [IsNumeric], by simp⟩
  have word : Kind.identifier.Admits "_x9".toList :=
    ⟨'_', ['x', '9'], rfl, .inr rfl, by simp [IsWordChar, IsWordStart]⟩
  have result := (tokenize_printed { emitEndOfLine := true } "f").1 rfl
    [(.stringLiteral, "1\n "), (.stringLiteral, ""), (.intLiteral, "07"), (.dot, "."),
     (.floatLiteral, "1.50"), (.invalid, "1..2"), (.invalid, "3."), (.endOfLine, "\n"),
     (.identifier, "_x9"), (.plus, "+")]
    (by
      simp only [List.forall_mem_cons, List.not_mem_nil, false_imp_iff, implies_true, and_true]
      exact ⟨literal, empty, integer, ⟨'.', rfl, by decide⟩, decimal, manyPoints,
        trailingPoint, rfl, word, ⟨'+', rfl, by decide⟩⟩)
  obtain ⟨sequence, done, entries, _⟩ := result
  exact ⟨sequence, done, entries⟩

end LexicalPass
