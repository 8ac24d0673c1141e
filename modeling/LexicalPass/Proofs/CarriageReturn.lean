import LexicalPass.Proofs.QuoteBalance

/-!
Carriage returns in front of line feeds.  A source in which every line ends in
such a pair is lexed like the source without them: the returns are blanks at the
ends of lines, so that only line ends themselves are moved, and string literals
over several lines have them in their text.
-/

set_option autoImplicit false

namespace LexicalPass

open Segment

/-- A text with a carriage return in front of every line feed. -/
def Text.pairLineFeeds (s : List Char) : List Char :=
  s.flatMap fun c => if c = '\n' then ['\r', '\n'] else [c]

/-- A token as it is read where all line feeds are paired. -/
def Token.pairLineFeeds (t : Token) : Token :=
  { t with
    lexeme :=
      if t.kind = .stringLiteral then String.ofList (Text.pairLineFeeds t.lexeme.toList)
      else t.lexeme
    position :=
      if t.kind = .endOfLine then ⟨t.position.line, t.position.column + 1⟩ else t.position }

namespace Text

@[simp] theorem pairLineFeeds_nil : pairLineFeeds [] = [] := rfl

@[simp] theorem pairLineFeeds_append (s t : List Char) :
    pairLineFeeds (s ++ t) = pairLineFeeds s ++ pairLineFeeds t :=
  List.flatMap_append

theorem pairLineFeeds_newline (s : List Char) :
    pairLineFeeds ('\n' :: s) = '\r' :: '\n' :: pairLineFeeds s := rfl

theorem pairLineFeeds_cons_of_ne {c : Char} (notNewline : c ≠ '\n') (s : List Char) :
    pairLineFeeds (c :: s) = c :: pairLineFeeds s := by
  simp [pairLineFeeds, notNewline]

theorem pairLineFeeds_of_absent {s : List Char} (absent : '\n' ∉ s) : pairLineFeeds s = s := by
  induction s with
  | nil => rfl
  | cons c s inductionHypothesis =>
      simp only [List.mem_cons, not_or] at absent
      rw [pairLineFeeds_cons_of_ne (Ne.symm absent.1), inductionHypothesis absent.2]

theorem quote_not_mem_pairLineFeeds {s : List Char} (absent : '\x22' ∉ s) :
    '\x22' ∉ pairLineFeeds s := by
  intro inside
  obtain ⟨c, source, image⟩ := List.mem_flatMap.mp inside
  split at image
  · simp at image
  · obtain rfl := List.mem_singleton.mp image
    exact absent source

/-- The text starts as before or with a carriage return. -/
theorem head?_pairLineFeeds {s : List Char} {c : Char} (head : c ∈ (pairLineFeeds s).head?) :
    c ∈ s.head? ∨ c = '\r' := by
  cases s with
  | nil => simp at head
  | cons d s =>
      by_cases newline : d = '\n'
      · rw [newline, pairLineFeeds_newline] at head
        right
        simpa using head.symm
      · rw [pairLineFeeds_cons_of_ne newline] at head
        left
        exact head

end Text

open Text

/-- The returns stand at the ends of lines, where they move no line's start. -/
theorem Position.behind_pairLineFeeds (s : List Char) :
    behind (pairLineFeeds s) = behind s := by
  -- A line feed takes the column back to one, with a return before it or without.
  suffices same : ∀ p : Position, p.afterAll (pairLineFeeds s) = p.afterAll s by
    have whole := same (behind [])
    rwa [← behind_append, ← behind_append, List.nil_append, List.nil_append] at whole
  induction s with
  | nil => simp
  | cons c s inductionHypothesis =>
      intro p
      by_cases newline : c = '\n'
      · rw [newline, pairLineFeeds_newline, afterAll_cons, afterAll_cons, inductionHypothesis]
        rfl
      · rw [pairLineFeeds_cons_of_ne newline, afterAll_cons, inductionHypothesis]
        rfl

namespace Segment

/-- The segments that a segment becomes where all line feeds are paired. -/
def pairLineFeeds : Segment → List Segment
  | newline => [blank '\r', newline]
  | string body => [string (Text.pairLineFeeds body)]
  | unclosed body => [unclosed (Text.pairLineFeeds body)]
  | g => [g]

theorem pairLineFeeds_of_isPlain {g : Segment} (plain : g.IsPlain) : g.pairLineFeeds = [g] := by
  cases g with
  | newline => exact plain.elim
  | string body => exact plain.elim
  | unclosed body => exact plain.elim
  | _ => rfl

theorem flatMap_text_pairLineFeeds {g : Segment} (wellFormed : g.WellFormed) :
    g.pairLineFeeds.flatMap text = Text.pairLineFeeds g.text := by
  rcases g.newline_or_literal_or_isPlain with rfl | ⟨body, rfl⟩ | ⟨body, rfl⟩ | plain
  · rfl
  · simp [pairLineFeeds, text, Text.pairLineFeeds_cons_of_ne]
  · simp [pairLineFeeds, text, Text.pairLineFeeds_cons_of_ne]
  · have absent : '\n' ∉ g.text := by
      intro inside
      exact (mem_text_of_isPlain wellFormed plain _ inside).1 rfl
    rw [pairLineFeeds_of_isPlain plain, Text.pairLineFeeds_of_absent absent, List.flatMap_singleton]

theorem stopsBefore_pairLineFeeds {g : Segment} {s : List Char} (stops : g.StopsBefore s) :
    g.StopsBefore (Text.pairLineFeeds s) := by
  have apart {P : Char → Prop} (outside : ∀ c ∈ s.head?, ¬ P c) (notReturn : ¬ P '\r') :
      ∀ c ∈ (Text.pairLineFeeds s).head?, ¬ P c := by
    intro c head
    rcases Text.head?_pairLineFeeds head with same | rfl
    · exact outside c same
    · exact notReturn
  cases g with
  | newline => trivial
  | blank c => trivial
  | string body => trivial
  | unclosed body =>
      have atEnd : s = [] := stops
      rw [atEnd]
      rfl
  | numeral first others => exact apart stops (by decide)
  | word first others => exact apart stops (by decide)
  | symbol c => trivial

/-- Numbers and words that ended at a line feed end at the return before it. -/
theorem tiles_cons_pairLineFeeds {g : Segment} {gs : List Segment} {s : List Char}
    (wellFormed : g.WellFormed) (stops : g.StopsBefore s)
    (tiles : Tiles gs (Text.pairLineFeeds s)) :
    Tiles (g.pairLineFeeds ++ gs) (Text.pairLineFeeds (g.text ++ s)) := by
  rw [Text.pairLineFeeds_append, ← flatMap_text_pairLineFeeds wellFormed]
  rcases g.newline_or_literal_or_isPlain with rfl | ⟨body, rfl⟩ | ⟨body, rfl⟩ | plain
  · have isBlank : IsBlank '\r' := by decide
    exact .cons (g := blank '\r') isBlank trivial (.cons (g := newline) trivial trivial tiles)
  · have absent : '\x22' ∉ Text.pairLineFeeds body := Text.quote_not_mem_pairLineFeeds wellFormed
    simpa [pairLineFeeds] using Tiles.cons (g := string _) absent trivial tiles
  · have absent : '\x22' ∉ Text.pairLineFeeds body := Text.quote_not_mem_pairLineFeeds wellFormed
    have atEnd := stopsBefore_pairLineFeeds stops
    simpa [pairLineFeeds] using Tiles.cons (g := unclosed _) absent atEnd tiles
  · rw [pairLineFeeds_of_isPlain plain, List.flatMap_singleton]
    exact .cons wellFormed (stopsBefore_pairLineFeeds stops) tiles

theorem tiles_pairLineFeeds {gs : List Segment} {s : List Char} (tiles : Tiles gs s) :
    Tiles (gs.flatMap pairLineFeeds) (Text.pairLineFeeds s) := by
  induction tiles with
  | nil => exact .nil
  | cons wellFormed stops tiles inductionHypothesis =>
      rw [List.flatMap_cons]
      exact tiles_cons_pairLineFeeds wellFormed stops inductionHypothesis

namespace Placed

/-- What a segment at its place becomes, at the places that the pairs leave it. -/
def pairLineFeeds (p : Placed) : List Placed :=
  place (Text.pairLineFeeds p.before) p.segment.pairLineFeeds

theorem pairLineFeeds_of_isPlain {before : List Char} {g : Segment} (plain : g.IsPlain) :
    pairLineFeeds ⟨before, g⟩ = [⟨Text.pairLineFeeds before, g⟩] := by
  rw [pairLineFeeds, Segment.pairLineFeeds_of_isPlain plain]
  rfl

theorem location_pairLineFeeds (name : CodePoints) (before : List Char) (g h : Segment) :
    location name ⟨Text.pairLineFeeds before, h⟩ = location name ⟨before, g⟩ := by
  simp only [location, position, Position.behind_pairLineFeeds]

end Placed

theorem place_pairLineFeeds {gs : List Segment} {s : List Char} (tiles : Tiles gs s)
    (before : List Char) :
    place (Text.pairLineFeeds before) (gs.flatMap pairLineFeeds) =
      (place before gs).flatMap Placed.pairLineFeeds := by
  induction tiles generalizing before with
  | nil => rfl
  | cons wellFormed stops tiles inductionHypothesis =>
      rw [List.flatMap_cons, place_append, flatMap_text_pairLineFeeds wellFormed,
        ← Text.pairLineFeeds_append, inductionHypothesis, place, List.flatMap_cons]
      rfl

namespace Placed

variable (config : Config) (name : CodePoints)

theorem token_of_isPlain {config : Config} {name : CodePoints} {before : List Char} {g : Segment}
    {token : Token} (plain : g.IsPlain) (found : token? config name ⟨before, g⟩ = some token) :
    token.pairLineFeeds = token := by
  obtain ⟨kind, isKind, rfl⟩ := Option.map_eq_some_iff.mp found
  obtain ⟨notString, notEnd⟩ := kind?_of_isPlain plain isKind
  simp [Token.pairLineFeeds, notString, notEnd]

theorem tokens_pairLineFeeds_placed (p : Placed) :
    tokens config name p.pairLineFeeds =
      ((p.token? config name).map Token.pairLineFeeds).toList := by
  obtain ⟨before, g⟩ := p
  rcases g.newline_or_literal_or_isPlain with rfl | ⟨body, rfl⟩ | ⟨body, rfl⟩ | plain
  · cases emits : config.emitEndOfLine <;>
      simp [pairLineFeeds, Segment.pairLineFeeds, place, token?, kind?, emits, position, text,
        Position.behind_concat, Position.behind_pairLineFeeds, Position.after_of_ne,
        Token.pairLineFeeds, lexeme]
  · simp [pairLineFeeds, Segment.pairLineFeeds, place, token?, kind?, lexeme, position,
      Position.behind_pairLineFeeds, Token.pairLineFeeds]
  · simp [pairLineFeeds, Segment.pairLineFeeds, place, token?, kind?]
  · have same : token? config name ⟨Text.pairLineFeeds before, g⟩ =
        token? config name ⟨before, g⟩ := by
      simp only [token?, position, Position.behind_pairLineFeeds]
    rw [pairLineFeeds_of_isPlain plain, tokens_cons, tokens_nil, List.append_nil, same]
    cases found : token? config name ⟨before, g⟩ with
    | none => rfl
    | some token => simp [token_of_isPlain plain found]

theorem warnings_pairLineFeeds_placed (p : Placed) :
    warnings name p.pairLineFeeds = (p.warning? name).toList := by
  obtain ⟨before, g⟩ := p
  rcases g.newline_or_literal_or_isPlain with rfl | ⟨body, rfl⟩ | ⟨body, rfl⟩ | plain
  · rfl
  · rfl
  · rfl
  · have same : warning? name ⟨Text.pairLineFeeds before, g⟩ = warning? name ⟨before, g⟩ := by
      simp only [warning?, location_pairLineFeeds name before g g]
    rw [pairLineFeeds_of_isPlain plain, warnings_cons, warnings_nil, List.append_nil, same]

theorem failure?_pairLineFeeds_placed (p : Placed) :
    (failure? config name p.pairLineFeeds).map FatalError.withoutPreview =
      (p.fatal? config name).map FatalError.withoutPreview := by
  obtain ⟨before, g⟩ := p
  rcases g.newline_or_literal_or_isPlain with rfl | ⟨body, rfl⟩ | ⟨body, rfl⟩ | plain
  · rfl
  · rfl
  · have same := location_pairLineFeeds name before (unclosed body)
      (unclosed (Text.pairLineFeeds body))
    simp [pairLineFeeds, Segment.pairLineFeeds, place, fatal?, same, FatalError.withoutPreview,
      FatalError.unterminatedString]
  · have closed := closed_of_isPlain plain
    rw [pairLineFeeds_of_isPlain plain, failure?_cons, failure?_nil, Option.or_none,
      fatal?_of_closed config name _ closed, fatal?_of_closed config name _ closed]

theorem tokens_pairLineFeeds (ps : List Placed) :
    tokens config name (ps.flatMap pairLineFeeds) =
      (tokens config name ps).map Token.pairLineFeeds := by
  induction ps with
  | nil => rfl
  | cons p ps inductionHypothesis =>
      rw [List.flatMap_cons, tokens_append, inductionHypothesis, tokens_pairLineFeeds_placed,
        tokens_cons, List.map_append]
      cases p.token? config name <;> rfl

theorem warnings_pairLineFeeds (ps : List Placed) :
    warnings name (ps.flatMap pairLineFeeds) = warnings name ps := by
  induction ps with
  | nil => rfl
  | cons p ps inductionHypothesis =>
      rw [List.flatMap_cons, warnings_append, inductionHypothesis, warnings_pairLineFeeds_placed,
        warnings_cons]

theorem failure?_pairLineFeeds (ps : List Placed) :
    (failure? config name (ps.flatMap pairLineFeeds)).map FatalError.withoutPreview =
      (failure? config name ps).map FatalError.withoutPreview := by
  induction ps with
  | nil => rfl
  | cons p ps inductionHypothesis =>
      rw [List.flatMap_cons, failure?_append, failure?_cons, Option.map_or, Option.map_or,
        inductionHypothesis, failure?_pairLineFeeds_placed]

end Placed

end Segment

theorem segmentsOf_pairLineFeeds (source : String) :
    segmentsOf (String.ofList (Text.pairLineFeeds source.toList)) =
      (segmentsOf source).flatMap Placed.pairLineFeeds := by
  have tiles := tiles_all source.toList
  rw [segmentsOf, String.toList_ofList, all_of_tiles (tiles_pairLineFeeds tiles)]
  exact place_pairLineFeeds tiles []

/-- Carriage returns in front of all line feeds of a source change neither
whether a pass fails nor where, and on success change the columns of line ends
and the texts of string literals only. -/
theorem tokenize_pairLineFeeds (config : Config) (name : CodePoints) (source : String) :
    FailAlike (tokenize config name source)
      (tokenize config name (String.ofList (Text.pairLineFeeds source.toList))) ∧
    ∀ sequence, tokenize config name source = .ok sequence →
      tokenize config name (String.ofList (Text.pairLineFeeds source.toList)) =
        .ok { sequence with tokens := sequence.tokens.map Token.pairLineFeeds } := by
  have segments := segmentsOf_pairLineFeeds source
  have alike := Placed.failure?_pairLineFeeds config name (segmentsOf source)
  refine ⟨failAlike_tokenize (by rw [segments, alike]), ?_⟩
  intro sequence done
  obtain ⟨closed, rfl⟩ := of_tokenize_ok done
  have harmless : Placed.failure? config name (segmentsOf source) = none :=
    failure?_of_closed config name [] closed
  rw [harmless, Option.map_none, Option.map_eq_none_iff] at alike
  rw [tokenize_eq, segments, alike]
  simp [Placed.tokens_pairLineFeeds, Placed.warnings_pairLineFeeds]

/-- A number at the end of a line and a literal over two lines. -/
theorem tokenize_pairLineFeeds_two_lines :
    ∃ sequence, tokenize { emitEndOfLine := true } "f" "12\n\"a\nb\"\n" = .ok sequence ∧
      tokenize { emitEndOfLine := true } "f" "12\r\n\"a\r\nb\"\r\n" =
        .ok { sequence with tokens := sequence.tokens.map Token.pairLineFeeds } := by
  have done := tokenize_eq { emitEndOfLine := true } "f" "12\n\"a\nb\"\n"
  rw [failure?_of_even (by decide)] at done
  have paired := (tokenize_pairLineFeeds { emitEndOfLine := true } "f" "12\n\"a\nb\"\n").2 _ done
  exact ⟨_, done, paired⟩

end LexicalPass
