import LexicalPass.Proofs.PrintedTokens
import LexicalPass.Proofs.SourceOrder

/-!
The lexical grammar of a source.  Every token of a pass has the pattern of its
kind and stands in the source at its place, and the source could not go on with
it: numerals and identifiers are as long as they can be, so no point of its own
follows a numeral.
-/

set_option autoImplicit false

namespace LexicalPass

open Segment

/-- The kinds of tokens that runs of digits and points stand for. -/
def Kind.IsNumeral (kind : Kind) : Prop :=
  kind = intLiteral ∨ kind = floatLiteral ∨ kind = invalid

instance (kind : Kind) : Decidable kind.IsNumeral := inferInstanceAs (Decidable (_ ∨ _))

/-- Where each kind of token comes from. -/
theorem Segment.kind?_cases {config : Config} {g : Segment} {kind : Kind}
    (found : g.kind? config = some kind) :
    (g = newline ∧ kind = .endOfLine) ∨
    (∃ body, g = string body ∧ kind = .stringLiteral) ∨
    (∃ first others, g = numeral first others ∧ kind.IsNumeral) ∨
    (∃ first others, g = word first others ∧ kind = .identifier) ∨
    ∃ c, g = symbol c ∧ Kind.ofChar? c = some kind := by
  cases g with
  | newline =>
      simp only [kind?, Option.ite_none_right_eq_some, Option.some.injEq] at found
      exact .inl ⟨rfl, found.2.symm⟩
  | blank c => simp [kind?] at found
  | string body =>
      cases found
      exact .inr (.inl ⟨body, rfl, rfl⟩)
  | unclosed body => simp [kind?] at found
  | numeral first others =>
      refine .inr (.inr (.inl ⟨first, others, rfl, ?_⟩))
      simp only [kind?] at found
      split at found <;> cases found <;> decide
  | word first others =>
      cases found
      exact .inr (.inr (.inr (.inl ⟨first, others, rfl, rfl⟩)))
  | symbol c => exact .inr (.inr (.inr (.inr ⟨c, rfl, found⟩)))

namespace Kind

variable {kind : Kind} {s : List Char}

theorem not_isPunctuation_of_isNumeral (numeral : kind.IsNumeral) : ¬ kind.IsPunctuation := by
  rcases numeral with rfl | rfl | rfl <;> decide

/-- A flawed numeral is neither an integer nor a decimal. -/
theorem not_admits_of_admits_invalid (flawed : invalid.Admits s) :
    ¬ intLiteral.Admits s ∧ ¬ floatLiteral.Admits s := by
  obtain ⟨first, others, _, _, _, points⟩ := flawed
  constructor
  · intro digits
    have none := Numeral.count_point_of_isDigits digits
    omega
  · rintro ⟨whole, fraction, rfl, left, right⟩
    have one : (whole ++ '.' :: fraction).count '.' = 1 := by
      simp [List.count_append, Numeral.count_point_of_isDigits left,
        Numeral.count_point_of_isDigits right]
    rw [List.append_cons] at one points
    obtain ⟨c, last, digit⟩ := Numeral.endsInDigit_of_isDigits right (whole ++ ['.'])
    rcases points with many | ⟨_, isPoint⟩
    · omega
    · cases last.symm.trans isPoint
      exact absurd digit (by decide)

/-- No two characters of the table have one kind. -/
theorem ofChar?_eq_some_iff {c : Char} (listed : (c, kind) ∈ punctuation) (d : Char) :
    ofChar? d = some kind ↔ d = c := by
  have table : ∀ entry ∈ punctuation, ∀ other ∈ punctuation,
      entry.2 = other.2 → entry.1 = other.1 := by decide
  constructor
  · intro found
    exact table (d, kind) (mem_punctuation_of_ofChar? found) (c, kind) listed rfl
  · rintro rfl
    exact (ofChar?_of_mem_punctuation listed).1

theorem eq_of_admits_dot (point : dot.Admits s) : s = ['.'] := by
  obtain ⟨c, rfl, listed⟩ := point
  have isPoint : ('.', dot) ∈ punctuation := by decide
  rw [(ofChar?_eq_some_iff isPoint c).mp (ofChar?_of_mem_punctuation listed).1]

end Kind

/-- Every token is of one sort. -/
theorem Token.count_sorts (token : Token) :
    [decide token.IsLiteral, decide token.IsPunctuation, decide token.IsIdentifier,
      decide token.IsError, decide (token.kind = .endOfLine)].count true = 1 := by
  obtain ⟨kind, lexeme, source, position⟩ := token
  cases kind <;> rfl

/-- The characters that go on with a token of a kind. -/
def Kind.GoesOnWith (kind : Kind) (c : Char) : Prop :=
  (kind.IsNumeral ∧ IsNumeric c) ∨ (kind = identifier ∧ IsWordChar c)

namespace Segment

theorem eq_numeral_of_isNumeral {config : Config} {g : Segment} {kind : Kind}
    (found : g.kind? config = some kind) (isNumeral : kind.IsNumeral) :
    ∃ first others, g = numeral first others := by
  rcases kind?_cases found with ⟨_, rfl⟩ | ⟨_, _, rfl⟩ | ⟨first, others, same, _⟩ |
      ⟨_, _, _, rfl⟩ | ⟨c, _, known⟩
  · exact absurd isNumeral (by decide)
  · exact absurd isNumeral (by decide)
  · exact ⟨first, others, same⟩
  · exact absurd isNumeral (by decide)
  · have isPunctuation := Kind.isPunctuation_of_ofChar? known
    exact absurd isPunctuation (Kind.not_isPunctuation_of_isNumeral isNumeral)

theorem eq_word_of_identifier {config : Config} {g : Segment}
    (found : g.kind? config = some .identifier) : ∃ first others, g = word first others := by
  rcases kind?_cases found with ⟨_, same⟩ | ⟨_, _, same⟩ | ⟨_, _, _, isNumeral⟩ |
      ⟨first, others, same, _⟩ | ⟨c, _, known⟩
  · simp at same
  · simp at same
  · exact absurd isNumeral (by decide)
  · exact ⟨first, others, same⟩
  · exact absurd (Kind.isPunctuation_of_ofChar? known) (by decide)

/-- What follows a segment does not go on with the token that it stands for. -/
theorem not_goesOnWith_of_stopsBefore {config : Config} {g : Segment} {kind : Kind}
    {after : List Char} (found : g.kind? config = some kind) (stops : g.StopsBefore after) :
    ∀ c ∈ after.head?, ¬ kind.GoesOnWith c := by
  rintro c head (⟨isNumeral, inside⟩ | ⟨rfl, inside⟩)
  · obtain ⟨first, others, rfl⟩ := eq_numeral_of_isNumeral found isNumeral
    exact stops c head inside
  · obtain ⟨first, others, rfl⟩ := eq_word_of_identifier found
    exact stops c head inside

/-- A segment at its place in a text that stands behind the text `before`. -/
theorem exists_after_of_mem_place {gs : List Segment} {s before : List Char} {p : Placed}
    (tiles : Tiles gs s) (placed : p ∈ place before gs) :
    ∃ after, before ++ s = p.before ++ p.segment.text ++ after ∧ p.segment.StopsBefore after := by
  induction tiles generalizing before with
  | nil => simp [place] at placed
  | @cons g gs s wellFormed stops tiles inductionHypothesis =>
      rcases List.mem_cons.mp placed with rfl | later
      · exact ⟨s, by simp, stops⟩
      · obtain ⟨after, whole, stopsLater⟩ := inductionHypothesis later
        exact ⟨after, by rw [← whole, List.append_assoc], stopsLater⟩

/-- Of two segments at their places one ends where the other starts, or before. -/
theorem eq_or_apart_of_mem_place {gs : List Segment} {before : List Char} {p q : Placed}
    (placed : p ∈ place before gs) (placed' : q ∈ place before gs) :
    p = q ∨ p.before ++ p.segment.text <+: q.before ∨ q.before ++ q.segment.text <+: p.before := by
  induction gs generalizing before with
  | nil => simp [place] at placed
  | cons g gs inductionHypothesis =>
      rcases List.mem_cons.mp placed with rfl | later
      · rcases List.mem_cons.mp placed' with rfl | later'
        · exact .inl rfl
        · obtain ⟨s, further⟩ := exists_append_of_mem_place later'
          exact .inr (.inl ⟨s, further.symm⟩)
      · rcases List.mem_cons.mp placed' with rfl | later'
        · obtain ⟨s, further⟩ := exists_append_of_mem_place later
          exact .inr (.inr ⟨s, further.symm⟩)
        · exact inductionHypothesis later later'

end Segment

theorem Position.behind_ne_of_append (s : List Char) {t : List Char} (nonempty : t ≠ []) :
    behind s ≠ behind (s ++ t) := by
  intro same
  have precedes := behind_precedes s nonempty
  rw [← same] at precedes
  exact precedes.asymm precedes

/-- What the lexical grammar asks of a token of a source. -/
structure Token.Conforms (token : Token) (name : CodePoints) (source : List Char) : Prop where
  named : token.source = name
  pattern : token.kind.Admits token.lexeme.toList
  flawed : token.kind = .invalid →
    ¬ Kind.intLiteral.Admits token.lexeme.toList ∧ ¬ Kind.floatLiteral.Admits token.lexeme.toList
  symbol : token.IsPunctuation →
    ∃ c, token.lexeme = String.singleton c ∧ ∀ d, Kind.ofChar? d = some token.kind ↔ d = c
  empty : token.lexeme = "" → token.kind = .stringLiteral
  oneSort : [decide token.IsLiteral, decide token.IsPunctuation, decide token.IsIdentifier,
    decide token.IsError, decide (token.kind = .endOfLine)].count true = 1
  /-- The token stands at its place, and what follows there does not go on with it. -/
  longest : ∃ before after, source = before ++ (token.kind.spell token.lexeme).toList ++ after ∧
    token.position = .behind before ∧ ∀ c ∈ after.head?, ¬ token.kind.GoesOnWith c

/-- A token does not stand right behind a character of another one. -/
def Token.StandsApart (token other : Token) : Prop :=
  ∀ front, front ≠ [] → front <+: other.lexeme.toList →
    token.position ≠ other.position.afterAll front

namespace Segment.Placed

variable {config : Config} {name : CodePoints} {source : List Char}

/-- A segment that stands for a token, with what the token says of it. -/
theorem of_token? {p : Placed} {token : Token} (found : p.token? config name = some token) :
    p.segment.kind? config = some token.kind ∧ token.lexeme = String.ofList p.segment.lexeme ∧
      token.source = name ∧ token.position = .behind p.before ∧
      (token.kind.spell token.lexeme).toList = p.segment.text := by
  obtain ⟨kind, isKind, rfl⟩ := Option.map_eq_some_iff.mp found
  exact ⟨isKind, rfl, rfl, rfl, toList_spell_of_kind? isKind⟩

theorem conforms_of_token? {p : Placed} {token : Token} (placed : p ∈ place [] (all source))
    (found : p.token? config name = some token) : token.Conforms name source := by
  obtain ⟨isKind, lexeme, named, position, spelled⟩ := of_token? found
  have wellFormed := wellFormed_of_tiles (tiles_all source) _ (segment_mem_of_mem_place placed)
  obtain ⟨after, whole, stops⟩ := exists_after_of_mem_place (tiles_all source) placed
  have pattern : token.kind.Admits token.lexeme.toList := by
    rw [lexeme, String.toList_ofList]
    exact admits_of_kind? wellFormed isKind
  exact {
    named
    pattern
    flawed := by
      intro invalid
      rw [invalid] at pattern
      exact Kind.not_admits_of_admits_invalid pattern
    symbol := by
      intro isPunctuation
      obtain ⟨c, single, listed⟩ := (Kind.admits_iff_of_isPunctuation isPunctuation _).mp pattern
      refine ⟨c, ?_, Kind.ofChar?_eq_some_iff listed⟩
      rw [← String.toList_inj, single, String.toList_singleton]
    empty := by
      intro empty
      by_contra other
      rw [Kind.spell, if_neg other, empty] at spelled
      exact p.segment.text_ne_nil spelled.symm
    oneSort := token.count_sorts
    longest := ⟨p.before, after, by rw [spelled]; exact whole, position,
      not_goesOnWith_of_stopsBefore isKind stops⟩ }

/-- A point behind a numeral would have been part of it. -/
theorem not_adjacent_of_point {p q : Placed} {kind : Kind} (placed : p ∈ place [] (all source))
    (placed' : q ∈ place [] (all source)) (isPoint : p.segment.text = ['.'])
    (found : q.segment.kind? config = some kind) (isNumeral : kind.IsNumeral) :
    p.before ≠ q.before ++ q.segment.text := by
  intro adjacent
  obtain ⟨after, whole, _⟩ := exists_after_of_mem_place (tiles_all source) placed
  obtain ⟨after', whole', stops⟩ := exists_after_of_mem_place (tiles_all source) placed'
  rw [whole, isPoint, adjacent, List.append_assoc, List.append_cancel_left_eq] at whole'
  have head : '.' ∈ after'.head? := by simp [← whole']
  exact not_goesOnWith_of_stopsBefore found stops '.' head (.inl ⟨isNumeral, .inr rfl⟩)

theorem standsApart_of_token? {p q : Placed} {dot number : Token}
    (placed : p ∈ place [] (all source)) (placed' : q ∈ place [] (all source))
    (found : p.token? config name = some dot) (found' : q.token? config name = some number)
    (isDot : dot.kind = .dot) (isNumeral : number.kind.IsNumeral) : dot.StandsApart number := by
  obtain ⟨isKind, _, _, position, spelled⟩ := of_token? found
  obtain ⟨isKind', _, _, position', spelled'⟩ := of_token? found'
  have isPoint : p.segment.text = ['.'] := by
    have pattern := (conforms_of_token? placed found).pattern
    rw [isDot] at pattern
    rw [← spelled, isDot, Kind.spell, if_neg (by decide), Kind.eq_of_admits_dot pattern]
  have notLiteral : number.kind ≠ .stringLiteral := by
    intro isLiteral
    rw [isLiteral] at isNumeral
    exact absurd isNumeral (by decide)
  rw [Kind.spell, if_neg notLiteral] at spelled'
  rintro front nonempty ⟨back, split⟩ same
  rw [position, position', ← Position.behind_append] at same
  rcases eq_or_apart_of_mem_place placed placed' with rfl | ⟨s, later⟩ | ⟨s, later⟩
  · rw [isKind', Option.some.injEq] at isKind
    rw [isKind, isDot] at isNumeral
    exact absurd isNumeral (by decide)
  · rw [← later, List.append_assoc, List.append_assoc] at same
    exact Position.behind_ne_of_append _ (by simp [nonempty]) same
  · -- The point is behind the whole numeral, so the front is all of it.
    have rest : back ++ s = [] := by
      by_contra further
      rw [← later, ← spelled', ← split, ← List.append_assoc, List.append_assoc] at same
      exact Position.behind_ne_of_append _ further same.symm
    rw [(List.append_eq_nil_iff.mp rest).2, List.append_nil] at later
    exact not_adjacent_of_point placed placed' isPoint isKind' isNumeral later.symm

end Segment.Placed

/-- The tokens of a pass conform to the grammar and are as long as the source
allows; a point that is a token of its own follows no numeral. -/
theorem tokenize_maximal_munch {config : Config} {name : CodePoints} {source : String}
    {sequence : TokenSequence} (done : tokenize config name source = .ok sequence) :
    (∀ token ∈ sequence.tokens.toList, token.Conforms name source.toList) ∧
      ∀ dot ∈ sequence.tokens.toList, ∀ number ∈ sequence.tokens.toList,
        dot.kind = .dot → number.kind.IsNumeral → dot.StandsApart number := by
  obtain ⟨_, rfl⟩ := of_tokenize_ok done
  constructor
  · intro token inside
    obtain ⟨p, placed, found⟩ := List.mem_filterMap.mp inside
    exact Placed.conforms_of_token? placed found
  · intro dot inside number inside' isDot isNumeral
    obtain ⟨p, placed, found⟩ := List.mem_filterMap.mp inside
    obtain ⟨q, placed', found'⟩ := List.mem_filterMap.mp inside'
    exact Placed.standsApart_of_token? placed placed' found found' isDot isNumeral

/-- Points inside, behind and apart from a numeral. -/
theorem tokenize_maximal_munch_points :
    ∃ sequence, tokenize {} "f" "1.2.\t.x1" = .ok sequence ∧
      ⟨.invalid, "1.2.", "f", ⟨1, 1⟩⟩ ∈ sequence.tokens.toList ∧
      ⟨.dot, ".", "f", ⟨1, 6⟩⟩ ∈ sequence.tokens.toList ∧
      Token.Conforms ⟨.invalid, "1.2.", "f", ⟨1, 1⟩⟩ "f" "1.2.\t.x1".toList ∧
      Token.StandsApart ⟨.dot, ".", "f", ⟨1, 6⟩⟩ ⟨.invalid, "1.2.", "f", ⟨1, 1⟩⟩ := by
  have done := tokenize_eq {} "f" "1.2.\t.x1"
  rw [failure?_of_even (by decide)] at done
  have number : ⟨.invalid, "1.2.", "f", ⟨1, 1⟩⟩ ∈
      Placed.tokens {} "f" (segmentsOf "1.2.\t.x1") := by decide +kernel
  have dot : ⟨.dot, ".", "f", ⟨1, 6⟩⟩ ∈
      Placed.tokens {} "f" (segmentsOf "1.2.\t.x1") := by decide +kernel
  have munched := tokenize_maximal_munch done
  exact ⟨_, done, number, dot, munched.1 _ number, munched.2 _ dot _ number rfl (by decide)⟩

end LexicalPass
