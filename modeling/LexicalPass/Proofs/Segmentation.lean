import LexicalPass.Segment
import Mathlib.Algebra.Group.Nat.Even
import Mathlib.Data.List.TakeWhile

/-!
A text has one tiling by well-formed segments of which none could go on, and
`Segment.all` finds it.  Facts about a tiling are thus facts about every text.
-/

set_option autoImplicit false

namespace LexicalPass

/-- What the characters of a class have in common. -/
def CharClass.Describes : CharClass → Char → Prop
  | newline, c => c = '\n'
  | whitespace, c => IsBlank c
  | quote, c => c = '\x22'
  | digit, c => c.isDigit = true
  | wordStart, c => IsWordStart c
  | other, _ => True

theorem CharClass.describes_of_ofChar {c : Char} {cls : CharClass} (found : ofChar c = cls) :
    cls.Describes c := by
  subst found
  unfold ofChar
  split_ifs
  case neg => trivial
  all_goals assumption

namespace Segment

/-- What a segment may be made of. -/
def WellFormed : Segment → Prop
  | newline => True
  | blank c => IsBlank c
  | string body => '\x22' ∉ body
  | unclosed body => '\x22' ∉ body
  | numeral first others => first.isDigit = true ∧ ∀ c ∈ others, IsNumeric c
  | word first others => IsWordStart first ∧ ∀ c ∈ others, IsWordChar c
  | symbol c => CharClass.ofChar c = .other

/-- The text after a segment does not belong to it. -/
def StopsBefore : Segment → List Char → Prop
  | unclosed _, s => s = []
  | numeral _ _, s => ∀ c ∈ s.head?, ¬ IsNumeric c
  | word _ _, s => ∀ c ∈ s.head?, ¬ IsWordChar c
  | _, _ => True

/-- Segments that make up a text from its start to its end. -/
inductive Tiles : List Segment → List Char → Prop
  | nil : Tiles [] []
  | cons {g : Segment} {gs : List Segment} {s : List Char} :
      g.WellFormed → g.StopsBefore s → Tiles gs s → Tiles (g :: gs) (g.text ++ s)

theorem takeWhile_run {α : Type} {p : α → Bool} {run s : List α} (inside : ∀ c ∈ run, p c = true)
    (outside : ∀ c ∈ s.head?, ¬ p c = true) : (run ++ s).takeWhile p = run := by
  rw [List.takeWhile_append_of_pos inside]
  cases s with
  | nil => simp
  | cons c s => simp [outside c rfl]

theorem dropWhile_run {α : Type} {p : α → Bool} {run s : List α} (inside : ∀ c ∈ run, p c = true)
    (outside : ∀ c ∈ s.head?, ¬ p c = true) : (run ++ s).dropWhile p = s := by
  rw [List.dropWhile_append_of_pos inside]
  cases s with
  | nil => simp
  | cons c s => simp [outside c rfl]

theorem not_head?_dropWhile {p : Char → Bool} {s : List Char} {c : Char}
    (head : c ∈ (s.dropWhile p).head?) : ¬ p c = true := by
  have stopped := List.head?_dropWhile_not p s
  rw [Option.mem_def] at head
  simpa [head] using stopped

/-- A text with a quote in it is what stands before its first quote, that quote
and what is left. -/
theorem eq_of_dropWhile_quote {s rest : List Char} {closing : Char}
    (dropped : s.dropWhile (· ≠ '\x22') = closing :: rest) :
    s = s.takeWhile (· ≠ '\x22') ++ '\x22' :: rest := by
  have head : closing ∈ (s.dropWhile (· ≠ '\x22')).head? := by
    rw [dropped]
    rfl
  have isQuote : closing = '\x22' := by simpa using not_head?_dropWhile head
  have joined := List.takeWhile_append_dropWhile (p := (· ≠ '\x22')) (l := s)
  rw [dropped, isQuote] at joined
  exact joined.symm

theorem forall_ne_quote {body : List Char} (absent : '\x22' ∉ body) :
    ∀ c ∈ body, decide (c ≠ '\x22') = true := by
  intro c inside
  rw [decide_eq_true_iff]
  rintro rfl
  exact absent inside

theorem not_mem_takeWhile_quote (s : List Char) : '\x22' ∉ s.takeWhile (· ≠ '\x22') := by
  intro inside
  simpa using List.mem_takeWhile_imp inside

theorem text_first (c : Char) (s : List Char) :
    (first c s).1.text ++ (first c s).2 = c :: s := by
  unfold first
  split
  · rename_i cls
    have isNewline : c = '\n' := CharClass.describes_of_ofChar cls
    rw [isNewline]
    rfl
  · rfl
  · rename_i cls
    have isQuote : c = '\x22' := CharClass.describes_of_ofChar cls
    rw [isQuote]
    split
    · simp [text]
    · rename_i rest dropped
      have joined := eq_of_dropWhile_quote dropped
      simp only [text, List.cons_append, List.append_assoc, List.nil_append, ← joined]
  · simp [text]
  · simp [text]
  · rfl

theorem wellFormed_first (c : Char) (s : List Char) : (first c s).1.WellFormed := by
  unfold first
  split
  · trivial
  · rename_i cls
    exact CharClass.describes_of_ofChar cls
  · split
    · rename_i dropped
      have outside := List.dropWhile_eq_nil_iff.mp dropped
      intro inside
      simpa using outside _ inside
    · exact not_mem_takeWhile_quote s
  · rename_i cls
    refine ⟨CharClass.describes_of_ofChar cls, ?_⟩
    intro d inside
    simpa using List.mem_takeWhile_imp inside
  · rename_i cls
    refine ⟨CharClass.describes_of_ofChar cls, ?_⟩
    intro d inside
    simpa using List.mem_takeWhile_imp inside
  · assumption

theorem stopsBefore_first (c : Char) (s : List Char) :
    (first c s).1.StopsBefore (first c s).2 := by
  unfold first
  split
  · trivial
  · trivial
  · split
    · rfl
    · trivial
  · intro d head
    simpa using not_head?_dropWhile head
  · intro d head
    simpa using not_head?_dropWhile head
  · trivial

theorem tiles_all (s : List Char) : Tiles (all s) s := by
  fun_induction all s with
  | case1 => exact .nil
  | case2 c s inductionHypothesis =>
      rw [← text_first c s]
      exact .cons (wellFormed_first c s) (stopsBefore_first c s) inductionHypothesis

theorem text_ne_nil (g : Segment) : g.text ≠ [] := by
  cases g <;> simp [text]

/-- A well-formed segment that could not go on is found at the front of its text. -/
theorem first_of_text {g : Segment} {c : Char} {s t : List Char} (wellFormed : g.WellFormed)
    (stops : g.StopsBefore s) (starts : g.text ++ s = c :: t) : first c t = (g, s) := by
  cases g with
  | newline =>
      obtain ⟨rfl, rfl⟩ := List.cons.inj starts
      rfl
  | blank d =>
      obtain ⟨rfl, rfl⟩ := List.cons.inj starts
      simp [first, CharClass.ofChar_of_isBlank wellFormed]
  | string body =>
      simp only [text, List.cons_append, List.append_assoc, List.nil_append,
        List.cons.injEq] at starts
      obtain ⟨rfl, rfl⟩ := starts
      have inside := forall_ne_quote wellFormed
      have outside : ∀ c ∈ ('\x22' :: s).head?, ¬ decide (c ≠ '\x22') = true := by simp
      simp only [first, CharClass.ofChar_quote, takeWhile_run inside outside,
        dropWhile_run inside outside]
  | unclosed body =>
      have atEnd : s = [] := stops
      subst atEnd
      simp only [text, List.append_nil, List.cons.injEq] at starts
      obtain ⟨rfl, rfl⟩ := starts
      have ends := List.dropWhile_eq_nil_iff.mpr (forall_ne_quote wellFormed)
      simp only [first, CharClass.ofChar_quote, ends]
  | numeral d others =>
      simp only [text, List.cons_append, List.cons.injEq] at starts
      obtain ⟨rfl, rfl⟩ := starts
      have inside : ∀ c ∈ others, decide (IsNumeric c) = true := by
        simpa using wellFormed.2
      have outside : ∀ c ∈ s.head?, ¬ decide (IsNumeric c) = true := by
        simpa [StopsBefore] using stops
      simp only [first, CharClass.ofChar_of_isDigit wellFormed.1, takeWhile_run inside outside,
        dropWhile_run inside outside]
  | word d others =>
      simp only [text, List.cons_append, List.cons.injEq] at starts
      obtain ⟨rfl, rfl⟩ := starts
      have inside : ∀ c ∈ others, decide (IsWordChar c) = true := by
        simpa using wellFormed.2
      have outside : ∀ c ∈ s.head?, ¬ decide (IsWordChar c) = true := by
        simpa [StopsBefore] using stops
      simp only [first, CharClass.ofChar_of_isWordStart wellFormed.1,
        takeWhile_run inside outside, dropWhile_run inside outside]
  | symbol d =>
      obtain ⟨rfl, rfl⟩ := List.cons.inj starts
      have cls : CharClass.ofChar d = .other := wellFormed
      simp [first, cls]

theorem all_of_tiles {gs : List Segment} {s : List Char} (tiles : Tiles gs s) : all s = gs := by
  induction tiles with
  | nil => rw [all]
  | @cons g gs s wellFormed stops tiles inductionHypothesis =>
      cases whole : g.text ++ s with
      | nil => exact absurd (List.append_eq_nil_iff.mp whole).1 g.text_ne_nil
      | cons c t =>
          rw [all, first_of_text wellFormed stops whole, inductionHypothesis]

theorem flatMap_text_of_tiles {gs : List Segment} {s : List Char} (tiles : Tiles gs s) :
    gs.flatMap text = s := by
  induction tiles with
  | nil => rfl
  | cons wellFormed stops tiles inductionHypothesis =>
      rw [List.flatMap_cons, inductionHypothesis]

theorem wellFormed_of_tiles {gs : List Segment} {s : List Char} (tiles : Tiles gs s) :
    ∀ g ∈ gs, g.WellFormed := by
  induction tiles with
  | nil => simp
  | cons wellFormed stops tiles inductionHypothesis =>
      exact List.forall_mem_cons.mpr ⟨wellFormed, inductionHypothesis⟩

theorem map_segment_place (before : List Char) (gs : List Segment) :
    (place before gs).map Placed.segment = gs := by
  induction gs generalizing before with
  | nil => rfl
  | cons g gs inductionHypothesis => rw [place, List.map_cons, inductionHypothesis]

theorem segment_mem_of_mem_place {before : List Char} {gs : List Segment} {p : Placed}
    (placed : p ∈ place before gs) : p.segment ∈ gs := by
  have inside := List.mem_map_of_mem (f := Placed.segment) placed
  rwa [map_segment_place] at inside

theorem place_append (before : List Char) (gs hs : List Segment) :
    place before (gs ++ hs) = place before gs ++ place (before ++ gs.flatMap text) hs := by
  induction gs generalizing before with
  | nil => simp [place]
  | cons g gs inductionHypothesis => simp [place, inductionHypothesis]

/-- Only a string literal can be left unclosed. -/
def Closed (g : Segment) : Prop := ∀ body, g ≠ unclosed body

theorem fatal?_of_closed (config : Config) (name : CodePoints) (before : List Char) {g : Segment}
    (closed : g.Closed) : Placed.fatal? config name ⟨before, g⟩ = none := by
  unfold Placed.fatal?
  split
  · rename_i body isUnclosed
    exact absurd isUnclosed (closed body)
  · rfl

theorem failure?_of_closed (config : Config) (name : CodePoints) (before : List Char)
    {gs : List Segment} (closed : ∀ g ∈ gs, g.Closed) :
    Placed.failure? config name (place before gs) = none := by
  induction gs generalizing before with
  | nil => rfl
  | cons g gs inductionHypothesis =>
      rw [List.forall_mem_cons] at closed
      rw [place, Placed.failure?_cons, fatal?_of_closed config name before closed.1,
        Option.none_or, inductionHypothesis _ closed.2]

/-- A segment that is neither a line end nor a string literal. -/
def IsPlain : Segment → Prop
  | newline => False
  | string _ => False
  | unclosed _ => False
  | _ => True

/-- A character of a sort that has neither line feeds nor quotes. -/
theorem ne_newline_ne_quote {P : Char → Prop} (notNewline : ¬ P '\n') (notQuote : ¬ P '\x22')
    {c : Char} (holds : P c) : c ≠ '\n' ∧ c ≠ '\x22' := by
  constructor
  · rintro rfl
    exact notNewline holds
  · rintro rfl
    exact notQuote holds

/-- Line feeds and quotes stand in the segments that are theirs only. -/
theorem mem_text_of_isPlain {g : Segment} (wellFormed : g.WellFormed) (plain : g.IsPlain) :
    ∀ c ∈ g.text, c ≠ '\n' ∧ c ≠ '\x22' := by
  intro c inside
  cases g with
  | newline => exact plain.elim
  | string body => exact plain.elim
  | unclosed body => exact plain.elim
  | blank d =>
      obtain rfl := List.mem_singleton.mp inside
      exact ne_newline_ne_quote (P := IsBlank) (by decide) (by decide) wellFormed
  | numeral first others =>
      have numeric : IsNumeric c := by
        rcases List.mem_cons.mp inside with rfl | later
        · exact .inl wellFormed.1
        · exact wellFormed.2 c later
      exact ne_newline_ne_quote (by decide) (by decide) numeric
  | word first others =>
      have inWord : IsWordChar c := by
        rcases List.mem_cons.mp inside with rfl | later
        · exact .inl wellFormed.1
        · exact wellFormed.2 c later
      exact ne_newline_ne_quote (by decide) (by decide) inWord
  | symbol d =>
      obtain rfl := List.mem_singleton.mp inside
      exact ne_newline_ne_quote (P := (CharClass.ofChar · = .other)) (by decide) (by decide)
        wellFormed

theorem count_quote_of_isPlain {g : Segment} (wellFormed : g.WellFormed) (plain : g.IsPlain) :
    g.text.count '\x22' = 0 := by
  apply List.count_eq_zero_of_not_mem
  intro inside
  exact (mem_text_of_isPlain wellFormed plain _ inside).2 rfl

theorem closed_of_isPlain {g : Segment} (plain : g.IsPlain) : g.Closed := by
  rintro body rfl
  exact plain

theorem newline_or_literal_or_isPlain (g : Segment) :
    g = newline ∨ (∃ body, g = string body) ∨ (∃ body, g = unclosed body) ∨ g.IsPlain := by
  cases g <;> simp [IsPlain]

theorem kind?_of_isPlain {config : Config} {g : Segment} {kind : Kind} (plain : g.IsPlain)
    (found : g.kind? config = some kind) : kind ≠ .stringLiteral ∧ kind ≠ .endOfLine := by
  cases g with
  | newline => exact plain.elim
  | blank c => simp [kind?] at found
  | string body => exact plain.elim
  | unclosed body => exact plain.elim
  | numeral first others =>
      simp only [kind?] at found
      split at found <;> cases found <;> decide
  | word first others =>
      cases found
      decide
  | symbol c =>
      have punctuation := Kind.isPunctuation_of_ofChar? found
      constructor
      · rintro rfl
        revert punctuation
        decide
      · rintro rfl
        revert punctuation
        decide

/-- The text of a token is its lexeme, between quotes if it is a string literal. -/
theorem text_of_kind? {config : Config} {g : Segment} {kind : Kind}
    (found : g.kind? config = some kind) :
    g.text = if kind = .stringLiteral then '\x22' :: g.lexeme ++ ['\x22'] else g.lexeme := by
  rcases g.newline_or_literal_or_isPlain with rfl | ⟨body, rfl⟩ | ⟨body, rfl⟩ | plain
  · simp only [kind?, Option.ite_none_right_eq_some, Option.some.injEq] at found
    rw [← found.2]
    rfl
  · cases found
    rfl
  · simp [kind?] at found
  · rw [if_neg (kind?_of_isPlain plain found).1]
    cases g with
    | string body => exact plain.elim
    | _ => rfl

theorem count_quote_text {g : Segment} (wellFormed : g.WellFormed) (closed : g.Closed) :
    Even (g.text.count '\x22') := by
  rcases g.newline_or_literal_or_isPlain with rfl | ⟨body, rfl⟩ | ⟨body, rfl⟩ | plain
  · decide
  · have absent := List.count_eq_zero_of_not_mem (a := '\x22') (l := body) wellFormed
    have two : (string body).text.count '\x22' = 2 := by simp [text, absent]
    rw [two]
    decide
  · exact absurd rfl (closed body)
  · rw [count_quote_of_isPlain wellFormed plain]
    decide

theorem stopsBefore_append {g : Segment} {s t : List Char} (stops : g.StopsBefore s)
    (closed : g.Closed) (apart : ∀ c ∈ t.head?, ¬ IsWordChar c ∧ ¬ IsNumeric c) :
    g.StopsBefore (s ++ t) := by
  cases g with
  | newline => trivial
  | blank c => trivial
  | string body => trivial
  | unclosed body => exact absurd rfl (closed body)
  | numeral first others =>
      cases s with
      | nil => exact fun c head => (apart c head).2
      | cons c s => exact stops
  | word first others =>
      cases s with
      | nil => exact fun c head => (apart c head).1
      | cons c s => exact stops
  | symbol c => trivial

theorem stopsBefore_of_append {g : Segment} {s t : List Char} (stops : g.StopsBefore (s ++ t))
    (closed : g.Closed) : g.StopsBefore s := by
  cases g with
  | newline => trivial
  | blank c => trivial
  | string body => trivial
  | unclosed body => exact absurd rfl (closed body)
  | numeral first others =>
      cases s with
      | nil => simp [StopsBefore]
      | cons c s => exact stops
  | word first others =>
      cases s with
      | nil => simp [StopsBefore]
      | cons c s => exact stops
  | symbol c => trivial

theorem eq_nil_of_tiles_nil {gs : List Segment} (tiles : Tiles gs []) : gs = [] := by
  rw [← all_of_tiles tiles, all]

/-- Nothing follows an unclosed literal. -/
theorem last_of_not_closed {g : Segment} {gs : List Segment} {s : List Char}
    (stops : g.StopsBefore s) (tiles : Tiles gs s) (notClosed : ¬ g.Closed) :
    ∃ body, g = unclosed body ∧ gs = [] ∧ s = [] := by
  obtain ⟨body, rfl⟩ : ∃ body, g = unclosed body := by simpa [Closed] using notClosed
  have atEnd : s = [] := stops
  rw [atEnd] at tiles
  exact ⟨body, rfl, eq_nil_of_tiles_nil tiles, atEnd⟩

theorem even_count_quote_of_tiles {gs : List Segment} {s : List Char} (tiles : Tiles gs s)
    (closed : ∀ g ∈ gs, g.Closed) : Even (s.count '\x22') := by
  induction tiles with
  | nil => decide
  | @cons g gs s wellFormed stops tiles inductionHypothesis =>
      rw [List.count_append]
      rw [List.forall_mem_cons] at closed
      apply Even.add
      · exact count_quote_text wellFormed closed.1
      · exact inductionHypothesis closed.2

/-- Segments that tile two texts tile the two together where the second text
starts with nothing that could go on with the last segment of the first. -/
theorem tiles_append {gs hs : List Segment} {s t : List Char} (left : Tiles gs s)
    (closed : ∀ g ∈ gs, g.Closed) (apart : ∀ c ∈ t.head?, ¬ IsWordChar c ∧ ¬ IsNumeric c)
    (right : Tiles hs t) : Tiles (gs ++ hs) (s ++ t) := by
  induction left with
  | nil => exact right
  | @cons g gs s wellFormed stops tiles inductionHypothesis =>
      rw [List.cons_append, List.append_assoc]
      rw [List.forall_mem_cons] at closed
      apply Tiles.cons wellFormed
      · exact stopsBefore_append stops closed.1 apart
      · exact inductionHypothesis closed.2

/-- A text is closed throughout, or it ends in an unclosed string literal and
is closed up to there. -/
theorem closed_or_ends_unclosed {gs : List Segment} {s : List Char} (tiles : Tiles gs s) :
    (∀ g ∈ gs, g.Closed) ∨
      ∃ hs t body, Tiles hs t ∧ (∀ g ∈ hs, g.Closed) ∧ '\x22' ∉ body ∧
        gs = hs ++ [unclosed body] ∧ s = t ++ '\x22' :: body := by
  induction tiles with
  | nil =>
      left
      simp
  | @cons g gs s wellFormed stops tiles inductionHypothesis =>
      by_cases closed : g.Closed
      · rcases inductionHypothesis with
          allClosed | ⟨hs, t, body, front, closedFront, absent, rfl, rfl⟩
        · left
          exact List.forall_mem_cons.mpr ⟨closed, allClosed⟩
        · right
          refine ⟨g :: hs, g.text ++ t, body, ?_, ?_, absent, rfl, by simp⟩
          · exact .cons wellFormed (stopsBefore_of_append stops closed) front
          · exact List.forall_mem_cons.mpr ⟨closed, closedFront⟩
      · obtain ⟨body, rfl, rfl, rfl⟩ := last_of_not_closed stops tiles closed
        right
        exact ⟨[], [], body, .nil, by simp, wellFormed, rfl, by simp [text]⟩

end Segment

end LexicalPass
