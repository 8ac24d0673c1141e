import LexicalPass.Proofs.CursorTrace
import LexicalPass.Proofs.Turns
import Mathlib.Order.WellFounded

/-!
Progress of the scanners.  Wherever a pass may stand, the unit that comes next takes its
own characters off the text and leaves the cursor at the right place, whether its scanner
reads too far or looks ahead.  All the loops therefore come to an end.
-/

set_option autoImplicit false

namespace LexicalPass

namespace Cursor

/-- One turn of a loop that reads a character and goes on behind one of the sort `P`. -/
def ReadsOn (P : Char → Prop) (c : Cursor) (ch : Char) (next : Cursor) : Prop :=
  c.advance = (some ch, next) ∧ P ch

/-- One turn of a loop that looks at a character of the sort `P` before it reads it. -/
def LooksAndReadsOn (P : Char → Prop) (c : Cursor) (ch : Char) (next : Cursor) : Prop :=
  ∃ held, c.peek = .ok (some ch, held) ∧ P ch ∧ held.advance = (some ch, next)

/-- A scanner is the loop over these turns.  It adds the character of each turn to what it
has collected, and ends with that where no turn is left. -/
structure Loops {α : Type} (turn : Cursor → Char → Cursor → Prop)
    (scan : Cursor → String → α) (collectedIn : α → Option String) : Prop where
  turns : ∀ {c next : Cursor} {ch : Char}, turn c ch next → ∀ collected,
    scan c collected = scan next (collected.push ch)
  ends : ∀ {c : Cursor}, (∀ ch next, ¬ turn c ch next) → ∀ collected,
    collectedIn (scan c collected) = some collected
  finite : WellFounded fun next c => ∃ ch, turn c ch next

section Turns

variable {P : Char → Prop} {c next : Cursor} {ch : Char}

theorem readsOn_iff :
    ReadsOn P c ch next ↔ ∃ s, c.rest = ch :: s ∧ P ch ∧ next = c.past ch s := by
  constructor
  · rintro ⟨advanced, holds⟩
    have starts := rest_of_advance advanced
    rw [advance_cons starts] at advanced
    exact ⟨next.rest, starts, holds, (Prod.mk.inj advanced).2.symm⟩
  · rintro ⟨s, starts, holds, rfl⟩
    exact ⟨advance_cons starts, holds⟩

/-- Both ways of looking ahead take the same turns. -/
theorem looksAndReadsOn_iff :
    LooksAndReadsOn P c ch next ↔ ∃ s, c.rest = ch :: s ∧ P ch ∧ next = c.past ch s := by
  constructor
  · rintro ⟨held, peeked, holds, advanced⟩
    have starts : c.rest = ch :: next.rest := by
      rw [← (rest_of_peek peeked).1]
      exact rest_of_advance advanced
    rw [peek_cons starts] at peeked
    cases peeked
    rw [advance_cons (rest_holding c ch next.rest)] at advanced
    exact ⟨next.rest, starts, holds, (Prod.mk.inj advanced).2.symm⟩
  · rintro ⟨s, starts, holds, rfl⟩
    exact ⟨c.holding ch s, peek_cons starts, holds, advance_cons (rest_holding c ch s)⟩

end Turns

section Loops

variable {α : Type} {P : Char → Prop} {turn : Cursor → Char → Cursor → Prop}

/-- The measure counts the slot, since the unread text alone need not get shorter. -/
theorem wellFounded_of_turns
    (isTurn : ∀ {c next ch}, turn c ch next ↔ ∃ s, c.rest = ch :: s ∧ P ch ∧ next = c.past ch s) :
    WellFounded fun next c => ∃ ch, turn c ch next := by
  apply Subrelation.wf (r := InvImage (· < ·) fun c : Cursor => c.rest.length)
  · rintro next c ⟨ch, taken⟩
    obtain ⟨s, starts, -, rfl⟩ := isTurn.mp taken
    simp [InvImage, starts]
  · exact InvImage.wf _ Nat.lt_wfRel.wf

theorem loops_scanString :
    Loops (ReadsOn (· ≠ '\x22')) scanString fun result => some result.1 where
  turns := by
    intro c next ch taken collected
    obtain ⟨s, starts, other, rfl⟩ := readsOn_iff.mp taken
    rw [scanString_cons starts, if_neg other]
  ends := by
    intro c stopped collected
    cases left : c.rest with
    | nil => rw [scanString_nil left]
    | cons ch s =>
        by_cases closes : ch = '\x22'
        · rw [scanString_cons left, if_pos closes]
        · exact absurd (readsOn_iff.mpr ⟨s, left, closes, rfl⟩) (stopped ch _)
  finite := wellFounded_of_turns readsOn_iff

theorem Collects.loops [DecidablePred P]
    {scan : Cursor → String → Except PushbackError (String × Cursor)} (collects : Collects P scan)
    (isTurn : ∀ {c next ch}, turn c ch next ↔ ∃ s, c.rest = ch :: s ∧ P ch ∧ next = c.past ch s) :
    Loops turn scan fun result => result.toOption.map Prod.fst where
  turns := by
    intro c next ch taken collected
    obtain ⟨s, starts, holds, rfl⟩ := isTurn.mp taken
    rw [collects.step starts, if_pos holds]
  ends := by
    intro c stopped collected
    cases left : c.rest with
    | nil =>
        rw [collects.atEnd left]
        rfl
    | cons ch s =>
        by_cases holds : P ch
        · exact absurd (isTurn.mpr ⟨s, left, holds, rfl⟩) (stopped ch _)
        · rw [collects.step left, if_neg holds]
          rfl
  finite := wellFounded_of_turns isTurn

/-- A scanner of runs leaves the first character that it did not take in the slot. -/
theorem Collects.slot [DecidablePred P]
    {scan : Cursor → String → Except PushbackError (String × Cursor)} (collects : Collects P scan)
    {c next : Cursor} {collected lexeme : String} (scanned : scan c collected = .ok (lexeme, next)) :
    next.slot = next.rest.head? := by
  have inside : ∀ ch ∈ c.rest.takeWhile (P ·), P ch := by
    intro ch taken
    simpa using List.mem_takeWhile_imp taken
  have outside : ∀ ch ∈ (c.rest.dropWhile (P ·)).head?, ¬ P ch := by
    intro ch head
    simpa using Segment.not_head?_dropWhile head
  obtain ⟨other, result, rest, -, slot⟩ :=
    collects.run List.takeWhile_append_dropWhile.symm inside outside collected
  rw [result] at scanned
  cases scanned
  rw [slot, rest]

end Loops

end Cursor

namespace Pass

/-- What is left of a text `c :: s` behind the unit that `c` starts. -/
def remainder (c : Char) (s : List Char) : List Char :=
  if c.isDigit then s.dropWhile (IsNumeric ·)
  else if IsWordStart c then s.dropWhile (IsWordChar ·)
  else if c = '\x22' then (s.dropWhile (· ≠ '\x22')).tail
  else s

theorem remainder_eq (c : Char) (s : List Char) : remainder c s = (Segment.first c s).2 := by
  unfold Segment.first
  split
  · rename_i cls
    obtain rfl : c = '\n' := CharClass.describes_of_ofChar cls
    rfl
  · rename_i cls
    have blank : IsBlank c := CharClass.describes_of_ofChar cls
    simp only [IsBlank, List.mem_cons, List.not_mem_nil, or_false] at blank
    rcases blank with rfl | rfl | rfl | rfl | rfl <;> rfl
  · rename_i cls
    obtain rfl : c = '\x22' := CharClass.describes_of_ofChar cls
    show (s.dropWhile (· ≠ '\x22')).tail = _
    cases s.dropWhile (· ≠ '\x22') <;> rfl
  · rename_i cls
    have digit : c.isDigit = true := CharClass.describes_of_ofChar cls
    simp [remainder, digit]
  · rename_i cls
    have start : IsWordStart c := CharClass.describes_of_ofChar cls
    simp [remainder, CharClass.not_isDigit_of_isWordStart start, start]
  · rename_i cls
    have notDigit : c.isDigit ≠ true := by
      intro digit
      rw [CharClass.ofChar_of_isDigit digit] at cls
      cases cls
    have notStart : ¬ IsWordStart c := by
      intro start
      rw [CharClass.ofChar_of_isWordStart start] at cls
      cases cls
    have notQuote : c ≠ '\x22' := by
      rintro rfl
      cases cls
    simp [remainder, notDigit, notStart, notQuote]

/-- Where a pass stands in a text: it can still write, and its cursor is at the right place. -/
structure StandsIn (text : List Char) (p : Progress) : Prop where
  isOpen : p.sequence.isClosed = false
  divided : ∃ consumed, Cursor.Divides text consumed p.cursor

/-- How the unit that `c` starts, with `s` behind it, leaves the cursor. -/
structure Leaves (text : List Char) (c : Char) (s : List Char) (next : Cursor) : Prop where
  rest : next.rest = remainder c s
  divided : ∃ consumed, Cursor.Divides text consumed next
  /-- Numbers and words leave the first character behind them in the slot, if there is one. -/
  slot : IsWordChar c → next.slot = next.rest.head?
  shorter : next.rest.length < (c :: s).length

section Unit

variable {config : Config} {location : Location} {c : Char} {s text : List Char}
  {p next : Progress}

theorem slot_of_unit (inWord : IsWordChar c) (done : unit config location c p = .ok next) :
    next.cursor.slot = next.cursor.rest.head? := by
  obtain ⟨cursor, sequence, records⟩ := p
  rw [unit, CharClass.ofChar_of_isWordChar inWord] at done
  by_cases digit : c.isDigit = true
  · rw [if_pos digit] at done
    simp only [number] at done
    split at done
    · rename_i scanned
      rw [cursor_of_numeral location done]
      exact Cursor.collects_scanNumber.slot scanned
    · cases done
  · rw [if_neg digit] at done
    simp only [word] at done
    split at done
    · rename_i scanned
      rw [Progress.cursor_of_emit done]
      exact Cursor.collects_scanWord.slot scanned
    · cases done

theorem closed_first (closes : c = '\x22' → '\x22' ∈ s) : (Segment.first c s).1.Closed := by
  intro body unclosed
  have whole := Segment.text_first c s
  have wellFormed := Segment.wellFormed_first c s
  have stops := Segment.stopsBefore_first c s
  rw [unclosed] at whole wellFormed stops
  have ended : (Segment.first c s).2 = [] := stops
  rw [ended, List.append_nil] at whole
  obtain ⟨rfl, rfl⟩ := List.cons.inj whole
  exact wellFormed (closes rfl)

/-- A unit that can be closed is scanned without any refusal. -/
theorem unit_leaves (config : Config) (name : CodePoints) (stands : StandsIn text p)
    (left : p.cursor.rest = c :: s) (closes : c = '\x22' → '\x22' ∈ s) :
    ∃ next, unit config ⟨name, p.cursor.position⟩ c { p with cursor := p.cursor.past c s } =
        .ok next ∧ Leaves text c s next.cursor ∧ StandsIn text next := by
  obtain ⟨consumed, whole, position⟩ := stands.divided
  obtain ⟨others, starts⟩ : ∃ others, (Segment.first c s).1.text = c :: others := by
    obtain ⟨d, others, starts⟩ := List.exists_cons_of_ne_nil (Segment.first c s).1.text_ne_nil
    have same := Segment.text_first c s
    rw [starts, List.cons_append] at same
    obtain ⟨rfl, -⟩ := List.cons.inj same
    exact ⟨others, starts⟩
  have rest : s = others ++ (Segment.first c s).2 := by
    have same := Segment.text_first c s
    rw [starts, List.cons_append] at same
    exact (List.cons.inj same).2.symm
  obtain ⟨cursor, cursorRest, cursorPosition, done⟩ :=
    unit_of_closed config name consumed (p := { p with cursor := p.cursor.past c s })
      (Segment.wellFormed_first c s) (Segment.stopsBefore_first c s) (closed_first closes)
      stands.isOpen starts rest
  rw [← position] at done
  have divided : Cursor.Divides text (consumed ++ c :: others) cursor := {
    whole := by
      rw [whole, left, List.append_assoc, List.cons_append, cursorRest, ← rest]
    position := by
      rw [cursorPosition, Position.behind_append, Position.afterAll_cons, ← position]
      rfl }
  refine ⟨_, done, ?_, stands.isOpen, _, divided⟩
  exact {
    rest := by
      rw [remainder_eq]
      exact cursorRest
    divided := ⟨_, divided⟩
    slot := fun inWord => slot_of_unit inWord done
    shorter := by
      have shorter := Segment.length_first_le c s
      rw [← cursorRest] at shorter
      exact Nat.lt_succ_of_le shorter }

end Unit

section Run

variable {config : Config} {name : CodePoints} {source : String} {p q : Progress}

theorem Turn.rest_lt (turn : Turn config name p q) :
    q.cursor.rest.length < p.cursor.rest.length := by
  obtain ⟨advanced, done⟩ := turn
  have taken := congrArg List.length (Cursor.rest_of_advance advanced)
  have scanned := rest_le_of_unit config _ done
  simp only [List.length_cons] at taken scanned
  omega

theorem wellFounded_turn (config : Config) (name : CodePoints) :
    WellFounded fun next p => Turn config name p next := by
  apply Subrelation.wf (r := InvImage (· < ·) fun p : Progress => p.cursor.rest.length)
  · intro next p turn
    exact turn.rest_lt
  · exact InvImage.wf _ Nat.lt_wfRel.wf

/-- What is left of a turn when the character that it takes is known. -/
theorem unit_of_turn {c : Char} {s : List Char} (left : p.cursor.rest = c :: s)
    (turn : Turn config name p q) :
    unit config ⟨name, p.cursor.position⟩ c { p with cursor := p.cursor.past c s } = .ok q := by
  obtain ⟨advanced, done⟩ := turn
  rw [Cursor.advance_cons left] at advanced
  cases advanced
  exact done

theorem rest_ne_nil_of_turn (turn : Turn config name p q) : p.cursor.rest ≠ [] := by
  obtain ⟨advanced, -⟩ := turn
  rw [Cursor.rest_of_advance advanced]
  exact List.cons_ne_nil _ _

theorem unit_fails (config : Config) (name : CodePoints) {body text : List Char}
    (stands : StandsIn text p) (absent : '\x22' ∉ body) :
    ∃ aborted error, unit config ⟨name, p.cursor.position⟩ '\x22'
        { p with cursor := p.cursor.past '\x22' body } = .error aborted ∧
      aborted.fault = .fatal error := by
  obtain ⟨consumed, -, position⟩ := stands.divided
  rw [position, unit_of_unclosed config name consumed absent rfl]
  exact ⟨_, _, rfl, rfl⟩

theorem standsIn_of_turn {text : List Char} (stands : StandsIn text p)
    (turn : Turn config name p q) : StandsIn text q := by
  obtain ⟨c, s, left⟩ := List.exists_cons_of_ne_nil (rest_ne_nil_of_turn turn)
  have done := unit_of_turn left turn
  by_cases closes : c = '\x22' → '\x22' ∈ s
  · obtain ⟨next, scanned, -, still⟩ := unit_leaves config name stands left closes
    rw [scanned] at done
    cases done
    exact still
  · push Not at closes
    obtain ⟨rfl, absent⟩ := closes
    obtain ⟨aborted, error, failed, -⟩ := unit_fails config name stands absent
    rw [failed] at done
    cases done

theorem standsIn_of_reaches (reaches : Reaches config name (start name source) p) :
    StandsIn source.toList p := by
  induction reaches with
  | refl => exact ⟨rfl, [], rfl, rfl⟩
  | tail _ turn inductionHypothesis => exact standsIn_of_turn inductionHypothesis turn

theorem run_of_reaches (reaches : Reaches config name p q) :
    run config name p = run config name q := by
  induction reaches with
  | refl => rfl
  | tail _ turn inductionHypothesis =>
      obtain ⟨c, s, left⟩ := List.exists_cons_of_ne_nil (rest_ne_nil_of_turn turn)
      rw [inductionHypothesis, run_cons config name left, unit_of_turn left turn]

/-- From anywhere a pass comes to a place where it takes no further turn. -/
theorem exists_halted (config : Config) (name : CodePoints) (p : Progress) :
    ∃ q, Reaches config name p q ∧ ∀ next, ¬ Turn config name q next := by
  obtain ⟨q, reaches, least⟩ := (wellFounded_turn config name).has_min
    { q | Reaches config name p q } ⟨p, .refl⟩
  refine ⟨q, reaches, ?_⟩
  intro next turn
  exact least next (reaches.tail turn) turn

end Run

/-- What is known where a pass may stand, of the unit that comes next and of the text that
it leaves. -/
structure TakesUnit (config : Config) (name : CodePoints) (text : List Char) (p : Progress) :
    Prop where
  ended : p.cursor.rest = [] → p.cursor.advance = (none, p.cursor)
  advanced : ∀ c s, p.cursor.rest = c :: s → p.cursor.advance = (some c, p.cursor.past c s)
  /-- The scanner is refused nothing and returns. -/
  returned : ∀ c s, p.cursor.rest = c :: s → (c = '\x22' → '\x22' ∈ s) →
    ∃ next, unit config ⟨name, p.cursor.position⟩ c { p with cursor := p.cursor.past c s } =
        .ok next ∧ Leaves text c s next.cursor
  /-- Only a literal that is never closed keeps it from returning. -/
  raised : ∀ s, p.cursor.rest = '\x22' :: s → '\x22' ∉ s →
    ∃ aborted error, unit config ⟨name, p.cursor.position⟩ '\x22'
        { p with cursor := p.cursor.past '\x22' s } = .error aborted ∧
      aborted.fault = .fatal error

theorem takesUnit_of_standsIn {config : Config} {name : CodePoints} {text : List Char}
    {p : Progress} (stands : StandsIn text p) : TakesUnit config name text p where
  ended := Cursor.advance_nil
  advanced := by
    intro c s left
    exact Cursor.advance_cons left
  returned := by
    intro c s left closes
    obtain ⟨next, done, leaves, -⟩ := unit_leaves config name stands left closes
    exact ⟨next, done, leaves⟩
  raised := by
    intro s left absent
    exact unit_fails config name stands absent

/-- Where a pass takes no further turn: at the end of the text, or before a literal that is
never closed. -/
inductive Halts (result : Except Fault TokenSequence) (q : Progress) : Prop
  | atEnd : q.cursor.rest = [] → result = .ok q.sequence.close → Halts result q
  | unclosed {body : List Char} {error : FatalError} :
      q.cursor.rest = '\x22' :: body → '\x22' ∉ body → result = .error (.fatal error) →
      Halts result q

theorem halts_of_standsIn {config : Config} {name : CodePoints} {source : String} {q : Progress}
    (reaches : Reaches config name (start name source) q)
    (halted : ∀ next, ¬ Turn config name q next) : Halts (tokenize config name source) q := by
  have stands := standsIn_of_reaches reaches
  have same : lex config name source = run config name q := run_of_reaches reaches
  rw [tokenize, same]
  cases left : q.cursor.rest with
  | nil =>
      rw [run_nil config name left]
      exact .atEnd left rfl
  | cons c s =>
      by_cases closes : c = '\x22' → '\x22' ∈ s
      · obtain ⟨next, done, -, -⟩ := unit_leaves config name stands left closes
        exact absurd (.scanned (Cursor.advance_cons left) done) (halted next)
      · push Not at closes
        obtain ⟨rfl, absent⟩ := closes
        obtain ⟨aborted, error, failed, fatal⟩ :=
          unit_fails config name stands absent
        rw [run_cons config name left, failed]
        exact .unclosed left absent (congrArg Except.error fatal)

/-- Wherever a pass may stand, the next unit takes its own characters off the text, and
its scanner leaves the cursor at the place behind them.  So there is no endless pass, and
no scanner has an endless loop. -/
theorem scanners_make_progress (config : Config) (name : CodePoints) (source : String) :
    (∀ p, Reaches config name (start name source) p →
      (∃ consumed, Cursor.Divides source.toList consumed p.cursor) ∧
        TakesUnit config name source.toList p) ∧
    (WellFounded fun next p => Turn config name p next) ∧
    (∃ q, Reaches config name (start name source) q ∧ Halts (tokenize config name source) q) ∧
    Cursor.Loops (Cursor.ReadsOn (· ≠ '\x22')) Cursor.scanString (fun result => some result.1) ∧
    Cursor.Loops (Cursor.ReadsOn IsNumeric) Cursor.scanNumber
      (fun result => result.toOption.map Prod.fst) ∧
    Cursor.Loops (Cursor.LooksAndReadsOn IsWordChar) Cursor.scanWord
      (fun result => result.toOption.map Prod.fst) := by
  refine ⟨?_, wellFounded_turn config name, ?_, Cursor.loops_scanString,
    Cursor.collects_scanNumber.loops Cursor.readsOn_iff,
    Cursor.collects_scanWord.loops Cursor.looksAndReadsOn_iff⟩
  · intro p reaches
    have stands := standsIn_of_reaches reaches
    exact ⟨stands.divided, takesUnit_of_standsIn stands⟩
  · obtain ⟨q, reaches, halted⟩ := exists_halted config name (start name source)
    exact ⟨q, reaches, halts_of_standsIn reaches halted⟩

end Pass

end LexicalPass
