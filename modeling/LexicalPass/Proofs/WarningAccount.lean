import LexicalPass.Proofs.Lossless
import LexicalPass.Proofs.PrintedTokens

/-!
The warnings of a pass are complete and exact.  There is one for each invalid
token and one for each character outside string literals that no rule accepts,
in the order of the source and at their places, and no other.  What a warning
says of a number is what is wrong with it.
-/

set_option autoImplicit false

namespace LexicalPass

open Segment

/-- A character that outside string literals is neither blank nor a line end, and
is part of no token. -/
def IsStray (c : Char) : Prop :=
  c ≠ '\n' ∧ ¬ IsBlank c ∧ c ≠ '\x22' ∧ ¬ IsWordChar c ∧ c ∉ punctuation.map Prod.fst

instance (c : Char) : Decidable (IsStray c) := inferInstanceAs (Decidable (_ ∧ _))

/-- A text in which a phrase occurs. -/
def Says (text phrase : String) : Prop := phrase.toList <:+: text.toList

/-- What is known of the warnings of a sequence from its tokens and its source. -/
structure TokenSequence.AccountsFor (sequence : TokenSequence) (name : CodePoints)
    (source : List Char) : Prop where
  malformed : (sequence.warnings.toList.filter (·.code = some "L003")).map
      (fun w => (w.lexeme, w.location)) =
    (sequence.tokens.toList.filter (·.kind = .invalid)).map fun t => (some t.lexeme, t.location)
  unrecognized : (sequence.warnings.toList.filter (·.code = some "L004")).map
      (fun w => (w.lexeme, w.location)) =
    (outsideLiterals (IsStray ·) source).map fun (c, i) =>
      (some (String.singleton c), ⟨name, .behind (source.take i)⟩)
  noOthers : ∀ w ∈ sequence.warnings.toList, w.code = some "L003" ∨ w.code = some "L004"
  ordered : sequence.warnings.toList.Pairwise fun v w =>
    v.location.position.Precedes w.location.position
  explained : ∀ w ∈ sequence.warnings.toList, w.code = some "L003" →
    ∃ lexeme help, w.lexeme = some lexeme ∧ w.help = some help ∧
      (Says help "at most one decimal point" ↔ 2 ≤ lexeme.toList.count '.') ∧
      (Says help "followed by at least one digit" ↔
        lexeme.toList.count '.' = 1 ∧ lexeme.toList.getLast? = some '.')

namespace IsStray

variable {c : Char}

theorem not_of_isWordChar (inWord : IsWordChar c) : ¬ IsStray c :=
  fun stray => stray.2.2.2.1 inWord

theorem not_of_isNumeric (numeric : IsNumeric c) : ¬ IsStray c := by
  rcases numeric with digit | rfl
  · exact not_of_isWordChar (.inr digit)
  · decide

theorem not_mem_punctuation_iff (c : Char) :
    c ∉ punctuation.map Prod.fst ↔ Kind.ofChar? c = none := by
  rw [Kind.ofChar?, List.lookup_eq_none_iff]
  constructor
  · intro unlisted entry listed
    rw [bne_iff_ne]
    rintro rfl
    exact unlisted (List.mem_map_of_mem listed)
  · intro unknown listed
    obtain ⟨entry, member, same⟩ := List.mem_map.mp listed
    exact bne_iff_ne.mp (unknown entry member) same.symm

/-- Among the characters that have no scanner those without a kind are stray. -/
theorem iff_of_other (other : CharClass.ofChar c = .other) : IsStray c ↔ Kind.ofChar? c = none := by
  have notNewline : c ≠ '\n' := by
    rintro rfl
    simp at other
  have notBlank : ¬ IsBlank c := by
    intro blank
    rw [CharClass.ofChar_of_isBlank blank] at other
    simp at other
  have notQuote : c ≠ '\x22' := by
    rintro rfl
    simp at other
  have notWord : ¬ IsWordChar c := by
    intro inWord
    rw [CharClass.ofChar_of_isWordChar inWord] at other
    split at other <;> simp at other
  rw [← not_mem_punctuation_iff]
  exact ⟨fun stray => stray.2.2.2.2,
    fun unlisted => ⟨notNewline, notBlank, notQuote, notWord, unlisted⟩⟩

end IsStray

/-- The two flaws of a numeral, told by its points. -/
theorem Numeral.flaw_iff {s : List Char} {flaw : Flaw} (malformed : ofRun s = .malformed flaw) :
    (flaw = .manyPoints ↔ 2 ≤ s.count '.') ∧
      (flaw = .trailingPoint ↔ s.count '.' = 1 ∧ ¬ EndsInDigit s) := by
  simp only [ofRun] at malformed
  split_ifs at malformed with none one many
  · cases malformed
    simp only [true_iff, reduceCtorEq, false_iff, not_and]
    exact ⟨many, by omega⟩
  · cases malformed
    have exactlyOne : s.count '.' = 1 := by omega
    simp only [reduceCtorEq, false_iff, true_iff]
    exact ⟨by omega, exactlyOne, fun ends => one ⟨exactlyOne, ends⟩⟩

/-- The help of a warning about a number names the flaw. -/
theorem Numeral.Flaw.says_reason (flaw : Flaw) :
    (Says flaw.reason "at most one decimal point" ↔ flaw = .manyPoints) ∧
      (Says flaw.reason "followed by at least one digit" ↔ flaw = .trailingPoint) := by
  unfold Says
  cases flaw <;> decide +kernel

namespace Segment.Placed

variable (config : Config) (name : CodePoints)

/-- A segment is warned of as malformed where it stands for an invalid token. -/
theorem malformed_eq_invalid (p : Placed) :
    ((p.warning? name).filter (·.code = some "L003")).map (fun w => (w.lexeme, w.location)) =
      ((p.token? config name).filter (·.kind = .invalid)).map
        fun t => (some t.lexeme, t.location) := by
  by_cases recognized : ∀ c, p.segment = symbol c → Kind.ofChar? c ≠ none
  · have told := warning?_of_recognized config name recognized
    cases isWarning : p.warning? name with
    | none =>
        rw [isWarning, Option.map_none, eq_comm, Option.map_eq_none_iff] at told
        rw [told]
        rfl
    | some warning =>
        rw [isWarning, Option.map_some, eq_comm, Option.map_eq_some_iff] at told
        obtain ⟨token, isToken, same⟩ := told
        obtain ⟨code, lexeme, location⟩ :
            some "L003" = warning.code ∧ some token.lexeme = warning.lexeme ∧
              token.location = warning.location := by simpa using same
        rw [isToken, Option.filter_some, if_pos (decide_eq_true code.symm), Option.map_some,
          Option.map_some, lexeme, location]
  · push Not at recognized
    obtain ⟨c, isSymbol, unknown⟩ := recognized
    have noToken : p.token? config name = none := by
      simp [token?, isSymbol, kind?, unknown]
    simp [noToken, warning?, isSymbol, unknown, Warning.ofDescription, Problem.code]

theorem stray?_eq_none {before : List Char} {g : Segment} (notSymbol : ∀ c, g ≠ symbol c) :
    stray? name ⟨before, g⟩ = none := by
  apply Option.eq_none_iff_forall_ne_some.mpr
  intro warning isStray
  obtain ⟨c, isSymbol, _⟩ := symbol_of_stray? isStray
  exact notSymbol c isSymbol

end Segment.Placed

/-- The warning about a character right behind a text. -/
def Warning.strayBehind (name : CodePoints) (before : List Char) (c : Char) : Warning :=
  .ofDescription (String.singleton c) (Text.describeChar c) ⟨name, .behind before⟩

/-- No character of a segment is stray unless it is a symbol or in a literal. -/
theorem not_isStray_of_mem_text {g : Segment} (wellFormed : g.WellFormed) (closed : g.Closed)
    (notSymbol : ∀ c, g ≠ symbol c) (notString : ∀ body, g ≠ string body) :
    ∀ c ∈ g.text, ¬ IsStray c := by
  intro c inside
  cases g with
  | newline =>
      obtain rfl := List.mem_singleton.mp inside
      decide
  | blank d =>
      obtain rfl := List.mem_singleton.mp inside
      exact fun stray => stray.2.1 wellFormed
  | string body => exact absurd rfl (notString body)
  | unclosed body => exact absurd rfl (closed body)
  | numeral first others =>
      exact IsStray.not_of_isNumeric (isNumeric_of_mem_numeral wellFormed c inside)
  | word first others =>
      apply IsStray.not_of_isWordChar
      rcases List.mem_cons.mp inside with rfl | later
      · exact .inl wellFormed.1
      · exact wellFormed.2 c later
  | symbol d => exact absurd rfl (notSymbol d)

/-- A segment is warned of as not recognized where it is a stray character
outside literals. -/
theorem stray_of_marks (name : CodePoints) {g : Segment} {before : List Char}
    (wellFormed : g.WellFormed) (closed : g.Closed) (balanced : Even (before.count '\x22')) :
    (Placed.stray? name ⟨before, g⟩).toList =
      (marksFrom (IsStray ·) before g.text).map fun mark => .strayBehind name mark.1 mark.2 := by
  by_cases isSymbol : ∃ c, g = symbol c
  · obtain ⟨c, rfl⟩ := isSymbol
    have stray := IsStray.iff_of_other wellFormed
    cases known : Kind.ofChar? c with
    | none =>
        have isStray : IsStray c := stray.mpr known
        simp [Placed.stray?, Placed.warning?, known, text, marksFrom, isStray, balanced,
          Warning.ofDescription, Warning.strayBehind, Problem.code, Placed.location,
          Placed.position]
    | some kind =>
        have notStray : ¬ IsStray c := by simp [stray, known]
        simp [Placed.stray?, Placed.warning?, known, text, marksFrom, notStray]
  · push Not at isSymbol
    rw [Placed.stray?_eq_none name isSymbol, Option.toList_none, eq_comm, List.map_eq_nil_iff]
    by_cases isString : ∃ body, g = string body
    · obtain ⟨body, rfl⟩ := isString
      exact marksFrom_literal balanced wellFormed (by decide)
    · push Not at isString
      apply marksFrom_of_absent
      intro c inside
      exact decide_eq_false (not_isStray_of_mem_text wellFormed closed isSymbol isString c inside)

theorem strays_of_tokenize (name : CodePoints) {source : String}
    (closed : ∀ g ∈ all source.toList, g.Closed) :
    (Placed.warnings name (segmentsOf source)).filter (·.code = some "L004") =
      (outsideLiterals (IsStray ·) source.toList).map fun (c, i) =>
        .strayBehind name (source.toList.take i) c := by
  have balanced : Even (([] : List Char).count '\x22') := by decide
  have told := filterMap_place_of_marks (Placed.stray? name)
    (fun mark => Warning.strayBehind name mark.1 mark.2)
    (stray_of_marks name) (tiles_all source.toList) closed balanced
  rw [Placed.warnings, List.filter_filterMap]
  change (segmentsOf source).filterMap (Placed.stray? name) = _
  rw [segmentsOf, told, marksFrom_nil_eq, List.map_map]
  rfl

theorem explained_of_warning? {name : CodePoints} {p : Placed} {w : Warning}
    (wellFormed : p.segment.WellFormed) (found : p.warning? name = some w)
    (isMalformed : w.code = some "L003") :
    ∃ lexeme help, w.lexeme = some lexeme ∧ w.help = some help ∧
      (Says help "at most one decimal point" ↔ 2 ≤ lexeme.toList.count '.') ∧
      (Says help "followed by at least one digit" ↔
        lexeme.toList.count '.' = 1 ∧ lexeme.toList.getLast? = some '.') := by
  rcases Placed.warning?_cases found with
    ⟨first, others, flaw, isNumeral, malformed, rfl⟩ | ⟨c, _, _, rfl⟩
  · rw [isNumeral] at wellFormed
    have ends := Numeral.endsInDigit_iff (isNumeric_of_mem_numeral wellFormed) (by simp)
    obtain ⟨many, trailing⟩ := Numeral.flaw_iff malformed
    rw [ends, not_not] at trailing
    refine ⟨_, _, rfl, rfl, ?_, ?_⟩
    · rw [flaw.says_reason.1, many, String.toList_ofList]
    · rw [flaw.says_reason.2, trailing, String.toList_ofList]
  · simp [Warning.ofDescription, Problem.code] at isMalformed

/-- A pass warns of each malformed number and of each stray character, and of
nothing else. -/
theorem tokenize_accounts_for_problems {config : Config} {name : CodePoints} {source : String}
    {sequence : TokenSequence} (done : tokenize config name source = .ok sequence) :
    sequence.AccountsFor name source.toList := by
  obtain ⟨closed, rfl⟩ := of_tokenize_ok done
  have tiles := tiles_all source.toList
  exact {
    malformed := by
      simp only [Placed.warnings, Placed.tokens, List.filter_filterMap, List.map_filterMap,
        Placed.malformed_eq_invalid config name]
    unrecognized := by
      rw [strays_of_tokenize name closed, List.map_map]
      rfl
    noOthers := by
      intro w inside
      obtain ⟨p, _, found⟩ := List.mem_filterMap.mp inside
      rcases Placed.warning?_cases found with ⟨_, _, _, _, _, rfl⟩ | ⟨_, _, _, rfl⟩
      · exact .inl rfl
      · exact .inr rfl
    ordered := Placed.pairwise_warnings name source
    explained := by
      intro w inside isMalformed
      obtain ⟨p, placed, found⟩ := List.mem_filterMap.mp inside
      have wellFormed := wellFormed_of_tiles tiles _ (segment_mem_of_mem_place placed)
      exact explained_of_warning? wellFormed found isMalformed }

/-- Both flaws, and a character that is stray outside the literal only. -/
theorem tokenize_accounts_for_two_lines :
    ∃ sequence, tokenize {} "f" "5. \"$\" $\n1..2é" = .ok sequence ∧
      sequence.AccountsFor "f" "5. \"$\" $\n1..2é".toList ∧
      sequence.warnings.toList.map (fun w => (w.code, w.lexeme, w.location.position)) =
        [(some "L003", some "5.", ⟨1, 1⟩), (some "L004", some "$", ⟨1, 8⟩),
         (some "L003", some "1..2", ⟨2, 1⟩), (some "L004", some "é", ⟨2, 5⟩)] := by
  have done := tokenize_eq {} "f" "5. \"$\" $\n1..2é"
  rw [failure?_of_even (by decide)] at done
  exact ⟨_, done, tokenize_accounts_for_problems done, by decide +kernel⟩

end LexicalPass
