import LexicalPass.Proofs.Segmentation

/-!
The lexemes of each kind of token, as patterns.  A segment stands for a token of
some kind exactly when its text has the pattern of that kind.
-/

set_option autoImplicit false

namespace LexicalPass

open Segment

/-- One digit or more. -/
def IsDigits (s : List Char) : Prop := s ≠ [] ∧ ∀ c ∈ s, c.isDigit = true

/-- The texts that can be lexemes of a kind. -/
def Kind.Admits : Kind → List Char → Prop
  | stringLiteral, s => '\x22' ∉ s
  | intLiteral, s => IsDigits s
  | floatLiteral, s =>
      ∃ whole fraction, s = whole ++ '.' :: fraction ∧ IsDigits whole ∧ IsDigits fraction
  | identifier, s =>
      ∃ first others, s = first :: others ∧ IsWordStart first ∧ ∀ c ∈ others, IsWordChar c
  | endOfLine, s => s = ['\n']
  | invalid, s =>
      ∃ first others, s = first :: others ∧ first.isDigit = true ∧ (∀ c ∈ others, IsNumeric c) ∧
        (2 ≤ s.count '.' ∨ s.count '.' = 1 ∧ s.getLast? = some '.')
  | kind, s => ∃ c, s = [c] ∧ (c, kind) ∈ punctuation

theorem Kind.admits_iff_of_isPunctuation {kind : Kind} (isPunctuation : kind.IsPunctuation)
    (s : List Char) : kind.Admits s ↔ ∃ c, s = [c] ∧ (c, kind) ∈ punctuation := by
  cases kind with
  | stringLiteral => exact absurd isPunctuation (by decide)
  | intLiteral => exact absurd isPunctuation (by decide)
  | floatLiteral => exact absurd isPunctuation (by decide)
  | identifier => exact absurd isPunctuation (by decide)
  | endOfLine => exact absurd isPunctuation (by decide)
  | invalid => exact absurd isPunctuation (by decide)
  | _ => exact Iff.rfl

/-- Each character of the table is found there with its kind. -/
theorem Kind.ofChar?_of_mem_punctuation {c : Char} {kind : Kind}
    (listed : (c, kind) ∈ punctuation) : ofChar? c = some kind ∧ CharClass.ofChar c = .other := by
  have table : ∀ entry ∈ punctuation,
      ofChar? entry.1 = some entry.2 ∧ CharClass.ofChar entry.1 = .other := by decide
  exact table (c, kind) listed

namespace Numeral

variable {s : List Char}

/-- Many points, or one without a digit behind it. -/
def IsFlawed (s : List Char) : Prop :=
  2 ≤ s.count '.' ∨ s.count '.' = 1 ∧ ¬ EndsInDigit s

theorem ofRun_of_no_point (none : s.count '.' = 0) : ofRun s = .integer := by
  simp [ofRun, none]

theorem ofRun_of_one_point (one : s.count '.' = 1) (ends : EndsInDigit s) :
    ofRun s = .decimal := by
  simp [ofRun, one, ends]

theorem ofRun_of_isFlawed (flawed : IsFlawed s) : ∃ flaw, ofRun s = .malformed flaw := by
  rcases flawed with many | ⟨one, ends⟩
  · have notNone : s.count '.' ≠ 0 := by omega
    have notOne : s.count '.' ≠ 1 := by omega
    exact ⟨.manyPoints, by simp [ofRun, notNone, notOne, Nat.lt_of_succ_le many]⟩
  · exact ⟨.trailingPoint, by simp [ofRun, one, ends]⟩

theorem point_cases (s : List Char) :
    s.count '.' = 0 ∨ (s.count '.' = 1 ∧ EndsInDigit s) ∨ IsFlawed s := by
  have number : s.count '.' = 0 ∨ s.count '.' = 1 ∨ 2 ≤ s.count '.' := by omega
  rcases number with none | one | many
  · exact .inl none
  · by_cases ends : EndsInDigit s
    · exact .inr (.inl ⟨one, ends⟩)
    · exact .inr (.inr (.inr ⟨one, ends⟩))
  · exact .inr (.inr (.inl many))

/-- A run of digits and points that does not end in a point ends in a digit. -/
theorem endsInDigit_iff (numeric : ∀ c ∈ s, IsNumeric c) (nonempty : s ≠ []) :
    EndsInDigit s ↔ s.getLast? ≠ some '.' := by
  have last := List.getLast?_eq_some_getLast nonempty
  rcases numeric _ (List.getLast_mem nonempty) with digit | point
  · have notPoint : s.getLast nonempty ≠ '.' := by
      intro point
      simp [point] at digit
    simp [EndsInDigit, last, digit, notPoint]
  · simp [EndsInDigit, last, point]

theorem count_point_eq_zero_iff (numeric : ∀ c ∈ s, IsNumeric c) :
    s.count '.' = 0 ↔ ∀ c ∈ s, c.isDigit = true := by
  rw [List.count_eq_zero]
  constructor
  · intro absent c inside
    rcases numeric c inside with digit | rfl
    · exact digit
    · exact absurd inside absent
  · intro digits inside
    exact absurd (digits _ inside) (by decide)

theorem isNumeric_of_isDigits (digits : IsDigits s) : ∀ c ∈ s, IsNumeric c :=
  fun c inside => .inl (digits.2 c inside)

theorem count_point_of_isDigits (digits : IsDigits s) : s.count '.' = 0 :=
  (count_point_eq_zero_iff (isNumeric_of_isDigits digits)).mpr digits.2

/-- A run with one point and a digit at either end is two runs of digits around it. -/
theorem exists_digits_of_one_point {first : Char} {others : List Char}
    (digit : first.isDigit = true) (numeric : ∀ c ∈ first :: others, IsNumeric c)
    (one : (first :: others).count '.' = 1) (ends : EndsInDigit (first :: others)) :
    ∃ whole fraction, first :: others = whole ++ '.' :: fraction ∧ IsDigits whole ∧
      IsDigits fraction := by
  have inside : '.' ∈ first :: others := List.count_pos_iff.mp (by omega)
  obtain ⟨whole, fraction, split⟩ := List.append_of_mem inside
  rw [split] at one numeric ends
  have counts : whole.count '.' = 0 ∧ fraction.count '.' = 0 := by
    simp only [List.count_append, List.count_cons_self] at one
    omega
  simp only [List.forall_mem_append, List.forall_mem_cons] at numeric
  refine ⟨whole, fraction, split, ⟨?_, ?_⟩, ⟨?_, ?_⟩⟩
  · rintro rfl
    rw [(List.cons.inj split).1] at digit
    exact absurd digit (by decide)
  · exact (count_point_eq_zero_iff numeric.1).mp counts.1
  · rintro rfl
    obtain ⟨c, last, isDigit⟩ := ends
    have isPoint : c = '.' := by simpa using last.symm
    rw [isPoint] at isDigit
    exact absurd isDigit (by decide)
  · exact (count_point_eq_zero_iff numeric.2.2).mp counts.2

theorem endsInDigit_of_isDigits {fraction : List Char} (digits : IsDigits fraction)
    (s : List Char) : EndsInDigit (s ++ fraction) := by
  refine ⟨fraction.getLast digits.1, ?_, digits.2 _ (List.getLast_mem digits.1)⟩
  rw [List.getLast?_append, List.getLast?_eq_some_getLast digits.1, Option.some_or]

end Numeral

namespace Segment

section Numeral

variable {first : Char} {others : List Char}

theorem isNumeric_of_mem_numeral (wellFormed : (numeral first others).WellFormed) :
    ∀ c ∈ first :: others, IsNumeric c :=
  List.forall_mem_cons.mpr ⟨.inl wellFormed.1, wellFormed.2⟩

/-- The kinds of a numeral, each with the pattern of its text. -/
theorem admits_of_kind?_numeral {config : Config} {kind : Kind}
    (wellFormed : (numeral first others).WellFormed)
    (found : (numeral first others).kind? config = some kind) :
    kind.Admits (first :: others) := by
  have numeric := isNumeric_of_mem_numeral wellFormed
  rcases Numeral.point_cases (first :: others) with none | ⟨one, ends⟩ | flawed
  · simp only [kind?, Numeral.ofRun_of_no_point none, Option.some.injEq] at found
    rw [← found]
    exact ⟨by simp, (Numeral.count_point_eq_zero_iff numeric).mp none⟩
  · simp only [kind?, Numeral.ofRun_of_one_point one ends, Option.some.injEq] at found
    rw [← found]
    exact Numeral.exists_digits_of_one_point wellFormed.1 numeric one ends
  · obtain ⟨flaw, malformed⟩ := Numeral.ofRun_of_isFlawed flawed
    simp only [kind?, malformed, Option.some.injEq] at found
    rw [← found]
    refine ⟨first, others, rfl, wellFormed.1, wellFormed.2, ?_⟩
    rcases flawed with many | ⟨one, ends⟩
    · exact .inl many
    · rw [Numeral.endsInDigit_iff numeric (by simp), not_not] at ends
      exact .inr ⟨one, ends⟩

theorem exists_numeral_of_isDigits (config : Config) {s : List Char} (digits : IsDigits s) :
    ∃ first others, (numeral first others).WellFormed ∧
      (numeral first others).kind? config = some .intLiteral ∧ first :: others = s := by
  have none := Numeral.count_point_of_isDigits digits
  have numeric := Numeral.isNumeric_of_isDigits digits
  cases s with
  | nil => exact absurd rfl digits.1
  | cons first others =>
      rw [List.forall_mem_cons] at numeric
      refine ⟨first, others, ⟨digits.2 first (by simp), numeric.2⟩, ?_, rfl⟩
      simp only [kind?, Numeral.ofRun_of_no_point none]

theorem exists_numeral_of_decimal (config : Config) {whole fraction : List Char}
    (left : IsDigits whole) (right : IsDigits fraction) :
    ∃ first others, (numeral first others).WellFormed ∧
      (numeral first others).kind? config = some .floatLiteral ∧
      first :: others = whole ++ '.' :: fraction := by
  have one : (whole ++ '.' :: fraction).count '.' = 1 := by
    simp [List.count_append, Numeral.count_point_of_isDigits left,
      Numeral.count_point_of_isDigits right]
  have ends : Numeral.EndsInDigit (whole ++ '.' :: fraction) := by
    rw [List.append_cons]
    exact Numeral.endsInDigit_of_isDigits right _
  have numeric : ∀ c ∈ whole ++ '.' :: fraction, IsNumeric c := by
    rw [List.forall_mem_append, List.forall_mem_cons]
    exact ⟨Numeral.isNumeric_of_isDigits left, .inr rfl, Numeral.isNumeric_of_isDigits right⟩
  cases whole with
  | nil => exact absurd rfl left.1
  | cons first others =>
      rw [List.cons_append, List.forall_mem_cons] at numeric
      refine ⟨first, others ++ '.' :: fraction, ⟨left.2 first (by simp), numeric.2⟩, ?_, rfl⟩
      rw [List.cons_append] at one ends
      simp only [kind?, Numeral.ofRun_of_one_point one ends]

theorem kind?_of_flawed (config : Config) (wellFormed : (numeral first others).WellFormed)
    (flawed : 2 ≤ (first :: others).count '.' ∨
      (first :: others).count '.' = 1 ∧ (first :: others).getLast? = some '.') :
    (numeral first others).kind? config = some .invalid := by
  have ends := Numeral.endsInDigit_iff (isNumeric_of_mem_numeral wellFormed) (by simp)
  have isFlawed : Numeral.IsFlawed (first :: others) := by
    rcases flawed with many | ⟨one, last⟩
    · exact .inl many
    · exact .inr ⟨one, fun inDigit => ends.mp inDigit last⟩
  obtain ⟨flaw, malformed⟩ := Numeral.ofRun_of_isFlawed isFlawed
  simp only [kind?, malformed]

end Numeral

theorem closed_of_kind? {config : Config} {g : Segment} {kind : Kind}
    (found : g.kind? config = some kind) : g.Closed := by
  rintro body rfl
  simp [kind?] at found

/-- The lexeme of a segment has the pattern of the kind it stands for. -/
theorem admits_of_kind? {config : Config} {g : Segment} {kind : Kind}
    (wellFormed : g.WellFormed) (found : g.kind? config = some kind) : kind.Admits g.lexeme := by
  cases g with
  | newline =>
      simp only [kind?, Option.ite_none_right_eq_some, Option.some.injEq] at found
      rw [← found.2]
      rfl
  | blank c => simp [kind?] at found
  | string body =>
      cases found
      exact wellFormed
  | unclosed body => simp [kind?] at found
  | numeral first others => exact admits_of_kind?_numeral wellFormed found
  | word first others =>
      cases found
      exact ⟨first, others, rfl, wellFormed⟩
  | symbol c =>
      have listed := Kind.mem_punctuation_of_ofChar? found
      have isPunctuation := Kind.isPunctuation_of_ofChar? found
      exact (Kind.admits_iff_of_isPunctuation isPunctuation _).mpr ⟨c, rfl, listed⟩

/-- A text with the pattern of a kind is the lexeme of a segment that stands for
this kind, if line ends are kept where it is one. -/
theorem exists_segment_of_admits {config : Config} {kind : Kind} {s : List Char}
    (admits : kind.Admits s) (keeps : kind = .endOfLine → config.emitEndOfLine = true) :
    ∃ g : Segment, g.WellFormed ∧ g.kind? config = some kind ∧ g.lexeme = s := by
  by_cases isPunctuation : kind.IsPunctuation
  · obtain ⟨c, rfl, listed⟩ := (Kind.admits_iff_of_isPunctuation isPunctuation s).mp admits
    obtain ⟨found, cls⟩ := Kind.ofChar?_of_mem_punctuation listed
    exact ⟨symbol c, cls, found, rfl⟩
  · cases kind with
    | stringLiteral => exact ⟨string s, admits, rfl, rfl⟩
    | intLiteral =>
        obtain ⟨first, others, wellFormed, found, rfl⟩ := exists_numeral_of_isDigits config admits
        exact ⟨numeral first others, wellFormed, found, rfl⟩
    | floatLiteral =>
        obtain ⟨whole, fraction, rfl, left, right⟩ := admits
        obtain ⟨first, others, wellFormed, found, run⟩ :=
          exists_numeral_of_decimal config left right
        exact ⟨numeral first others, wellFormed, found, run⟩
    | identifier =>
        obtain ⟨first, others, rfl, start, inside⟩ := admits
        exact ⟨word first others, ⟨start, inside⟩, rfl, rfl⟩
    | endOfLine =>
        obtain rfl : s = ['\n'] := admits
        exact ⟨newline, trivial, by simp [kind?, keeps rfl], rfl⟩
    | invalid =>
        obtain ⟨first, others, rfl, digit, numeric, flawed⟩ := admits
        have wellFormed : (numeral first others).WellFormed := ⟨digit, numeric⟩
        exact ⟨numeral first others, wellFormed, kind?_of_flawed config wellFormed flawed, rfl⟩
    | _ => exact absurd (by decide) isPunctuation

end Segment

end LexicalPass
