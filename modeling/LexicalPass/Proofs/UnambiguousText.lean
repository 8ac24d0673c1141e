import LexicalPass.Proofs.DiagnosticLines

/-!
Renderings can be read back.  A quoted text ends at its own closing mark and spells no
other text, whatever stands in it and whatever follows, so the parts of a rendered token
or location cannot be mistaken for each other.
-/

set_option autoImplicit false

namespace LexicalPass

/-- A text is cut in one way before the first of its separators. -/
theorem append_cons_inj_of_first {α : Type} [DecidableEq α] {separator : α} {s s' t t' : List α}
    (absent : separator ∉ s) (absent' : separator ∉ s')
    (same : s ++ separator :: t = s' ++ separator :: t') : s = s' ∧ t = t' := by
  have cut {u v : List α} (free : separator ∉ u) :
      (u ++ separator :: v).takeWhile (· ≠ separator) = u := by
    apply Segment.takeWhile_run
    · intro c inside
      rw [decide_eq_true_iff]
      rintro rfl
      exact free inside
    · simp
  have front : s = s' := by rw [← cut absent, same, cut absent']
  subst front
  exact ⟨rfl, (List.cons.inj (List.append_cancel_left same)).2⟩

/-- And in one way behind the last of them. -/
theorem append_cons_inj_of_last {α : Type} [DecidableEq α] {separator : α} {s s' t t' : List α}
    (absent : separator ∉ t) (absent' : separator ∉ t')
    (same : s ++ separator :: t = s' ++ separator :: t') : s = s' ∧ t = t' := by
  have turned := congrArg List.reverse same
  simp only [List.reverse_append, List.reverse_cons, List.append_assoc,
    List.singleton_append] at turned
  obtain ⟨back, front⟩ := append_cons_inj_of_first (by simpa using absent) (by simpa using absent')
    turned
  exact ⟨List.reverse_inj.mp front, List.reverse_inj.mp back⟩

namespace CodePoint

theorem number_lt (c : CodePoint) : c.number < 0x110000 := by
  cases c with
  | char c =>
      have isScalar : c.toNat < 0xD800 ∨ 0xDFFF < c.toNat ∧ c.toNat < 0x110000 := c.valid
      simp only [number]
      omega
  | surrogate index =>
      have bound := index.isLt
      simp only [number]
      omega

/-- No character has the number of a surrogate. -/
theorem number_char_ne (c : Char) (index : Fin 0x800) :
    (char c).number ≠ (surrogate index).number := by
  have isScalar : c.toNat < 0xD800 ∨ 0xDFFF < c.toNat ∧ c.toNat < 0x110000 := c.valid
  have bound := index.isLt
  simp only [number]
  omega

theorem number_injective : Function.Injective number := by
  intro c d same
  cases c with
  | char c =>
      cases d with
      | char d => rw [Char.toNat_inj.mp same]
      | surrogate index => exact absurd same (number_char_ne c index)
  | surrogate index =>
      cases d with
      | char d => exact absurd same.symm (number_char_ne d index)
      | surrogate other =>
          have sameIndex : index = other := Fin.ext (Nat.add_left_cancel same)
          rw [sameIndex]

end CodePoint

namespace Text

section Digits

/-- Digits that are told apart tell numbers of one width apart. -/
theorem map_hexDigits_inj {f : Char → Char}
    (apart : ∀ a < 16, ∀ b < 16, f (hexDigit a) = f (hexDigit b) → a = b) {width m n : Nat}
    (small : m < 16 ^ width) (small' : n < 16 ^ width)
    (same : (hexDigits width m).map f = (hexDigits width n).map f) : m = n := by
  induction width generalizing m n with
  | zero =>
      rw [Nat.pow_zero] at small small'
      omega
  | succ width inductionHypothesis =>
      simp only [hexDigits, List.map_append, List.map_cons, List.map_nil] at same
      obtain ⟨upper, last⟩ := List.append_inj' same (by simp)
      rw [Nat.pow_succ] at small small'
      have high := inductionHypothesis (m := m / 16) (n := n / 16) (by omega) (by omega) upper
      have low := apart (m % 16) (by omega) (n % 16) (by omega) (List.cons.inj last).1
      omega

theorem hexDigits_inj {width m n : Nat} (small : m < 16 ^ width) (small' : n < 16 ^ width)
    (same : hexDigits width m = hexDigits width n) : m = n := by
  apply map_hexDigits_inj (f := id) (by decide) small small'
  rw [same]

theorem toNat_lt_codePointWidth (c : Char) : c.toNat < 16 ^ codePointWidth c.toNat := by
  have bound : c.toNat < 0x110000 := (CodePoint.char c).number_lt
  unfold codePointWidth
  split
  · omega
  · split <;> omega

theorem codePoint_injective : Function.Injective codePoint := by
  intro c d same
  have digits := String.ofList_injective ((String.append_right_inj _).mp same)
  have width : codePointWidth c.toNat = codePointWidth d.toNat := by
    simpa using congrArg List.length digits
  rw [width] at digits
  have bound := toNat_lt_codePointWidth c
  rw [width] at bound
  apply Char.toNat_inj.mp
  exact map_hexDigits_inj (by decide) bound (toNat_lt_codePointWidth d) digits

/-- A character between apostrophes cannot be taken for a code point. -/
theorem between_ne_codePoint (s : List Char) (c : Char) : between apostrophe s ≠ codePoint c := by
  intro same
  have heads := congrArg (fun text => text.toList.head?) same
  simp [between, codePoint, apostrophe] at heads

theorem describeChar_injective : Function.Injective describeChar := by
  intro c d same
  unfold describeChar at same
  split at same
  · split at same
    · have chars := String.ofList_injective same
      exact (List.cons.inj (List.cons.inj chars).2).1
    · exact absurd same (between_ne_codePoint [c] d)
  · split at same
    · exact absurd same.symm (between_ne_codePoint [d] c)
    · exact codePoint_injective same

end Digits

section Escape

/-- The number of digits that a sign behind a backslash announces. -/
def codeWidth (sign : Char) : Nat :=
  if sign = 'x' then 2 else if sign = 'u' then 4 else if sign = 'U' then 8 else 0

/-- The character that a sign behind a backslash means when no digits follow. -/
def meant (sign : Char) : Char :=
  if sign = 'n' then '\n' else if sign = 'r' then '\r' else if sign = 't' then '\t' else sign

/-- The ways to write a code point between two marks. -/
inductive Spells (mark : Char) : CodePoint → List Char → Prop
  | plain {c : Char} : c ≠ mark → c ≠ '\\' → Spells mark (.char c) [c]
  | escaped {sign : Char} : codeWidth sign = 0 → Spells mark (.char (meant sign)) ['\\', sign]
  | coded {c : CodePoint} {sign : Char} :
      codeWidth sign ≠ 0 → c.number < 16 ^ codeWidth sign →
      Spells mark c ('\\' :: sign :: hexDigits (codeWidth sign) c.number)

variable {mark : Char}

theorem spells_spelling (c : CodePoint) : Spells mark c c.spelling := by
  have bound := c.number_lt
  unfold CodePoint.spelling
  split
  · rename_i small
    exact .coded (show codeWidth 'x' ≠ 0 by decide) small
  · split
    · rename_i small
      exact .coded (show codeWidth 'u' ≠ 0 by decide) small
    · exact .coded (show codeWidth 'U' ≠ 0 by decide) (Nat.lt_trans bound (by decide))

/-- Neither mark is the sign of anything but itself. -/
theorem spells_escapeChar (isMark : mark = apostrophe ∨ mark = quotationMark) (c : Char) :
    Spells mark (.char c) (escapeChar mark c) := by
  unfold escapeChar
  split_ifs with special newline carriage tab printable
  · rcases special with rfl | rfl
    · rcases isMark with rfl | rfl
      · exact .escaped (show codeWidth apostrophe = 0 by decide)
      · exact .escaped (show codeWidth quotationMark = 0 by decide)
    · exact .escaped (show codeWidth '\\' = 0 by decide)
  · rw [newline]
    exact .escaped (show codeWidth 'n' = 0 by decide)
  · rw [carriage]
    exact .escaped (show codeWidth 'r' = 0 by decide)
  · rw [tab]
    exact .escaped (show codeWidth 't' = 0 by decide)
  · rw [not_or] at special
    exact .plain special.1 special.2
  · exact spells_spelling (.char c)

theorem spells_escape (isMark : mark = apostrophe ∨ mark = quotationMark) (c : CodePoint) :
    Spells mark c (escape mark c) := by
  cases c with
  | char c => exact spells_escapeChar isMark c
  | surrogate index => exact spells_spelling (.surrogate index)

/-- No way to write a character starts with the mark that ends the text. -/
theorem head_ne_of_spells (isMark : mark = apostrophe ∨ mark = quotationMark) {c : CodePoint}
    {s : List Char} (spells : Spells mark c s) : ∃ d t, s = d :: t ∧ d ≠ mark := by
  have notBackslash : '\\' ≠ mark := by rcases isMark with rfl | rfl <;> decide
  cases spells with
  | plain notMark _ => exact ⟨_, [], rfl, notMark⟩
  | escaped _ => exact ⟨_, _, rfl, notBackslash⟩
  | coded _ _ => exact ⟨_, _, rfl, notBackslash⟩

/-- What is written for a character tells it, and where the next begins. -/
theorem eq_of_spells_append {c d : CodePoint} {s t u v : List Char} (spells : Spells mark c s)
    (spells' : Spells mark d t) (same : s ++ u = t ++ v) : c = d ∧ u = v := by
  cases spells with
  | plain _ notBackslash =>
      cases spells' with
      | plain _ _ =>
          obtain ⟨rfl, tail⟩ := List.cons.inj same
          exact ⟨rfl, tail⟩
      | escaped _ => exact absurd (List.cons.inj same).1 notBackslash
      | coded _ _ => exact absurd (List.cons.inj same).1 notBackslash
  | @escaped sign bare =>
      cases spells' with
      | plain _ notBackslash => exact absurd (List.cons.inj same).1.symm notBackslash
      | escaped _ =>
          obtain ⟨rfl, tail⟩ := List.cons.inj (List.cons.inj same).2
          exact ⟨rfl, tail⟩
      | coded announces _ =>
          obtain ⟨rfl, -⟩ := List.cons.inj (List.cons.inj same).2
          exact absurd bare announces
  | @coded _ sign announces bound =>
      cases spells' with
      | plain _ notBackslash => exact absurd (List.cons.inj same).1.symm notBackslash
      | escaped bare =>
          obtain ⟨rfl, -⟩ := List.cons.inj (List.cons.inj same).2
          exact absurd bare announces
      | coded _ bound' =>
          obtain ⟨rfl, tail⟩ := List.cons.inj (List.cons.inj same).2
          obtain ⟨digits, rest⟩ := List.append_inj tail (by simp)
          exact ⟨CodePoint.number_injective (hexDigits_inj bound bound' digits), rest⟩

theorem flatMap_escape_inj (isMark : mark = apostrophe ∨ mark = quotationMark)
    {s t : CodePoints} {u v : List Char}
    (same : s.flatMap (escape mark) ++ mark :: u = t.flatMap (escape mark) ++ mark :: v) :
    s = t ∧ u = v := by
  -- A text that is longer than the other would go on where the other has its mark.
  have goesOn {c : CodePoint} {s : CodePoints} {u v : List Char}
      (same : mark :: u = (c :: s).flatMap (escape mark) ++ v) : False := by
    obtain ⟨d, rest, starts, notMark⟩ := head_ne_of_spells isMark (spells_escape isMark c)
    rw [List.flatMap_cons, starts] at same
    exact notMark (List.cons.inj same).1.symm
  induction s generalizing t with
  | nil =>
      cases t with
      | nil => exact ⟨rfl, (List.cons.inj same).2⟩
      | cons d t => exact (goesOn same).elim
  | cons c s inductionHypothesis =>
      cases t with
      | nil => exact (goesOn same.symm).elim
      | cons d t =>
          rw [List.flatMap_cons, List.flatMap_cons, List.append_assoc, List.append_assoc] at same
          obtain ⟨rfl, rest⟩ :=
            eq_of_spells_append (spells_escape isMark c) (spells_escape isMark d) same
          obtain ⟨rfl, tail⟩ := inductionHypothesis rest
          exact ⟨rfl, tail⟩

theorem delimiter_eq (s : CodePoints) : delimiter s = apostrophe ∨ delimiter s = quotationMark := by
  unfold delimiter
  split
  · exact .inr rfl
  · exact .inl rfl

/-- A quoted text delimits itself.  Which mark it stands between is seen at its front. -/
theorem quoteChars_append_inj {s t : CodePoints} {u v : List Char}
    (same : quoteChars s ++ u = quoteChars t ++ v) : s = t ∧ u = v := by
  simp only [quoteChars, List.cons_append, List.append_assoc, List.nil_append,
    List.cons.injEq] at same
  obtain ⟨sameMark, rest⟩ := same
  rw [← sameMark] at rest
  exact flatMap_escape_inj (delimiter_eq s) rest

end Escape

end Text

section Numbers

theorem toList_repr_of_nonneg {n : Int} (natural : 0 ≤ n) :
    n.repr.toList = Nat.toDigits 10 n.toNat := by
  rw [Int.repr_eq_if, if_pos natural, Nat.toList_repr]

theorem toList_repr_of_neg {n : Int} (negative : n < 0) :
    n.repr.toList = '-' :: Nat.toDigits 10 (-n).toNat := by
  rw [Int.repr_eq_if, if_neg (Int.not_le.mpr negative), String.toList_append, Nat.toList_repr]
  rfl

theorem isDigit_of_mem_toDigits {n : Nat} {c : Char} (inside : c ∈ Nat.toDigits 10 n) :
    c.isDigit = true :=
  Nat.isDigit_of_mem_toDigits (by decide) (by decide) inside

theorem not_mem_repr {separator : Char} (notDigit : separator.isDigit = false)
    (notMinus : separator ≠ '-') (n : Int) : separator ∉ n.repr.toList := by
  have notInside {k : Nat} : separator ∉ Nat.toDigits 10 k := by
    intro inside
    rw [isDigit_of_mem_toDigits inside] at notDigit
    cases notDigit
  by_cases natural : 0 ≤ n
  · rw [toList_repr_of_nonneg natural]
    exact notInside
  · rw [toList_repr_of_neg (Int.not_le.mp natural), List.mem_cons, not_or]
    exact ⟨notMinus, notInside⟩

theorem comma_not_mem_repr : ∀ n : Int, ',' ∉ n.repr.toList :=
  not_mem_repr (by decide) (by decide)

theorem colon_not_mem_repr : ∀ n : Int, ':' ∉ n.repr.toList :=
  not_mem_repr (by decide) (by decide)

theorem toDigits_inj {m n : Nat} (same : Nat.toDigits 10 m = Nat.toDigits 10 n) : m = n := by
  have values := congrArg (Nat.ofDigitChars 10 · 0) same
  simpa only [Nat.ofDigitChars_ten_toDigits] using values

theorem toDigits_ne_minus_cons (n : Nat) (s : List Char) : Nat.toDigits 10 n ≠ '-' :: s := by
  intro signed
  have inside : '-' ∈ Nat.toDigits 10 n := by
    rw [signed]
    exact List.mem_cons_self
  exact absurd (isDigit_of_mem_toDigits inside) (by decide)

/-- The sign of a number is seen at its front, and its digits tell its size. -/
theorem eq_of_toList_repr {m n : Int} (same : m.repr.toList = n.repr.toList) : m = n := by
  by_cases natural : 0 ≤ m
  · rw [toList_repr_of_nonneg natural] at same
    by_cases natural' : 0 ≤ n
    · rw [toList_repr_of_nonneg natural'] at same
      have sizes := toDigits_inj same
      omega
    · rw [toList_repr_of_neg (Int.not_le.mp natural')] at same
      exact absurd same (toDigits_ne_minus_cons _ _)
  · rw [toList_repr_of_neg (Int.not_le.mp natural)] at same
    by_cases natural' : 0 ≤ n
    · rw [toList_repr_of_nonneg natural'] at same
      exact absurd same.symm (toDigits_ne_minus_cons _ _)
    · rw [toList_repr_of_neg (Int.not_le.mp natural')] at same
      have sizes := toDigits_inj (List.cons.inj same).2
      omega

theorem eq_of_repr {m n : Int} (same : m.repr = n.repr) : m = n :=
  eq_of_toList_repr (congrArg String.toList same)

end Numbers

namespace Location

theorem render_eq (l : Location) :
    l.render = (l.source ++ .char ':' :: CodePoints.ofString l.line.repr) ++
      .char ':' :: CodePoints.ofString l.column.repr := by
  unfold Location.render
  rw [Int.toString_eq_repr, Int.toString_eq_repr, List.append_assoc, List.append_assoc,
    List.append_assoc, List.append_assoc]
  rfl

theorem toList_inspect (l : Location) :
    l.inspect.toList =
      "SourceLocation(".toList ++ (Text.quoteChars l.source ++
        ',' :: ' ' :: (l.line.repr.toList ++ ',' :: ' ' :: (l.column.repr.toList ++ [')']))) := by
  unfold Location.inspect
  simp [Int.toString_eq_repr]

/-- A location is read from its end, since the name of a source may hold colons. -/
theorem render_injective : Function.Injective render := by
  rintro ⟨source, line, column⟩ ⟨source', line', column'⟩ same
  have free (n : Int) : .char ':' ∉ CodePoints.ofString n.repr := by
    rw [CodePoints.char_mem_ofString]
    exact colon_not_mem_repr n
  rw [render_eq, render_eq] at same
  obtain ⟨front, sameColumn⟩ := append_cons_inj_of_last (free _) (free _) same
  obtain ⟨rfl, sameLine⟩ := append_cons_inj_of_last (free _) (free _) front
  obtain rfl : line = line' := eq_of_repr (CodePoints.ofString_injective sameLine)
  obtain rfl : column = column' := eq_of_repr (CodePoints.ofString_injective sameColumn)
  rfl

theorem inspect_injective : Function.Injective Location.inspect := by
  rintro ⟨source, line, column⟩ ⟨source', line', column'⟩ same
  have chars := congrArg String.toList same
  rw [toList_inspect, toList_inspect] at chars
  obtain ⟨rfl, afterSource⟩ := Text.quoteChars_append_inj (List.append_cancel_left chars)
  have fromLine := (List.cons.inj (List.cons.inj afterSource).2).2
  obtain ⟨sameLine, afterLine⟩ :=
    append_cons_inj_of_first (comma_not_mem_repr _) (comma_not_mem_repr _) fromLine
  have sameColumn := List.append_cancel_right (List.cons.inj afterLine).2
  obtain rfl : line = line' := eq_of_toList_repr sameLine
  obtain rfl : column = column' := eq_of_toList_repr sameColumn
  rfl

end Location

namespace Kind

theorem name_injective : Function.Injective name := by
  intro kind kind' same
  have found := ofName?_name kind
  rw [same, ofName?_name] at found
  exact (Option.some.inj found).symm

theorem comma_not_mem_name (kind : Kind) : ',' ∉ kind.name.toList := by
  cases kind <;> decide

end Kind

namespace Token

theorem toList_inspect (t : Token) :
    t.inspect.toList =
      "Token(".toList ++ (t.kind.name.toList ++ ',' :: ' ' :: (Text.quoteChars t.lexeme ++
        ',' :: ' ' :: (Text.quoteChars t.source ++ ',' :: ' ' :: 'L' ::
          (t.position.line.repr.toList ++ ':' :: (t.position.column.repr.toList ++ [')']))))) := by
  unfold Token.inspect
  simp [Int.toString_eq_repr]

theorem inspect_injective : Function.Injective Token.inspect := by
  rintro ⟨kind, lexeme, source, line, column⟩ ⟨kind', lexeme', source', line', column'⟩ same
  have chars := congrArg String.toList same
  rw [toList_inspect, toList_inspect] at chars
  obtain ⟨sameKind, afterKind⟩ := append_cons_inj_of_first (Kind.comma_not_mem_name _)
    (Kind.comma_not_mem_name _) (List.append_cancel_left chars)
  obtain ⟨sameLexeme, afterLexeme⟩ := Text.quoteChars_append_inj (List.cons.inj afterKind).2
  have fromSource := (List.cons.inj (List.cons.inj afterLexeme).2).2
  obtain ⟨rfl, afterSource⟩ := Text.quoteChars_append_inj fromSource
  have fromLine := (List.cons.inj (List.cons.inj (List.cons.inj afterSource).2).2).2
  obtain ⟨sameLine, afterLine⟩ :=
    append_cons_inj_of_first (colon_not_mem_repr _) (colon_not_mem_repr _) fromLine
  have sameColumn := List.append_cancel_right afterLine
  obtain rfl : kind = kind' := Kind.name_injective (String.toList_inj.mp sameKind)
  obtain rfl : lexeme = lexeme' := CodePoints.ofString_injective sameLexeme
  obtain rfl : line = line' := eq_of_toList_repr sameLine
  obtain rfl : column = column' := eq_of_toList_repr sameColumn
  rfl

end Token

/-- A token can be told from its form for debugging, a location from each of its forms, and
a character from its description, which it always has. -/
theorem renderings_tell_apart :
    Function.Injective Token.inspect ∧ Function.Injective Location.render ∧
    Function.Injective Location.inspect ∧
    (∀ c, ∃ description, Text.describe (String.singleton c) = .ok description) ∧
    ∀ c d description, Text.describe (String.singleton c) = .ok description →
      Text.describe (String.singleton d) = .ok description → c = d := by
  refine ⟨Token.inspect_injective, Location.render_injective, Location.inspect_injective, ?_, ?_⟩
  · intro c
    exact ⟨_, Text.describe_singleton c⟩
  · intro c d description described described'
    rw [Text.describe_singleton] at described described'
    apply Text.describeChar_injective
    rw [Except.ok.inj described, Except.ok.inj described']

end LexicalPass
