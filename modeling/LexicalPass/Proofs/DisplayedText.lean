import LexicalPass.Proofs.DiagnosticLines
import LexicalPass.Proofs.UnambiguousText
import LexicalPass.Text.Displayed

/-!
What a message looks like when it is shown.  Emoji codes do not reach over blanks, so
that each line of a message is shown by itself; and a line is shown as it is where all
of it is printable and no emoji is named in it between colons.
-/

set_option autoImplicit false

namespace LexicalPass.Text

/-- Somewhere in the text an emoji is named between colons. -/
def SpellsEmoji (s : List Char) : Prop :=
  ∃ name, (':' :: name ++ [':']) <:+: s ∧ (∀ c ∈ name, isNameChar c = true) ∧
    (emojiOf? name).isSome = true

theorem SpellsEmoji.of_infix {s t : List Char} (spells : SpellsEmoji s) (part : s <:+: t) :
    SpellsEmoji t := by
  obtain ⟨name, inside, named, known⟩ := spells
  exact ⟨name, inside.trans part, named, known⟩

section Codes

variable {s t rest : List Char}

theorem isNameChar_of_isSpace {c : Char} (space : IsSpace c) : isNameChar c = false := by
  simp [isNameChar, space]

@[simp] theorem replaceEmojiCodes_nil : replaceEmojiCodes [] = [] := by
  rw [replaceEmojiCodes]

theorem replaceEmojiCodes_cons_of_ne {c : Char} (notColon : c ≠ ':') (s : List Char) :
    replaceEmojiCodes (c :: s) = c :: replaceEmojiCodes s := by
  rw [replaceEmojiCodes, if_neg notColon]

theorem replaceEmojiCodes_of_partner (partner : s.dropWhile isNameChar = ':' :: rest) :
    replaceEmojiCodes (':' :: s) =
      showCode (s.takeWhile isNameChar) ++ replaceEmojiCodes rest := by
  rw [replaceEmojiCodes, if_pos rfl]
  split
  · rename_i rest' partner'
    cases partner.symm.trans partner'
    rfl
  · rename_i alone
    exact absurd partner (alone rest)

theorem replaceEmojiCodes_of_alone (alone : ∀ rest, s.dropWhile isNameChar ≠ ':' :: rest) :
    replaceEmojiCodes (':' :: s) =
      ':' :: s.takeWhile isNameChar ++ replaceEmojiCodes (s.dropWhile isNameChar) := by
  rw [replaceEmojiCodes, if_pos rfl]
  split
  · rename_i rest partner
    exact absurd partner (alone rest)
  · rfl

/-- Nothing is replaced before the first colon. -/
theorem replaceEmojiCodes_append_of_not_mem {front : List Char} (free : ':' ∉ front)
    (s : List Char) : replaceEmojiCodes (front ++ s) = front ++ replaceEmojiCodes s := by
  induction front with
  | nil => rfl
  | cons c front inductionHypothesis =>
      rw [List.mem_cons, not_or] at free
      rw [List.cons_append, replaceEmojiCodes_cons_of_ne (Ne.symm free.1),
        inductionHypothesis free.2, List.cons_append]

theorem replaceEmojiCodes_of_not_mem (free : ':' ∉ s) : replaceEmojiCodes s = s := by
  have whole := replaceEmojiCodes_append_of_not_mem free []
  rwa [replaceEmojiCodes_nil, List.append_nil] at whole

theorem takeWhile_append_end {c : Char} (ends : isNameChar c = false) (s t : List Char) :
    (s ++ c :: t).takeWhile isNameChar = s.takeWhile isNameChar := by
  induction s with
  | nil => simp [ends]
  | cons d s inductionHypothesis =>
      by_cases inName : isNameChar d = true
      · simp [inName, inductionHypothesis]
      · simp [inName]

theorem dropWhile_append_end {c : Char} (ends : isNameChar c = false) (s t : List Char) :
    (s ++ c :: t).dropWhile isNameChar = s.dropWhile isNameChar ++ c :: t := by
  induction s with
  | nil => simp [ends]
  | cons d s inductionHypothesis =>
      by_cases inName : isNameChar d = true
      · simp [inName, inductionHypothesis]
      · simp [inName]

/-- No code reaches over a blank. -/
theorem replaceEmojiCodes_append_space {c : Char} (space : IsSpace c) (s t : List Char) :
    replaceEmojiCodes (s ++ c :: t) = replaceEmojiCodes s ++ c :: replaceEmojiCodes t := by
  have ends := isNameChar_of_isSpace space
  have notColon : c ≠ ':' := by
    rintro rfl
    exact absurd space (by decide)
  induction s using replaceEmojiCodes.induct with
  | case1 => rw [List.nil_append, replaceEmojiCodes_cons_of_ne notColon, replaceEmojiCodes_nil,
      List.nil_append]
  | case2 s rest partner inductionHypothesis =>
      have partner' : (s ++ c :: t).dropWhile isNameChar = ':' :: (rest ++ c :: t) := by
        rw [dropWhile_append_end ends, partner, List.cons_append]
      rw [List.cons_append, replaceEmojiCodes_of_partner partner',
        replaceEmojiCodes_of_partner partner, takeWhile_append_end ends, inductionHypothesis,
        List.append_assoc]
  | case3 s alone inductionHypothesis =>
      have alone' : ∀ rest, (s ++ c :: t).dropWhile isNameChar ≠ ':' :: rest := by
        intro rest
        rw [dropWhile_append_end ends]
        cases dropped : s.dropWhile isNameChar with
        | nil => simpa using fun isColon _ => notColon isColon
        | cons d rest' =>
            intro same
            rw [List.cons_append, List.cons.injEq] at same
            exact alone rest' (by rw [dropped, same.1])
      rw [List.cons_append, replaceEmojiCodes_of_alone alone', replaceEmojiCodes_of_alone alone,
        takeWhile_append_end ends, dropWhile_append_end ends, inductionHypothesis]
      simp only [List.cons_append, List.append_assoc]
  | case4 d s notColon' inductionHypothesis =>
      rw [List.cons_append, replaceEmojiCodes_cons_of_ne notColon',
        replaceEmojiCodes_cons_of_ne notColon', inductionHypothesis, List.cons_append]

/-- Where no emoji is named nothing is replaced. -/
theorem replaceEmojiCodes_of_not_spellsEmoji (plain : ¬ SpellsEmoji s) :
    replaceEmojiCodes s = s := by
  induction s using replaceEmojiCodes.induct with
  | case1 => exact replaceEmojiCodes_nil
  | case2 s rest partner inductionHypothesis =>
      have whole : s.takeWhile isNameChar ++ ':' :: rest = s := by
        rw [← partner, List.takeWhile_append_dropWhile]
      have unknown : emojiOf? (s.takeWhile isNameChar) = none := by
        apply Option.not_isSome_iff_eq_none.mp
        intro known
        refine plain ⟨_, ⟨[], rest, ?_⟩, fun c inside => List.mem_takeWhile_imp inside, known⟩
        simpa using whole
      have later : rest <:+ ':' :: s := ⟨':' :: s.takeWhile isNameChar ++ [':'], by simpa using whole⟩
      have plainRest : ¬ SpellsEmoji rest := fun spells => plain (spells.of_infix later.isInfix)
      rw [replaceEmojiCodes_of_partner partner, inductionHypothesis plainRest, showCode, unknown]
      simpa using whole
  | case3 s alone inductionHypothesis =>
      have later : s.dropWhile isNameChar <:+ ':' :: s :=
        (List.dropWhile_suffix isNameChar).trans (List.suffix_cons ':' s)
      have plainRest : ¬ SpellsEmoji (s.dropWhile isNameChar) :=
        fun spells => plain (spells.of_infix later.isInfix)
      rw [replaceEmojiCodes_of_alone alone, inductionHypothesis plainRest, List.cons_append,
        List.takeWhile_append_dropWhile]
  | case4 c s notColon inductionHypothesis =>
      have plainRest : ¬ SpellsEmoji s :=
        fun spells => plain (spells.of_infix (List.suffix_cons c s).isInfix)
      rw [replaceEmojiCodes_cons_of_ne notColon, inductionHypothesis plainRest]

end Codes

section Controls

variable {s t : List Char}

theorem dropCarriageCodes_append_newline (s t : List Char) :
    dropCarriageCodes (s ++ '\n' :: t) = dropCarriageCodes s ++ '\n' :: dropCarriageCodes t := by
  have kept : movesCarriage '\n' = false := by decide
  simp [dropCarriageCodes, kept]

theorem not_movesCarriage_of_isPrintable {c : Char} (shows : isPrintable c = true) :
    movesCarriage c = false := by
  rw [movesCarriage, decide_eq_false_iff_not]
  intro moves
  have hidden : ∀ n ∈ [7, 8, 11, 12, 13], CharRange.covers unprintable n = true := by
    decide +kernel
  rw [isPrintable, hidden c.toNat moves] at shows
  cases shows

theorem dropCarriageCodes_of_isPrintable (shows : ∀ c ∈ s, isPrintable c = true) :
    dropCarriageCodes s = s := by
  apply List.filter_eq_self.mpr
  intro c inside
  rw [not_movesCarriage_of_isPrintable (shows c inside)]
  rfl

theorem expandLine_of_not_mem (free : '\t' ∉ s) : expandLine s = s := by
  rw [expandLine, List.splitOn_eq_singleton free, joinAtStops]

theorem intercalate_append {separator : List Char} {lines lines' : List (List Char)}
    (nonempty : lines ≠ []) (nonempty' : lines' ≠ []) :
    separator.intercalate (lines ++ lines') =
      separator.intercalate lines ++ separator ++ separator.intercalate lines' := by
  induction lines with
  | nil => exact absurd rfl nonempty
  | cons line lines inductionHypothesis =>
      by_cases last : lines = []
      · rw [last, List.singleton_append, List.intercalate_cons_of_ne_nil nonempty',
          List.intercalate_singleton]
      · rw [List.cons_append, List.intercalate_cons_of_ne_nil (by simp [last]),
          inductionHypothesis last, List.intercalate_cons_of_ne_nil last]
        simp only [List.append_assoc]

theorem expandTabs_append_newline (s t : List Char) :
    expandTabs (s ++ '\n' :: t) = expandTabs s ++ '\n' :: expandTabs t := by
  have lines : (s ++ '\n' :: t).splitOn '\n' = s.splitOn '\n' ++ t.splitOn '\n' :=
    List.splitOnP_append_cons s t (by decide)
  have nonempty (u : List Char) : (u.splitOn '\n').map expandLine ≠ [] := by
    rw [ne_eq, List.map_eq_nil_iff]
    exact List.splitOnP_ne_nil _ u
  rw [expandTabs, lines, List.map_append, intercalate_append (nonempty s) (nonempty t),
    List.append_assoc, List.singleton_append]
  rfl

theorem not_mem_of_isPrintable {c : Char} (hidden : isPrintable c = false)
    (shows : ∀ c ∈ s, isPrintable c = true) : c ∉ s := by
  intro inside
  rw [shows c inside] at hidden
  cases hidden

theorem expandTabs_of_isPrintable (shows : ∀ c ∈ s, isPrintable c = true) : expandTabs s = s := by
  have oneLine : '\n' ∉ s := not_mem_of_isPrintable isPrintable_newline shows
  have noTab : '\t' ∉ s := not_mem_of_isPrintable (by decide) shows
  rw [expandTabs, List.splitOn_eq_singleton oneLine, List.map_singleton,
    expandLine_of_not_mem noTab, List.intercalate_singleton]

end Controls

section Lines

/-- How a message is shown, without the line feed that ends it. -/
def shown (s : String) : String := String.ofList (displayMessage s.toList)

/-- Each line of a message is shown by itself. -/
theorem shown_append_newline (s t : String) :
    shown (s ++ "\n" ++ t) = shown s ++ "\n" ++ shown t := by
  have newline : IsSpace '\n' := by decide
  apply String.toList_inj.mp
  simp [shown, displayMessage, replaceEmojiCodes_append_space newline,
    dropCarriageCodes_append_newline, expandTabs_append_newline]

@[simp] theorem shown_empty : shown "" = "" := by
  apply String.toList_inj.mp
  simp [shown, displayMessage, dropCarriageCodes, expandTabs, expandLine, joinAtStops]

theorem shown_join (lines : List String) :
    shown (String.join (lines.map (· ++ "\n"))) = String.join (lines.map (shown · ++ "\n")) := by
  induction lines with
  | nil => exact shown_empty
  | cons line lines inductionHypothesis =>
      rw [List.map_cons, String.join_cons, shown_append_newline, inductionHypothesis,
        List.map_cons, String.join_cons]

theorem shown_of_codes {s : String} {t : List Char} (replaced : replaceEmojiCodes s.toList = t)
    (shows : ∀ c ∈ t, isPrintable c = true) : shown s = String.ofList t := by
  rw [shown, displayMessage, replaced, dropCarriageCodes_of_isPrintable shows,
    expandTabs_of_isPrintable shows]

/-- A printable line in which no emoji is named is shown as it is. -/
theorem shown_of_isOneLine {s : String} (line : IsOneLine s) (plain : ¬ SpellsEmoji s.toList) :
    shown s = s := by
  have shows := (isOneLine_ofString s).mp line
  rw [shown_of_codes (replaceEmojiCodes_of_not_spellsEmoji plain) shows, String.ofList_toList]

end Lines

section Numbers

/-- The emoji that a number names between colons. -/
def emojiOfNumber? (n : Int) : Option Char :=
  if n = 100 then some '💯' else if n = 1234 then some '🔢' else none

variable {c : Char} {n : Int}

theorem isOneLine_of_emojiOfNumber? {emoji : Char} (isEmoji : emojiOfNumber? n = some emoji) :
    IsOneLine (String.singleton emoji) := by
  unfold emojiOfNumber? at isEmoji
  split_ifs at isEmoji
  · cases isEmoji
    decide +kernel
  · cases isEmoji
    decide +kernel

theorem isDigit_of_mem_repr_of_nonneg (natural : 0 ≤ n) (inside : c ∈ n.repr.toList) :
    c.isDigit = true := by
  rw [toList_repr_of_nonneg natural] at inside
  exact isDigit_of_mem_toDigits inside

/-- Digits may stand in names and have no lower case. -/
theorem nameChar_of_isDigit (digit : c.isDigit = true) :
    isNameChar c = true ∧ lowerNameChar c = c := by
  have each : ∀ d < 10, isNameChar (Char.ofNat (48 + d)) = true ∧
      lowerNameChar (Char.ofNat (48 + d)) = Char.ofNat (48 + d) := by
    decide
  obtain ⟨notBelow, notAbove⟩ := Char.isDigit_iff_toNat.mp digit
  have least : '0'.toNat = 48 := rfl
  have greatest : '9'.toNat = 57 := rfl
  have isDigit : Char.ofNat (48 + (c.toNat - 48)) = c := by
    rw [Nat.add_sub_cancel' (by omega), Char.ofNat_toNat]
  rw [← isDigit]
  exact each (c.toNat - 48) (by omega)

theorem splitForm_of_not_mem {name : List Char} (noDash : '-' ∉ name) :
    splitForm name = (name, []) := by
  have absent {form : List Char} (dashed : '-' ∈ form) : ¬ form <:+ name :=
    fun ends => noDash (ends.subset dashed)
  rw [splitForm, if_neg (absent (by decide)), if_neg (absent (by decide))]

theorem lookup_digitEmoji (n : Int) :
    digitEmoji.lookup n.repr.toList = (emojiOfNumber? n).map ([·]) := by
  have same (k : Int) : (n.repr.toList == k.repr.toList) = decide (n = k) := by
    rw [beq_eq_decide, decide_eq_decide]
    exact ⟨eq_of_toList_repr, fun isNumber => by rw [isNumber]⟩
  have hundred : ['1', '0', '0'] = (100 : Int).repr.toList := by decide
  have thousand : ['1', '2', '3', '4'] = (1234 : Int).repr.toList := by decide
  rw [digitEmoji, List.lookup_cons, List.lookup_cons, hundred, thousand, same, same, emojiOfNumber?]
  by_cases isHundred : n = 100
  · simp [isHundred]
  · by_cases isThousand : n = 1234
    · simp [isThousand]
    · simp [isHundred, isThousand]

theorem emojiOf?_repr (natural : 0 ≤ n) :
    emojiOf? n.repr.toList = (emojiOfNumber? n).map ([·]) := by
  have digits : ∀ c ∈ n.repr.toList, c.isDigit = true :=
    fun c inside => isDigit_of_mem_repr_of_nonneg natural inside
  have noDash : '-' ∉ n.repr.toList := fun inside => absurd (digits '-' inside) (by decide)
  have lower : n.repr.toList.map lowerNameChar = n.repr.toList := by
    rw [List.map_congr_left fun c inside => (nameChar_of_isDigit (digits c inside)).2,
      List.map_id']
  rw [emojiOf?, splitForm_of_not_mem noDash]
  simp only [lower, emojiNamed?, List.all_eq_true.mpr digits, if_true, lookup_digitEmoji,
    List.append_nil, Option.map_id']

/-- A number between the only two colons of a text is shown as the emoji it names. -/
theorem replaceEmojiCodes_number {front back : List Char} (freeFront : ':' ∉ front)
    (natural : 0 ≤ n) (freeBack : ':' ∉ back) :
    replaceEmojiCodes (front ++ ':' :: n.repr.toList ++ ':' :: back) =
      front ++ (match emojiOfNumber? n with
        | some emoji => [emoji]
        | none => ':' :: n.repr.toList ++ [':']) ++ back := by
  have named : ∀ c ∈ n.repr.toList, isNameChar c = true :=
    fun c inside => (nameChar_of_isDigit (isDigit_of_mem_repr_of_nonneg natural inside)).1
  have ends : ∀ c ∈ (':' :: back).head?, ¬ isNameChar c = true := by
    rintro _ ⟨rfl⟩
    decide
  have partner := Segment.dropWhile_run named ends
  rw [List.append_assoc, replaceEmojiCodes_append_of_not_mem freeFront, List.cons_append,
    replaceEmojiCodes_of_partner partner, Segment.takeWhile_run named ends,
    replaceEmojiCodes_of_not_mem freeBack, showCode, emojiOf?_repr natural, List.append_assoc]
  cases emojiOfNumber? n <;> rfl

end Numbers

end LexicalPass.Text
