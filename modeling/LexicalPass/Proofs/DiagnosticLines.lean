import LexicalPass.Proofs.QuoteBalance
import LexicalPass.Proofs.Turns

/-!
Rendered diagnostics keep their lines, whatever the source holds.  All that comes
from the source is quoted, described or made of digits and points, so that nothing
in it starts a line of its own or fails to show.
-/

set_option autoImplicit false

namespace LexicalPass

/-- No surrogate shows. -/
def CodePoint.isPrintable : CodePoint → Bool
  | char c => Text.isPrintable c
  | surrogate _ => false

namespace Text

/-- A text that shows as it is, and therefore stays on one line. -/
def IsOneLine (s : CodePoints) : Prop := ∀ c ∈ s, c.isPrintable = true

instance (s : CodePoints) : Decidable (IsOneLine s) :=
  decidable_of_iff (s.all CodePoint.isPrintable = true) List.all_eq_true

/-- A text of so many lines, each ended by a line feed, in which all else shows. -/
structure HasLines (lines : Nat) (s : CodePoints) : Prop where
  lineFeeds : s.count (.char '\n') = lines
  endsLine : s.getLast? = some (.char '\n')
  shows : ∀ c ∈ s, c ≠ .char '\n' → c.isPrintable = true

theorem covers_of_ascii : ∀ n < 0x7F, 0x20 ≤ n → CharRange.covers unprintable n = false := by
  decide +kernel

theorem isPrintable_of_isNumeric {c : Char} (numeric : IsNumeric c) : isPrintable c = true := by
  rcases numeric with digit | rfl
  · obtain ⟨notBelow, notAbove⟩ := Char.isDigit_iff_toNat.mp digit
    have least : '0'.toNat = 0x30 := rfl
    have greatest : '9'.toNat = 0x39 := rfl
    rw [isPrintable, covers_of_ascii c.toNat (by omega) (by omega)]
    rfl
  · decide

section OneLine

@[simp] theorem isOneLine_append (s t : CodePoints) :
    IsOneLine (s ++ t) ↔ IsOneLine s ∧ IsOneLine t := by
  simp [IsOneLine, or_imp, forall_and]

theorem isOneLine_ofString (s : String) :
    IsOneLine s ↔ ∀ c ∈ s.toList, isPrintable c = true := by
  simp [IsOneLine, CodePoints.ofString, CodePoint.isPrintable]

theorem isOneLine_repr (n : Nat) : IsOneLine n.repr := by
  apply (isOneLine_ofString _).mpr
  intro c inside
  rw [Nat.toList_repr] at inside
  have digit := Nat.isDigit_of_mem_toDigits (by decide) (by decide) inside
  exact isPrintable_of_isNumeric (.inl digit)

theorem isOneLine_toString (n : Int) : IsOneLine (toString n) := by
  rw [Int.toString_eq_repr, Int.repr_eq_if]
  split
  · exact isOneLine_repr _
  · rw [CodePoints.ofString_append, isOneLine_append]
    exact ⟨by decide, isOneLine_repr _⟩

theorem isPrintable_hexDigit : ∀ n < 16,
    isPrintable (hexDigit n) = true ∧ isPrintable (hexDigit n).toUpper = true := by
  decide

theorem exists_hexDigit {width n : Nat} {c : Char} (inside : c ∈ hexDigits width n) :
    ∃ m < 16, c = hexDigit m := by
  induction width generalizing n with
  | zero => simp [hexDigits] at inside
  | succ width inductionHypothesis =>
      rcases List.mem_append.mp inside with upper | last
      · exact inductionHypothesis upper
      · exact ⟨n % 16, Nat.mod_lt n (by decide), List.mem_singleton.mp last⟩

theorem isPrintable_of_mem_hexDigits {width n : Nat} {c : Char}
    (inside : c ∈ hexDigits width n) : isPrintable c = true := by
  obtain ⟨m, small, rfl⟩ := exists_hexDigit inside
  exact (isPrintable_hexDigit m small).1

theorem isOneLine_codePoint (c : Char) : IsOneLine (codePoint c) := by
  rw [codePoint, CodePoints.ofString_append, isOneLine_append]
  refine ⟨by decide, (isOneLine_ofString _).mpr ?_⟩
  intro digit inside
  rw [String.toList_ofList] at inside
  obtain ⟨lower, isDigit, rfl⟩ := List.mem_map.mp inside
  obtain ⟨m, small, rfl⟩ := exists_hexDigit isDigit
  exact (isPrintable_hexDigit m small).2

/-- How a message names a character always shows. -/
theorem isOneLine_describeChar (c : Char) : IsOneLine (describeChar c) := by
  unfold describeChar
  split
  · rename_i shows
    apply (isOneLine_ofString _).mpr
    intro d inside
    rw [between, String.toList_ofList] at inside
    simp only [List.cons_append, List.nil_append, List.mem_cons, List.not_mem_nil, or_false]
      at inside
    rcases inside with rfl | rfl | rfl
    · decide
    · exact shows.1
    · decide
  · exact isOneLine_codePoint c

theorem isPrintable_of_mem_spelling {c : CodePoint} {d : Char} (inside : d ∈ c.spelling) :
    isPrintable d = true := by
  have escaped (mark : Char) (isMark : isPrintable mark = true) (width : Nat)
      (inside : d ∈ '\\' :: mark :: hexDigits width c.number) : isPrintable d = true := by
    rcases List.mem_cons.mp inside with rfl | inside
    · decide
    · rcases List.mem_cons.mp inside with rfl | inside
      · exact isMark
      · exact isPrintable_of_mem_hexDigits inside
  unfold CodePoint.spelling at inside
  split at inside
  · exact escaped 'x' (by decide) 2 inside
  · split at inside
    · exact escaped 'u' (by decide) 4 inside
    · exact escaped 'U' (by decide) 8 inside

theorem isPrintable_delimiter (s : CodePoints) : isPrintable (delimiter s) = true := by
  unfold delimiter
  split <;> decide

theorem isPrintable_of_mem_escapeChar {delimiter c d : Char}
    (shows : isPrintable delimiter = true) (inside : d ∈ escapeChar delimiter c) :
    isPrintable d = true := by
  unfold escapeChar at inside
  split_ifs at inside with isMark _ _ _ isShown
  · rcases List.mem_cons.mp inside with rfl | inside
    · decide
    · obtain rfl := List.mem_singleton.mp inside
      rcases isMark with rfl | rfl
      · exact shows
      · decide
  · exact List.all_eq_true.mp (by decide) d inside
  · exact List.all_eq_true.mp (by decide) d inside
  · exact List.all_eq_true.mp (by decide) d inside
  · obtain rfl := List.mem_singleton.mp inside
    exact isShown
  · exact isPrintable_of_mem_spelling inside

theorem isPrintable_of_mem_escape {delimiter d : Char} {c : CodePoint}
    (shows : isPrintable delimiter = true) (inside : d ∈ escape delimiter c) :
    isPrintable d = true := by
  cases c with
  | char c => exact isPrintable_of_mem_escapeChar shows inside
  | surrogate index => exact isPrintable_of_mem_spelling inside

/-- A quoted text always shows. -/
theorem isOneLine_quote (s : CodePoints) : IsOneLine (quote s) := by
  apply (isOneLine_ofString _).mpr
  intro d inside
  have shows := isPrintable_delimiter s
  rw [toList_quote, quoteChars, List.cons_append, List.mem_cons, List.mem_append,
    List.mem_singleton] at inside
  rcases inside with rfl | escaped | rfl
  · exact shows
  · obtain ⟨c, _, inside⟩ := List.mem_flatMap.mp escaped
    exact isPrintable_of_mem_escape shows inside
  · exact shows

theorem newline_not_mem_of_isOneLine {s : CodePoints} (line : IsOneLine s) :
    .char '\n' ∉ s := by
  intro inside
  have shows : isPrintable '\n' = true := line (.char '\n') inside
  rw [isPrintable_newline] at shows
  cases shows

end OneLine

section Lines

theorem hasLines_line {s : CodePoints} (line : IsOneLine s) : HasLines 1 (s ++ "\n") where
  lineFeeds := by
    rw [List.count_append, List.count_eq_zero_of_not_mem (newline_not_mem_of_isOneLine line)]
    rfl
  endsLine := by
    rw [List.getLast?_append]
    rfl
  shows := by
    intro c inside notFeed
    rcases List.mem_append.mp inside with within | isFeed
    · exact line c within
    · exact absurd (List.mem_singleton.mp isFeed) notFeed

theorem HasLines.append {m n : Nat} {s t : CodePoints} (first : HasLines m s)
    (second : HasLines n t) : HasLines (m + n) (s ++ t) where
  lineFeeds := by rw [List.count_append, first.lineFeeds, second.lineFeeds]
  endsLine := by
    rw [List.getLast?_append, second.endsLine]
    rfl
  shows := by
    intro c inside
    rcases List.mem_append.mp inside with inFirst | inSecond
    · exact first.shows c inFirst
    · exact second.shows c inSecond

end Lines

end Text

open Text

theorem Location.isOneLine_render {location : Location} (named : IsOneLine location.source) :
    IsOneLine location.render := by
  simp only [Location.render, isOneLine_append]
  exact ⟨⟨⟨⟨named, by decide⟩, isOneLine_toString _⟩, by decide⟩, isOneLine_toString _⟩

namespace Diagnostic

theorem hasLines_helpLine {help : String} (some : help ≠ "") (line : IsOneLine help) :
    HasLines 1 (helpLine (.some help)) := by
  rw [helpLine, if_neg some, CodePoints.ofString_append, CodePoints.ofString_append]
  apply hasLines_line
  exact (isOneLine_append _ _).mpr ⟨by decide, line⟩

theorem hasLines_previewLine (preview : String) : HasLines 1 (previewLine (some preview)) := by
  rw [previewLine, CodePoints.ofString_append, CodePoints.ofString_append]
  apply hasLines_line
  exact (isOneLine_append _ _).mpr ⟨by decide, isOneLine_quote preview⟩

/-- A diagnostic has a line for its message, for its place, for its preview if it has
one, and for its help. -/
theorem hasLines_render (d : Diagnostic) {help : String}
    (severe : IsOneLine (upperCase d.severity)) (coded : IsOneLine (codeMark d.code))
    (said : IsOneLine d.message) (named : IsOneLine d.location.source)
    (helped : d.help = some help) (someHelp : help ≠ "") (lineOfHelp : IsOneLine help) :
    HasLines (if d.preview.isSome then 4 else 3) d.render := by
  have heading :
      HasLines 1 (upperCase d.severity ++ codeMark d.code ++ ": " ++ d.message ++ "\n") := by
    apply hasLines_line
    simp only [isOneLine_append]
    exact ⟨⟨⟨severe, coded⟩, by decide⟩, said⟩
  have place : HasLines 1 ("  --> " ++ d.location.render ++ "\n") := by
    apply hasLines_line
    exact (isOneLine_append _ _).mpr ⟨by decide, Location.isOneLine_render named⟩
  have opening := heading.append place
  have ending := hasLines_helpLine someHelp lineOfHelp
  rw [render, helped]
  simp only [← List.append_assoc] at opening
  cases d.preview with
  | none =>
      rw [previewLine, CodePoints.ofString_empty, List.append_nil]
      exact opening.append ending
  | some preview => exact (opening.append (hasLines_previewLine preview)).append ending

end Diagnostic

theorem Warning.hasLines_render (w : Warning) {help : String}
    (coded : IsOneLine (Diagnostic.codeMark w.code)) (said : IsOneLine w.message)
    (named : IsOneLine w.location.source) (helped : w.help = some help) (someHelp : help ≠ "")
    (lineOfHelp : IsOneLine help) : HasLines 3 w.render := by
  have severe : IsOneLine (upperCase "warning") := by decide
  exact w.diagnostic.hasLines_render severe coded said named helped someHelp lineOfHelp

theorem Warning.hasLines_malformedNumber {lexeme : String} {location : Location}
    (numeric : ∀ c ∈ lexeme.toList, IsNumeric c) (named : IsOneLine location.source)
    (flaw : Numeral.Flaw) : HasLines 3 (malformedNumber lexeme location flaw.reason).render := by
  have line : IsOneLine lexeme :=
    (isOneLine_ofString lexeme).mpr fun c inside => isPrintable_of_isNumeric (numeric c inside)
  have said : IsOneLine (malformedNumber lexeme location flaw.reason).message := by
    simp only [malformedNumber, CodePoints.ofString_append, isOneLine_append]
    exact ⟨⟨⟨by decide, by decide⟩, line⟩, by decide⟩
  have coded : IsOneLine (Diagnostic.codeMark (some Problem.malformedNumber.code)) := by decide
  have someHelp : flaw.reason ≠ "" := by cases flaw <;> decide
  have lineOfHelp : IsOneLine flaw.reason := by cases flaw <;> decide +kernel
  exact hasLines_render _ coded said named rfl someHelp lineOfHelp

theorem Warning.hasLines_ofDescription {text description : String} {location : Location}
    (described : IsOneLine description) (named : IsOneLine location.source) :
    HasLines 3 (ofDescription text description location).render := by
  have said : IsOneLine (ofDescription text description location).message := by
    simp only [ofDescription, CodePoints.ofString_append, isOneLine_append]
    exact ⟨⟨by decide, by decide⟩, described⟩
  have coded : IsOneLine (Diagnostic.codeMark (some Problem.unrecognizedCharacter.code)) := by
    decide
  exact hasLines_render _ coded said named rfl (by decide) (by decide +kernel)

theorem FatalError.hasLines_unterminatedString (body : String) {location : Location}
    (previewLength : Int) (named : IsOneLine location.source) :
    HasLines 4 (unterminatedString body location previewLength).render := by
  have severe : IsOneLine (upperCase "error") := by decide
  have coded : IsOneLine (Diagnostic.codeMark (some Problem.unterminatedString.code)) := by decide
  have said : IsOneLine Problem.unterminatedString.title := by decide
  exact (unterminatedString body location previewLength).diagnostic.hasLines_render severe coded
    said named rfl (by decide) (by decide +kernel)

/-- Whatever a unit may report, the report keeps to its lines. -/
theorem Pass.hasLines_of_reportable {location : Location} {w : Warning}
    (named : IsOneLine location.source) (reportable : Reportable location w) :
    HasLines 3 w.render := by
  cases reportable with
  | malformedNumber numeric => exact Warning.hasLines_malformedNumber numeric named _
  | unrecognized => exact Warning.hasLines_ofDescription (isOneLine_describeChar _) named

theorem Pass.hasLines_of_reaches {config : Config} {name : CodePoints} {source : String}
    {p : Progress} (named : IsOneLine name) (reaches : Reaches config name (start name source) p) :
    ∀ w ∈ p.sequence.warnings, HasLines 3 w.render := by
  refine forall_warnings_of_reaches ?_ reaches ?_
  · intro position w reportable
    exact hasLines_of_reportable named reportable
  · intro w inside
    cases Array.not_mem_empty w inside

/-- Under a name that shows, each warning of a pass, whether the pass comes to its end or
not, is rendered in three lines and the report of an open literal in four, and there is
nothing in them that does not show. -/
theorem tokenize_renders_lines (config : Config) (name : CodePoints) (source : String)
    (named : IsOneLine name) :
    (∀ p, Pass.Reaches config name (Pass.start name source) p →
      ∀ w ∈ p.sequence.warnings, HasLines 3 w.render) ∧
    (∀ sequence, tokenize config name source = .ok sequence →
      ∀ w ∈ sequence.warnings, HasLines 3 w.render) ∧
    ∀ fault, tokenize config name source = .error fault →
      ∃ error, fault = .fatal error ∧ error.kind = .unterminatedLiteral ∧
        HasLines 4 error.render := by
  refine ⟨fun p => Pass.hasLines_of_reaches named, ?_, ?_⟩
  · intro sequence done
    unfold tokenize at done
    split at done
    · rename_i completed run
      cases done
      obtain ⟨q, reaches, closed⟩ := Pass.exists_reaches_of_run run
      rw [closed]
      exact Pass.hasLines_of_reaches named reaches
    · cases done
  · intro fault failed
    rw [tokenize_eq] at failed
    rcases Nat.even_or_odd (source.toList.count '\x22') with balanced | unbalanced
    · rw [failure?_of_even balanced] at failed
      cases failed
    · obtain ⟨before, body, -, -, failure⟩ := failure?_of_odd unbalanced config name
      rw [failure] at failed
      cases failed
      exact ⟨_, rfl, rfl, FatalError.hasLines_unterminatedString _ _ named⟩

/-- A line separator and a bell outside literals, the bell also where the pass is about to
fail, and a preview that holds both, a line feed and an apostrophe. -/
theorem tokenize_renders_controls :
    IsOneLine "f" ∧
    (∃ sequence, tokenize {} "f" "1.\u2028\x07" = .ok sequence ∧
      (∀ w ∈ sequence.warnings, HasLines 3 w.render) ∧
      sequence.warnings.toList.map Warning.message =
        ["Malformed numeric literal: '1.'", "Unrecognized character: U+2028",
         "Unrecognized character: U+0007"]) ∧
    (∃ p, Pass.Reaches {} "f" (Pass.start "f" "\x07\"\u2028\x07\n'") p ∧
      (∀ w ∈ p.sequence.warnings, HasLines 3 w.render) ∧
      p.sequence.warnings.toList.map Warning.message = ["Unrecognized character: U+0007"]) ∧
    ∃ error, tokenize {} "f" "\x07\"\u2028\x07\n'" = .error (.fatal error) ∧
      HasLines 4 error.render ∧
      Diagnostic.previewLine error.preview = "  near: \"\\u2028\\x07\\n'\"\n" := by
  have named : IsOneLine "f" := by decide
  have done := tokenize_eq {} "f" "1.\u2028\x07"
  rw [failure?_of_even (by decide)] at done
  have failed : tokenize {} "f" "\x07\"\u2028\x07\n'" =
      .error (.fatal (.unterminatedString "\u2028\x07\n'" ⟨"f", ⟨1, 2⟩⟩ 15)) := by
    decide +kernel
  have turn : Pass.Turn {} "f" (Pass.start "f" "\x07\"\u2028\x07\n'") _ := .scanned rfl rfl
  obtain ⟨error, ⟨rfl⟩, -, lines⟩ := (tokenize_renders_lines {} "f" _ named).2.2 _ failed
  refine ⟨named, ⟨_, done, (tokenize_renders_lines {} "f" _ named).2.1 _ done, ?_⟩,
    ⟨_, .single turn, (tokenize_renders_lines {} "f" _ named).1 _ (.single turn), ?_⟩, _, failed,
    lines, ?_⟩
  · decide +kernel
  · decide +kernel
  · decide +kernel

end LexicalPass
