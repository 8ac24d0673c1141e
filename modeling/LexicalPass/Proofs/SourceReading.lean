import LexicalPass.Proofs.QuoteBalance
import LexicalPass.Proofs.SourceEncoding
import LexicalPass.Proofs.WellFormedUtf8

/-!
Reading source files, whatever their bytes.  A file holds a text exactly when its
bytes are well-formed or break off inside a mark; all else is reported, with the
bytes that were refused.  Lexing a file fails in no other way, but for a literal
that the text leaves open.
-/

set_option autoImplicit false

namespace LexicalPass

namespace Text

/-- Bytes without the one mark that they may start with. -/
def withoutMark (bytes : List UInt8) : List UInt8 :=
  if byteOrderMark <+: bytes then bytes.drop byteOrderMark.length else bytes

/-- Bytes that break off inside the mark. -/
def IsTornMark (bytes : List UInt8) : Prop := bytes = [0xEF] ∨ bytes = [0xEF, 0xBB]

theorem dropByteOrderMark_of_isTornMark {bytes : List UInt8} (torn : IsTornMark bytes) :
    dropByteOrderMark bytes = [] := by
  rcases torn with rfl | rfl <;> rfl

theorem dropByteOrderMark_of_not_isTornMark {bytes : List UInt8} (whole : ¬ IsTornMark bytes) :
    dropByteOrderMark bytes = withoutMark bytes := by
  unfold dropByteOrderMark withoutMark
  simp only [List.isPrefixOf_iff_prefix]
  split
  · rfl
  · rename_i unmarked
    split
    · rename_i inside
      -- What the mark starts with is nothing, a torn mark or the mark itself.
      match bytes, inside with
      | [], _ => rfl
      | [first], ⟨_, same⟩ =>
          cases same
          exact absurd (.inl rfl) whole
      | [first, second], ⟨_, same⟩ =>
          cases same
          exact absurd (.inr rfl) whole
      | [first, second, third], ⟨_, same⟩ =>
          cases same
          exact absurd List.prefix_rfl unmarked
    · rfl

theorem withoutMark_of_isTornMark {bytes : List UInt8} (torn : IsTornMark bytes) :
    withoutMark bytes = bytes := by
  rcases torn with rfl | rfl <;> decide

theorem readScalar_of_isTornMark {first : UInt8} {rest : List UInt8}
    (torn : IsTornMark (first :: rest)) : ∃ refusal, readScalar first rest = .error refusal := by
  rcases torn with ⟨rfl, rfl⟩ | ⟨rfl, rfl⟩
  · exact ⟨_, rfl⟩
  · exact ⟨_, rfl⟩

/-- A torn mark is no text. -/
theorem not_isWellFormed_of_isTornMark {bytes : List UInt8} (torn : IsTornMark bytes) :
    ¬ IsWellFormed (withoutMark bytes) := by
  rw [withoutMark_of_isTornMark torn]
  rintro ⟨s, rfl⟩
  cases s with
  | nil => simp [IsTornMark] at torn
  | cons c s =>
      obtain ⟨first, rest, split, read⟩ := readScalar_utf8EncodeChar c (encodeUtf8 s)
      rw [encodeUtf8_cons, split] at torn
      obtain ⟨refusal, failed⟩ := readScalar_of_isTornMark torn
      cases failed.symm.trans read

/-- A text in which every pair of a carriage return and a line feed has been made a
line feed, and then every carriage return that is left. -/
def withLineFeeds (s : List Char) : List Char :=
  (foldPairs s).map fun c => if c = '\r' then '\n' else c

theorem foldPairs_cons_of_ne {c : Char} {s : List Char} (noPair : ∀ t, c = '\r' → s ≠ '\n' :: t) :
    foldPairs (c :: s) = c :: foldPairs s := by
  rw [foldPairs]
  intro t isReturn starts
  exact noPair t isReturn starts

theorem foldLineEndings_eq (s : List Char) : foldLineEndings s = withLineFeeds s := by
  unfold withLineFeeds
  fun_induction foldLineEndings s with
  | case1 => rfl
  | case2 s inductionHypothesis =>
      rw [foldPairs, List.map_cons, ← inductionHypothesis]
      rfl
  | case3 s noFeed inductionHypothesis =>
      rw [foldPairs_cons_of_ne (fun t _ starts => noFeed t starts), List.map_cons,
        ← inductionHypothesis]
      rfl
  | case4 c s _ noReturn inductionHypothesis =>
      rw [foldPairs_cons_of_ne (fun t isReturn _ => noReturn isReturn), List.map_cons,
        ← inductionHypothesis, if_neg noReturn]

theorem return_not_mem_withLineFeeds (s : List Char) : '\r' ∉ withLineFeeds s := by
  simp only [withLineFeeds, List.mem_map, not_exists, not_and]
  intro c _ isReturn
  split at isReturn
  · simp at isReturn
  · rename_i noReturn
    exact noReturn isReturn

theorem withLineFeeds_of_not_mem {s : List Char} (noReturn : '\r' ∉ s) : withLineFeeds s = s := by
  rw [← foldLineEndings_eq]
  induction s with
  | nil => rfl
  | cons c s inductionHypothesis =>
      simp only [List.mem_cons, not_or] at noReturn
      rw [foldLineEndings_cons_of_ne (Ne.symm noReturn.1), inductionHypothesis noReturn.2]

end Text

namespace SourceFile

open Text

/-- The text that the bytes of a file stand for. -/
inductive Decodes (bytes : List UInt8) : String → Prop
  | wellFormed {s : List Char} :
      withoutMark bytes = encodeUtf8 s → Decodes bytes (String.ofList (withLineFeeds s))
  | tornMark : IsTornMark bytes → Decodes bytes ""

theorem decode_of_isTornMark {bytes : List UInt8} (torn : IsTornMark bytes) :
    decode bytes = .ok "" := by
  have nothing : decodeUtf8 [] = .ok [] := decodeUtf8_encodeUtf8 []
  rw [decode, dropByteOrderMark_of_isTornMark torn, nothing]
  rfl

theorem decode_of_encoded {bytes : List UInt8} {s : List Char}
    (isText : withoutMark bytes = encodeUtf8 s) :
    decode bytes = .ok (String.ofList (withLineFeeds s)) := by
  have whole : ¬ IsTornMark bytes := fun torn =>
    not_isWellFormed_of_isTornMark torn ⟨s, isText⟩
  unfold decode
  rw [dropByteOrderMark_of_not_isTornMark whole, isText, decodeUtf8_encodeUtf8]
  dsimp only
  rw [foldLineEndings_eq]

/-- The bytes that are refused are named by where they stand behind the mark. -/
theorem refused_of_decode {bytes : List UInt8} {e : Utf8Error} (failed : decode bytes = .error e) :
    ∃ front rest part, withoutMark bytes = front ++ rest ∧
      IsLongestFront IsWellFormed front (withoutMark bytes) ∧ Refused rest part e.reason ∧
      e.message =
        "'utf-8' codec can't decode " ++ byteRange front.length part ++ ": " ++
          e.reason.message := by
  by_cases torn : IsTornMark bytes
  · rw [decode_of_isTornMark torn] at failed
    cases failed
  · unfold decode at failed
    rw [dropByteOrderMark_of_not_isTornMark torn] at failed
    split at failed
    · cases failed
    · rename_i broken
      cases failed
      obtain ⟨s, rest, part, split, noChar, start, refused, length, first⟩ :=
        refused_of_decodeFrom broken
      refine ⟨encodeUtf8 s, rest, part, split, ?_, refused, ?_⟩
      · rw [split]
        exact isLongestFront_encodeUtf8 s noChar
      · rw [message_of_refused refused length first, start, Nat.zero_add]

theorem decode_eq_ok_iff (bytes : List UInt8) (text : String) :
    decode bytes = .ok text ↔ Decodes bytes text := by
  constructor
  · intro decoded
    by_cases torn : IsTornMark bytes
    · cases (decode_of_isTornMark torn).symm.trans decoded
      exact .tornMark torn
    · unfold decode at decoded
      rw [dropByteOrderMark_of_not_isTornMark torn] at decoded
      split at decoded
      · rename_i s isText
        cases decoded
        rw [foldLineEndings_eq]
        exact .wellFormed ((decodeUtf8_eq_ok_iff _ s).mp isText)
      · cases decoded
  · rintro (isText | torn)
    · exact decode_of_encoded isText
    · exact decode_of_isTornMark torn

theorem return_not_mem_of_decodes {bytes : List UInt8} {text : String}
    (decodes : Decodes bytes text) : '\r' ∉ text.toList := by
  cases decodes with
  | wellFormed =>
      rw [String.toList_ofList]
      exact return_not_mem_withLineFeeds _
  | tornMark => simp

theorem exists_decodes_iff (bytes : List UInt8) :
    (∃ text, Decodes bytes text) ↔ IsWellFormed (withoutMark bytes) ∨ IsTornMark bytes := by
  constructor
  · rintro ⟨text, isText | torn⟩
    · exact .inl ⟨_, isText⟩
    · exact .inr torn
  · rintro (⟨s, isText⟩ | torn)
    · exact ⟨_, .wellFormed isText⟩
    · exact ⟨_, .tornMark torn⟩

/-- What stands at a path is a file that holds a text. -/
def Holds (found : Lookup) (text : String) : Prop :=
  ∃ bytes, found = .file bytes ∧ Decodes bytes text

theorem read_eq_ok_iff (path : Path) (found : Lookup) (text : String) :
    read path found = .ok text ↔ Holds found text := by
  cases found with
  | file bytes =>
      have held : Holds (.file bytes) text ↔ decode bytes = .ok text := by
        simp [Holds, decode_eq_ok_iff]
      rw [held, read]
      cases decode bytes <;> simp
  | directory => simp [Holds, read]
  | missing => simp [Holds, read]
  | notDirectory => simp [Holds, read]
  | tooLong => simp [Holds, read]
  | failed reason => simp [Holds, read]

section Text

variable {lookup : Path → Lookup} {file : SourceFile}

theorem text_eq_ok_iff (nameable : file.path.IsNameable) (text : String) :
    file.text lookup = .ok text ↔ Holds (lookup file.path) text := by
  rw [← read_eq_ok_iff file.path, text_of_isNameable nameable]
  cases read file.path (lookup file.path) <;> simp

theorem text_eq_error_iff (nameable : file.path.IsNameable) (fault : FileFault) :
    file.text lookup = .error fault ↔
      ∃ reason, read file.path (lookup file.path) = .error reason ∧
        fault = .unavailable (.sourceUnavailable file.name reason) := by
  rw [text_of_isNameable nameable]
  cases read file.path (lookup file.path) with
  | ok text => simp
  | error reason => simp [eq_comm]

end Text

/-- Reading accepts exactly UTF-8, and bytes that break off inside a mark.  Of what it
accepts it makes the text with its line endings folded; of what it refuses it names
the first bytes that no well-formed text has there. -/
theorem text_of_bytes (lookup : Path → Lookup) (file : SourceFile)
    (nameable : file.path.IsNameable) (bytes : List UInt8)
    (stands : lookup file.path = .file bytes) :
    ((∃ text, file.text lookup = .ok text) ↔
      IsWellFormed (withoutMark bytes) ∨ bytes = [0xEF] ∨ bytes = [0xEF, 0xBB]) ∧
    (∀ text, file.text lookup = .ok text → Decodes bytes text ∧ '\r' ∉ text.toList) ∧
    (∀ s, withoutMark bytes = encodeUtf8 s → '\r' ∉ s →
      file.text lookup = .ok (String.ofList s)) ∧
    ∀ fault, file.text lookup = .error fault →
      ∃ front rest part reason, withoutMark bytes = front ++ rest ∧
        IsLongestFront IsWellFormed front (withoutMark bytes) ∧ Refused rest part reason ∧
        fault = .unavailable {
          kind := .sourceUnavailable
          message := "Cannot read source file '" ++ file.name ++ "'"
          location := ⟨file.name, ⟨1, 1⟩⟩
          code := some "L001"
          help := some ("'utf-8' codec can't decode " ++ byteRange front.length part ++ ": " ++
            reason.message) } := by
  have held (text : String) : file.text lookup = .ok text ↔ Decodes bytes text := by
    rw [text_eq_ok_iff nameable, stands]
    simp [Holds]
  refine ⟨?_, ?_, ?_, ?_⟩
  · simp only [held]
    exact exists_decodes_iff bytes
  · intro text isText
    have decodes := (held text).mp isText
    exact ⟨decodes, return_not_mem_of_decodes decodes⟩
  · intro s isText noReturn
    rw [held, ← withLineFeeds_of_not_mem noReturn]
    exact .wellFormed isText
  · intro fault failed
    obtain ⟨reason, unread, rfl⟩ := (text_eq_error_iff nameable fault).mp failed
    rw [stands, read] at unread
    split at unread
    · cases unread
    · rename_i e broken
      cases unread
      obtain ⟨front, rest, part, split, longest, refused, message⟩ := refused_of_decode broken
      refine ⟨front, rest, part, e.reason, split, longest, refused, ?_⟩
      rw [message]
      rfl

/-- A marked file whose second line starts with two of the three bytes of a character. -/
theorem text_of_bytes_broken_character :
    let bytes : List UInt8 := [0xEF, 0xBB, 0xBF, 0x61, 0x0D, 0x0A, 0xE2, 0x82, 0x41]
    let file : SourceFile := ⟨⟨.working, ["a.solace"]⟩, "a.solace"⟩
    let help := "'utf-8' codec can't decode bytes in position 3-4: invalid continuation byte"
    let fault : FileFault := .unavailable (.sourceUnavailable "a.solace" help)
    file.text (fun _ => .file bytes) = .error fault ∧
      ∃ front rest part reason, withoutMark bytes = front ++ rest ∧
        IsLongestFront IsWellFormed front (withoutMark bytes) ∧ Refused rest part reason ∧
        fault = .unavailable {
          kind := .sourceUnavailable
          message := "Cannot read source file '" ++ file.name ++ "'"
          location := ⟨file.name, ⟨1, 1⟩⟩
          code := some "L001"
          help := some ("'utf-8' codec can't decode " ++ byteRange front.length part ++ ": " ++
            reason.message) } := by
  intro bytes file help fault
  have failed : file.text (fun _ => .file bytes) = .error fault := by decide +kernel
  have result := text_of_bytes (fun _ => .file bytes) file (by decide) bytes rfl
  exact ⟨failed, result.2.2.2 fault failed⟩

/-- How lexing a file ends, by what stands at its path: with a sequence, with the
report that there is no text, or with an open literal. -/
structure EndsBy (file : SourceFile) (found : Lookup) (result : Except FileFault Completed) :
    Prop where
  lexed : (∃ completed, result = .ok completed) ↔
    ∃ text, Holds found text ∧ Even (text.toList.count '\x22')
  unavailable : (∃ error, result = .error (.unavailable error) ∧ error.kind = .sourceUnavailable) ↔
    ∀ text, ¬ Holds found text
  unterminated : (∃ pass error, result = .error (.aborted pass) ∧ pass.fault = .fatal error ∧
      error.kind = .unterminatedLiteral) ↔
    ∃ text, Holds found text ∧ Odd (text.toList.count '\x22')
  isSealed : ∀ completed, result = .ok completed →
    completed.sequence.isClosed = true ∧ completed.sequence.source = file.name

section Lex

variable {lookup : Path → Lookup} (config : Config) {file : SourceFile}

/-- A file holds one text only, so that one has what any text in the file has. -/
theorem of_holds {found : Lookup} {text : String} {P : String → Prop} (held : Holds found text)
    (isSome : ∃ text, Holds found text ∧ P text) : P text := by
  obtain ⟨other, heldOther, holds⟩ := isSome
  have read := (read_eq_ok_iff ⟨.root, []⟩ found text).mpr held
  have readOther := (read_eq_ok_iff ⟨.root, []⟩ found other).mpr heldOther
  cases read.symm.trans readOther
  exact holds

theorem lex_of_unheld (nameable : file.path.IsNameable)
    (unheld : ∀ text, ¬ Holds (lookup file.path) text) :
    ∃ reason,
      file.lex lookup config = .error (.unavailable (.sourceUnavailable file.name reason)) := by
  cases isText : file.text lookup with
  | ok text => exact absurd ((text_eq_ok_iff nameable text).mp isText) (unheld text)
  | error fault =>
      obtain ⟨reason, -, rfl⟩ := (text_eq_error_iff nameable fault).mp isText
      refine ⟨reason, ?_⟩
      rw [SourceFile.lex, isText]

/-- Only reading reports that a file cannot be read. -/
theorem text_of_lex_unavailable {error : FatalError}
    (failed : file.lex lookup config = .error (.unavailable error)) :
    file.text lookup = .error (.unavailable error) := by
  unfold SourceFile.lex at failed
  split at failed
  · rename_i isFault
    cases failed
    exact isFault
  · split at failed <;> cases failed

theorem lex_of_balanced {text : String} (isText : file.text lookup = .ok text)
    (balanced : Even (text.toList.count '\x22')) :
    ∃ completed, file.lex lookup config = .ok completed ∧
      completed.sequence.isClosed = true ∧ completed.sequence.source = file.name := by
  rw [lex_of_text config isText, lex_eq, Pass.conclude, failure?_of_even balanced]
  exact ⟨_, rfl, rfl, rfl⟩

theorem lex_of_unbalanced {text : String} (isText : file.text lookup = .ok text)
    (unbalanced : Odd (text.toList.count '\x22')) :
    ∃ pass error, file.lex lookup config = .error (.aborted pass) ∧ pass.fault = .fatal error ∧
      error.kind = .unterminatedLiteral := by
  obtain ⟨_, _, _, _, failure⟩ := failure?_of_odd unbalanced config file.name
  rw [lex_of_text config isText, lex_eq, Pass.conclude, failure]
  exact ⟨_, _, rfl, rfl, rfl⟩

theorem endsBy_lex (nameable : file.path.IsNameable) :
    EndsBy file (lookup file.path) (file.lex lookup config) := by
  by_cases isHeld : ∃ text, Holds (lookup file.path) text
  · obtain ⟨text, held⟩ := isHeld
    have isText := (text_eq_ok_iff nameable text).mpr held
    have available : ¬ ∀ text, ¬ Holds (lookup file.path) text := fun unheld => unheld text held
    rcases Nat.even_or_odd (text.toList.count '\x22') with balanced | unbalanced
    · obtain ⟨completed, lexed, isClosed, named⟩ := lex_of_balanced config isText balanced
      have notOdd : ¬ ∃ text, Holds (lookup file.path) text ∧ Odd (text.toList.count '\x22') :=
        fun isOdd => Nat.not_odd_iff_even.mpr balanced (of_holds held isOdd)
      rw [lexed]
      exact {
        lexed := iff_of_true ⟨completed, rfl⟩ ⟨text, held, balanced⟩
        unavailable := iff_of_false (by simp) available
        unterminated := iff_of_false (by simp) notOdd
        isSealed := by
          rintro _ ⟨rfl⟩
          exact ⟨isClosed, named⟩ }
    · obtain ⟨pass, error, failed, isFatal, kind⟩ := lex_of_unbalanced config isText unbalanced
      have notEven : ¬ ∃ text, Holds (lookup file.path) text ∧ Even (text.toList.count '\x22') :=
        fun isEven => Nat.not_even_iff_odd.mpr unbalanced (of_holds held isEven)
      rw [failed]
      exact {
        lexed := iff_of_false (by simp) notEven
        unavailable := iff_of_false (by simp) available
        unterminated := iff_of_true ⟨pass, error, rfl, isFatal, kind⟩ ⟨text, held, unbalanced⟩
        isSealed := by simp }
  · push Not at isHeld
    obtain ⟨reason, failed⟩ := lex_of_unheld config nameable isHeld
    have unheld (P : String → Prop) : ¬ ∃ text, Holds (lookup file.path) text ∧ P text := by
      rintro ⟨text, held, -⟩
      exact isHeld text held
    rw [failed]
    exact {
      lexed := iff_of_false (by simp) (unheld _)
      unavailable := iff_of_true ⟨_, rfl, rfl⟩ isHeld
      unterminated := iff_of_false (by simp) (unheld _)
      isSealed := by simp }

end Lex

/-- What is at fault with a path that the system cannot be asked about. -/
inductive FaultOfPath (path : Path) : FileFault → Prop
  /-- The fault names the first surrogate that stands for no byte, and covers the
  surrogates behind it. -/
  | unencodable {front back : CodePoints} {c : CodePoint} :
      path.render = front ++ c :: back → (∀ d ∈ front, d.IsEncodable) → ¬ c.IsEncodable →
      FaultOfPath path (.unencodable
        ⟨c, front.length, 1 + (back.takeWhile fun d => decide d.IsSurrogate).length⟩)
  | null :
      (∀ c ∈ path.render, c.IsEncodable) → .char '\x00' ∈ path.render →
      FaultOfPath path .nullInPath

/-- The fault of a path is found before the file is looked for. -/
theorem exists_faultOfPath (lookup : Path → Lookup) {file : SourceFile}
    (unnameable : ¬ file.path.IsNameable) :
    ∃ fault, file.text lookup = .error fault ∧ FaultOfPath file.path fault := by
  unfold SourceFile.text
  cases encoded : encodeError? file.path.render with
  | some error =>
      obtain ⟨first, start, length⟩ := error
      obtain ⟨front, back, whole, before, here, place, covers⟩ := of_encodeErrorFrom? encoded
      rw [Nat.zero_add] at place
      dsimp only at whole here place covers
      subst place covers
      exact ⟨_, rfl, .unencodable whole before here⟩
  | none =>
      have encodable := (encodeError?_eq_none_iff _).mp encoded
      by_cases hasNull : .char '\x00' ∈ file.path.render
      · exact ⟨_, if_pos hasNull, .null encodable hasNull⟩
      · exact absurd (Path.isNameable_iff.mpr ⟨encodable, hasNull⟩) unnameable

/-- Lexing a file ends in a sealed sequence, in the report that the file cannot be
read, which comes before any scanning, or in the report of an open literal, and
reading it in no other report.  This is so where the system can be asked about the
path; any other path fails by a fault of its own, whatever the files are. -/
theorem lex_fails_only_by_report (lookup : Path → Lookup) (config : Config) (file : SourceFile) :
    (file.path.IsNameable →
      EndsBy file (lookup file.path) (file.lex lookup config) ∧
      (∀ error, file.lex lookup config = .error (.unavailable error) →
        file.text lookup = .error (.unavailable error)) ∧
      ∀ fault, file.text lookup = .error fault →
        ∃ error, fault = .unavailable error ∧ error.kind = .sourceUnavailable) ∧
    (¬ file.path.IsNameable →
      ∃ fault, file.text lookup = .error fault ∧ file.lex lookup config = .error fault ∧
        FaultOfPath file.path fault) := by
  constructor
  · intro nameable
    refine ⟨endsBy_lex config nameable, ?_, ?_⟩
    · intro error failed
      exact text_of_lex_unavailable config failed
    · intro fault failed
      obtain ⟨reason, -, rfl⟩ := (text_eq_error_iff nameable fault).mp failed
      exact ⟨_, rfl, rfl⟩
  · intro unnameable
    obtain ⟨fault, unread, ofPath⟩ := exists_faultOfPath lookup unnameable
    refine ⟨fault, unread, ?_, ofPath⟩
    rw [SourceFile.lex, unread]

/-- Three quotes behind a lone carriage return, of which the last opens a literal, in a
file whose name has a surrogate that stands for a byte; and behind another surrogate. -/
theorem lex_fails_only_by_report_on_open_literal :
    let bytes : List UInt8 := [0x78, 0x0D, 0x22, 0x22, 0x22]
    let file := SourceFile.ofName (.surrogate 0x4FF :: ".solace")
    let other := SourceFile.ofName (.surrogate 0x500 :: ".solace")
    (EndsBy file (.file bytes) (file.lex (fun _ => .file bytes) {}) ∧
      ∃ pass error, file.lex (fun _ => .file bytes) {} = .error (.aborted pass) ∧
        pass.fault = .fatal error ∧ error.kind = .unterminatedLiteral) ∧
    ∃ fault, other.lex (fun _ => .file bytes) {} = .error fault ∧
      FaultOfPath other.path fault := by
  intro bytes file other
  have held : Holds (.file bytes) "x\n\x22\x22\x22" :=
    ⟨bytes, rfl, @Decodes.wellFormed bytes ['x', '\r', '\x22', '\x22', '\x22'] (by decide)⟩
  have ends := ((lex_fails_only_by_report (fun _ => .file bytes) {} file).1 (by decide)).1
  obtain ⟨fault, -, failed, ofPath⟩ :=
    (lex_fails_only_by_report (fun _ => .file bytes) {} other).2 (by decide)
  exact ⟨⟨ends, ends.unterminated.mpr ⟨_, held, by decide⟩⟩, fault, failed, ofPath⟩

/-- A fault that is no report is none of the ends that there should be. -/
theorem not_endsBy_of_fault {file : SourceFile} {found : Lookup} {fault : FileFault}
    (unheld : ∀ text, ¬ Holds found text) (other : ∀ error, fault ≠ .unavailable error) :
    ¬ EndsBy file found (.error fault) := by
  intro ends
  obtain ⟨error, same, -⟩ := ends.unavailable.mpr unheld
  exact other error (Except.error.inj same)

/-- A null character in the path gives a failure that is none of these reports, and so
does a surrogate that stands for no byte. -/
theorem lex_of_unnameable_path :
    let withNull := SourceFile.ofName "a\x00b"
    let withSurrogate := SourceFile.ofName [.surrogate 0]
    let noFile : Path → Lookup := fun _ => .missing
    (withNull.lex noFile {} = .error .nullInPath ∧
      ¬ EndsBy withNull .missing (withNull.lex noFile {})) ∧
    ∃ error, withSurrogate.lex noFile {} = .error (.unencodable error) ∧
      error.message = "'utf-8' codec can't encode character '\\ud800' in position 0: " ++
        "surrogates not allowed" ∧
      ¬ EndsBy withSurrogate .missing (withSurrogate.lex noFile {}) := by
  intro withNull withSurrogate noFile
  have unheld (text : String) : ¬ Holds .missing text := by simp [Holds]
  have nullFails : withNull.lex noFile {} = .error .nullInPath := by decide +kernel
  have surrogateFails :
      withSurrogate.lex noFile {} = .error (.unencodable ⟨.surrogate 0, 0, 1⟩) := by
    decide +kernel
  rw [nullFails, surrogateFails]
  refine ⟨⟨rfl, ?_⟩, _, rfl, by decide +kernel, ?_⟩
  · exact not_endsBy_of_fault unheld (by simp)
  · exact not_endsBy_of_fault unheld (by simp)

end SourceFile

end LexicalPass
