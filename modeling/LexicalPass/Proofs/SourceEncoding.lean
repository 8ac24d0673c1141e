import LexicalPass.Proofs.Utf8
import LexicalPass.SourceFile

/-!
Source files as they are written.  The lines of a text may end in a line feed, a
carriage return or both, and a byte order mark may stand in front; however the
text was written, lexing the file is lexing the text.
-/

set_option autoImplicit false

namespace LexicalPass

inductive LineEnding where
  | lineFeed
  | pair
  | carriageReturn
deriving DecidableEq, Repr

def LineEnding.text : LineEnding → List Char
  | lineFeed => ['\n']
  | pair => ['\r', '\n']
  | carriageReturn => ['\r']

namespace Text

/-- A text with its lines ended in one way throughout. -/
def writeLines (ending : LineEnding) (s : List Char) : List Char :=
  s.flatMap fun c => if c = '\n' then ending.text else [c]

theorem writeLines_newline (ending : LineEnding) (s : List Char) :
    writeLines ending ('\n' :: s) = ending.text ++ writeLines ending s := rfl

theorem writeLines_cons_of_ne (ending : LineEnding) {c : Char} (inLine : c ≠ '\n')
    (s : List Char) : writeLines ending (c :: s) = c :: writeLines ending s := by
  simp [writeLines, inLine]

theorem foldLineEndings_cons_of_ne {c : Char} (noReturn : c ≠ '\r') (s : List Char) :
    foldLineEndings (c :: s) = c :: foldLineEndings s := by
  rw [foldLineEndings]
  · rintro _ rfl
    exact absurd rfl noReturn
  · exact noReturn

/-- Lines that end in carriage returns start with no line feed, which would join
with the return before it. -/
theorem head?_writeLines_carriageReturn (s : List Char) :
    (writeLines .carriageReturn s).head? ≠ some '\n' := by
  cases s with
  | nil => simp [writeLines]
  | cons c s =>
      by_cases newline : c = '\n'
      · rw [newline, writeLines_newline]
        simp [LineEnding.text]
      · rw [writeLines_cons_of_ne _ newline]
        simpa using newline

theorem foldLineEndings_return {s : List Char} (alone : s.head? ≠ some '\n') :
    foldLineEndings ('\r' :: s) = '\n' :: foldLineEndings s := by
  cases s with
  | nil => rfl
  | cons c s =>
      rw [foldLineEndings]
      intro rest same
      cases same
      simp at alone

/-- However the lines of a text are ended, folding gives the text back. -/
theorem foldLineEndings_writeLines (ending : LineEnding) {s : List Char} (noReturn : '\r' ∉ s) :
    foldLineEndings (writeLines ending s) = s := by
  induction s with
  | nil => rfl
  | cons c s inductionHypothesis =>
      simp only [List.mem_cons, not_or] at noReturn
      have rest := inductionHypothesis noReturn.2
      by_cases newline : c = '\n'
      · rw [newline, writeLines_newline]
        cases ending with
        | lineFeed => exact congrArg _ rest
        | pair => exact congrArg _ rest
        | carriageReturn =>
            rw [LineEnding.text, List.singleton_append,
              foldLineEndings_return (head?_writeLines_carriageReturn s), rest]
      · rw [writeLines_cons_of_ne _ newline, foldLineEndings_cons_of_ne (Ne.symm noReturn.1), rest]

theorem head?_writeLines_ne {ending : LineEnding} {s : List Char}
    (unmarked : s.head? ≠ some '\uFEFF') : (writeLines ending s).head? ≠ some '\uFEFF' := by
  cases s with
  | nil => simp [writeLines]
  | cons c s =>
      by_cases newline : c = '\n'
      · rw [newline, writeLines_newline]
        cases ending <;> simp [LineEnding.text]
      · rw [writeLines_cons_of_ne _ newline]
        exact unmarked

/-- The bytes of the mark, where they are a character, are the character U+FEFF. -/
theorem readScalar_mark (bytes : List UInt8) :
    readScalar 0xEF (0xBB :: 0xBF :: bytes) = .ok (0xFEFF, bytes) := rfl

/-- Bytes that start with the mark, or break off inside it, hold no character in
front but that of the mark. -/
theorem eq_mark_of_readScalar {first : UInt8} {rest remaining : List UInt8} {code : Nat}
    (read : readScalar first rest = .ok (code, remaining))
    (alike : byteOrderMark <+: first :: rest ∨ first :: rest <+: byteOrderMark) :
    code = 0xFEFF := by
  rcases alike with ⟨bytes, whole⟩ | ⟨missing, whole⟩
  · cases whole
    cases (readScalar_mark bytes).symm.trans read
    rfl
  · match rest, whole with
    | [], whole =>
        cases whole
        cases read
    | [second], whole =>
        cases whole
        cases read
    | [second, third], whole =>
        cases whole
        cases (readScalar_mark []).symm.trans read
        rfl

/-- The bytes of a text that starts with no mark are all kept. -/
theorem dropByteOrderMark_encodeUtf8 {s : List Char} (unmarked : s.head? ≠ some '\uFEFF') :
    dropByteOrderMark (encodeUtf8 s) = encodeUtf8 s := by
  cases s with
  | nil => rfl
  | cons c s =>
      obtain ⟨first, rest, split, read⟩ := readScalar_utf8EncodeChar c (encodeUtf8 s)
      rw [encodeUtf8_cons, split]
      have unlike :
          ¬ (byteOrderMark <+: first :: rest ∨ first :: rest <+: byteOrderMark) := by
        intro alike
        have isMark : c = '\uFEFF' := Char.toNat_inj.mp (eq_mark_of_readScalar read alike)
        simp [isMark] at unmarked
      rw [not_or] at unlike
      simp only [dropByteOrderMark, List.isPrefixOf_iff_prefix, unlike.1, unlike.2, if_false]

end Text

namespace SourceFile

/-- The bytes of a file with a text, written with or without a mark. -/
def encode (marked : Bool) (ending : LineEnding) (s : List Char) : List UInt8 :=
  (if marked then Text.byteOrderMark else []) ++ Text.encodeUtf8 (Text.writeLines ending s)

theorem dropByteOrderMark_encode (marked : Bool) (ending : LineEnding) {s : List Char}
    (unmarked : s.head? ≠ some '\uFEFF') :
    Text.dropByteOrderMark (encode marked ending s) =
      Text.encodeUtf8 (Text.writeLines ending s) := by
  cases marked with
  | false => exact Text.dropByteOrderMark_encodeUtf8 (Text.head?_writeLines_ne unmarked)
  | true => rfl

theorem decode_encode (marked : Bool) (ending : LineEnding) {text : String}
    (noReturn : '\r' ∉ text.toList) (unmarked : text.toList.head? ≠ some '\uFEFF') :
    decode (encode marked ending text.toList) = .ok text := by
  unfold decode
  rw [dropByteOrderMark_encode marked ending unmarked, Text.decodeUtf8_encodeUtf8]
  dsimp only
  rw [Text.foldLineEndings_writeLines ending noReturn, String.ofList_toList]

/-- Lexing a file comes to what lexing a text comes to: the same sequence, or a
pass that was aborted by the same fault. -/
inductive SameOutcome : Except FileFault Completed → Except Fault TokenSequence → Prop
  | lexed {completed : Completed} : SameOutcome (.ok completed) (.ok completed.sequence)
  | aborted {pass : Aborted} : SameOutcome (.error (.aborted pass)) (.error pass.fault)

section Lex

variable {lookup : Path → Lookup} {file : SourceFile} {text : String} {marked : Bool}
  {ending : LineEnding}

theorem text_of_encoded (nameable : file.path.IsNameable) (noReturn : '\r' ∉ text.toList)
    (unmarked : text.toList.head? ≠ some '\uFEFF')
    (stands : lookup file.path = .file (encode marked ending text.toList)) :
    file.text lookup = .ok text := by
  rw [text_of_isNameable nameable, stands, read, decode_encode marked ending noReturn unmarked]

theorem lex_of_text (config : Config) (isText : file.text lookup = .ok text) :
    file.lex lookup config = (LexicalPass.lex config file.name text).mapError .aborted := by
  unfold SourceFile.lex
  rw [isText]
  dsimp only
  cases LexicalPass.lex config file.name text <;> rfl

theorem sameOutcome_of_text (config : Config) (isText : file.text lookup = .ok text) :
    SameOutcome (file.lex lookup config) (tokenize config file.name text) := by
  rw [lex_of_text config isText, tokenize]
  cases LexicalPass.lex config file.name text with
  | ok completed => exact .lexed
  | error pass => exact .aborted

end Lex

/-- A file that holds a text in any of its six written forms is lexed like the
text under the file's name, and like each of the other forms.  Only a path that the
system can be asked about names a file. -/
theorem lex_encoded (lookup : Path → Lookup) (config : Config) (file : SourceFile)
    (nameable : file.path.IsNameable) (text : String) (noReturn : '\r' ∉ text.toList)
    (unmarked : text.toList.head? ≠ some '\uFEFF') (marked : Bool) (ending : LineEnding)
    (stands : lookup file.path = .file (encode marked ending text.toList)) :
    SameOutcome (file.lex lookup config) (tokenize config file.name text) ∧
      ∀ lookup' marked' ending', lookup' file.path = .file (encode marked' ending' text.toList) →
        file.lex lookup' config = file.lex lookup config := by
  have isText := text_of_encoded nameable noReturn unmarked stands
  refine ⟨sameOutcome_of_text config isText, ?_⟩
  intro lookup' marked' ending' stands'
  have isText' := text_of_encoded nameable noReturn unmarked stands'
  rw [lex_of_text config isText, lex_of_text config isText']

/-- A marked file of three lines, one of them inside a literal, with characters of
one, two and four bytes. -/
theorem lex_encoded_three_lines :
    let bytes : List UInt8 := [0xEF, 0xBB, 0xBF, 0x22, 0xC3, 0xA9, 0x0D, 0x0A, 0x22, 0x0D, 0x0A,
      0xF0, 0x9F, 0x98, 0x80, 0x78, 0x0D, 0x0A]
    let file : SourceFile := ⟨⟨.working, ["a.solace"]⟩, "a.solace"⟩
    bytes = encode true .pair "\"é\n\"\n😀x\n".toList ∧
      SameOutcome (file.lex (fun _ => .file bytes) {})
        (tokenize {} "a.solace" "\"é\n\"\n😀x\n") := by
  intro bytes file
  have written : bytes = encode true .pair "\"é\n\"\n😀x\n".toList := by decide
  refine ⟨written, ?_⟩
  exact (lex_encoded (fun _ => .file bytes) {} file (by decide) "\"é\n\"\n😀x\n" (by decide)
    (by decide) true .pair (by rw [← written])).1

end SourceFile

end LexicalPass
