import LexicalPass.Text.Hexadecimal

/-!
Texts of code points.  A string has characters only; the name of a file can also
have surrogates, which belong to no character.  Some of them stand for the bytes of
a name that is not UTF-8, and the others stand for nothing.
-/

set_option autoImplicit false

namespace LexicalPass

/-- A character or a surrogate.  The surrogates are counted from U+D800. -/
inductive CodePoint where
  | char (c : Char)
  | surrogate (index : Fin 0x800)
deriving DecidableEq, Repr

abbrev CodePoints := List CodePoint

namespace CodePoint

def number : CodePoint → Nat
  | char c => c.toNat
  | surrogate index => 0xD800 + index.val

/-- The spelling of a code point by its number, in as few hexadecimal digits as the three
forms allow. -/
def spelling (c : CodePoint) : List Char :=
  if c.number < 0x100 then '\\' :: 'x' :: Text.hexDigits 2 c.number
  else if c.number < 0x10000 then '\\' :: 'u' :: Text.hexDigits 4 c.number
  else '\\' :: 'U' :: Text.hexDigits 8 c.number

/-- A surrogate cannot be written as such. -/
def written : CodePoint → List Char
  | char c => [c]
  | c@(surrogate _) => c.spelling

def IsSurrogate : CodePoint → Prop
  | char _ => False
  | surrogate _ => True

instance : DecidablePred IsSurrogate := fun c =>
  match c with
  | char _ => inferInstanceAs (Decidable False)
  | surrogate _ => inferInstanceAs (Decidable True)

/-- Of the surrogates, those from U+DC80 to U+DCFF stand for a byte each. -/
def IsEncodable : CodePoint → Prop
  | char _ => True
  | surrogate index => 0x480 ≤ index.val ∧ index.val < 0x500

instance : DecidablePred IsEncodable := fun c =>
  match c with
  | char _ => inferInstanceAs (Decidable True)
  | surrogate _ => inferInstanceAs (Decidable (_ ∧ _))

/-- The number of bytes that a code point stands for. -/
def byteSize : CodePoint → Nat
  | char c => c.utf8Size
  | surrogate _ => 1

end CodePoint

namespace CodePoints

@[coe] def ofString (s : String) : CodePoints := s.toList.map .char

instance : Coe String CodePoints := ⟨ofString⟩

@[simp] theorem ofString_empty : ofString "" = [] := rfl

@[simp] theorem ofString_append (s t : String) : ofString (s ++ t) = ofString s ++ ofString t := by
  simp [ofString]

@[simp] theorem char_mem_ofString {c : Char} {s : String} :
    .char c ∈ ofString s ↔ c ∈ s.toList := by
  simp [ofString]

theorem ofString_injective : Function.Injective ofString := by
  intro s t same
  apply String.toList_inj.mp
  exact (List.map_inj_right fun _ _ => CodePoint.char.inj).mp same

/-- The text with its surrogates spelled out. -/
def written (s : CodePoints) : String := String.ofList (s.flatMap CodePoint.written)

@[simp] theorem written_ofString (s : String) : (ofString s).written = s := by
  simp [written, ofString, List.flatMap_map, CodePoint.written]

@[simp] theorem written_append (s t : CodePoints) : written (s ++ t) = s.written ++ t.written := by
  simp [written]

def byteSize : CodePoints → Nat
  | [] => 0
  | c :: s => c.byteSize + byteSize s

end CodePoints

/-- Why a text cannot be written in bytes: its first surrogate that stands for no byte,
where that one stands, and the length of the run of surrogates from there on. -/
structure EncodeError where
  first : CodePoint
  start : Nat
  length : Nat
deriving DecidableEq, Repr

def EncodeError.message (e : EncodeError) : String :=
  let span :=
    if e.length = 1 then
      "character '" ++ String.ofList e.first.spelling ++ "' in position " ++ toString e.start
    else "characters in position " ++ toString e.start ++ "-" ++ toString (e.start + e.length - 1)
  "'utf-8' codec can't encode " ++ span ++ ": surrogates not allowed"

/-- What is wrong with a text that starts at a place. -/
def encodeErrorFrom? (start : Nat) : CodePoints → Option EncodeError
  | [] => none
  | c :: s =>
      if c.IsEncodable then encodeErrorFrom? (start + 1) s
      else some ⟨c, start, 1 + (s.takeWhile fun d => decide d.IsSurrogate).length⟩

def encodeError? (s : CodePoints) : Option EncodeError := encodeErrorFrom? 0 s

theorem encodeErrorFrom?_eq_none_iff (start : Nat) (s : CodePoints) :
    encodeErrorFrom? start s = none ↔ ∀ c ∈ s, c.IsEncodable := by
  induction s generalizing start with
  | nil => simp [encodeErrorFrom?]
  | cons c s inductionHypothesis =>
      by_cases encodable : c.IsEncodable
      · simp [encodeErrorFrom?, encodable, inductionHypothesis]
      · simp [encodeErrorFrom?, encodable]

/-- The error is about the first surrogate that stands for no byte, and covers those that
follow it. -/
theorem of_encodeErrorFrom? {start : Nat} {s : CodePoints} {e : EncodeError}
    (found : encodeErrorFrom? start s = some e) :
    ∃ front back, s = front ++ e.first :: back ∧ (∀ c ∈ front, c.IsEncodable) ∧
      ¬ e.first.IsEncodable ∧ e.start = start + front.length ∧
      e.length = 1 + (back.takeWhile fun c => decide c.IsSurrogate).length := by
  induction s generalizing start with
  | nil => cases found
  | cons c s inductionHypothesis =>
      rw [encodeErrorFrom?] at found
      split at found
      · rename_i encodable
        obtain ⟨front, back, rfl, before, here, place, length⟩ := inductionHypothesis found
        refine ⟨c :: front, back, rfl, ?_, here, ?_, length⟩
        · exact List.forall_mem_cons.mpr ⟨encodable, before⟩
        · rw [place, List.length_cons]
          omega
      · rename_i unencodable
        cases found
        exact ⟨[], s, rfl, by simp, unencodable, rfl, rfl⟩

theorem encodeError?_eq_none_iff (s : CodePoints) :
    encodeError? s = none ↔ ∀ c ∈ s, c.IsEncodable :=
  encodeErrorFrom?_eq_none_iff 0 s

end LexicalPass
