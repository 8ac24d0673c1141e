import LexicalPass.Text.EmojiName

/-!
Emoji codes.  A name between two colons, without blanks, is shown as the emoji
of that name if there is one.  A name may end in `-emoji` or `-text`, which asks
for the coloured or the plain form.  Case does not count in names.
-/

set_option autoImplicit false

namespace LexicalPass.Text

/-- Characters that no emoji name holds. -/
def IsSpace (c : Char) : Prop :=
  (9 ≤ c.toNat ∧ c.toNat ≤ 13) ∨ (28 ≤ c.toNat ∧ c.toNat ≤ 32) ∨
    (0x2000 ≤ c.toNat ∧ c.toNat ≤ 0x200A) ∨
    c.toNat ∈ [0x85, 0xA0, 0x1680, 0x2028, 0x2029, 0x202F, 0x205F, 0x3000]

instance (c : Char) : Decidable (IsSpace c) := inferInstanceAs (Decidable (_ ∨ _))

/-- A name without the form it asks for, and the character that selects the form. -/
def splitForm (name : List Char) : List Char × List Char :=
  if "-emoji".toList <:+ name then (name.take (name.length - 6), ['\uFE0F'])
  else if "-text".toList <:+ name then (name.take (name.length - 5), ['\uFE0E'])
  else (name, [])

/-- The lower case of the letters that names hold.  All other letters are kept,
since no name holds their lower case either. -/
def lowerNameChar (c : Char) : Char :=
  if c = '\u212a' then 'k'
  else if c = '\u212b' then 'å'
  else if 0xC0 ≤ c.toNat ∧ c.toNat ≤ 0xDE ∧ c ≠ '×' then Char.ofNat (c.toNat + 32)
  else c.toLower

def emojiOf? (name : List Char) : Option (List Char) :=
  let (base, form) := splitForm name
  (emojiNamed? (base.map lowerNameChar)).map (· ++ form)

/-- What a code between colons is shown as. -/
def showCode (name : List Char) : List Char :=
  (emojiOf? name).getD (':' :: name ++ [':'])

/-- Characters of which names are made. -/
def isNameChar (c : Char) : Bool := ¬ (IsSpace c ∨ c = ':')

theorem length_dropName_le (s : List Char) : (s.dropWhile isNameChar).length ≤ s.length :=
  (List.dropWhile_suffix isNameChar).length_le

/-- Replace the codes in a text.  After a colon with no partner the search goes
on; a pair of colons is passed over whole, whether or not it names an emoji. -/
def replaceEmojiCodes (s : List Char) : List Char :=
  match s with
  | [] => []
  | c :: s =>
      if c = ':' then
        let name := s.takeWhile isNameChar
        match _dropped : s.dropWhile isNameChar with
        | ':' :: rest => showCode name ++ replaceEmojiCodes rest
        | rest => c :: name ++ replaceEmojiCodes rest
      else c :: replaceEmojiCodes s
termination_by s.length
decreasing_by
  · have shorter := length_dropName_le s
    rw [_dropped] at shorter
    simp only [List.length_cons] at shorter ⊢
    omega
  · have shorter := length_dropName_le s
    rw [_dropped] at shorter
    simp only [List.length_cons]
    omega
  · simp

end LexicalPass.Text
