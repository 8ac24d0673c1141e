import LexicalPass.Text.CodePoints

/-!
Paths in normal form.  Empty components and single dots say nothing and are
dropped; double dots are kept, since what they mean depends on the files.
-/

set_option autoImplicit false

namespace LexicalPass

/-- Where a path starts.  Two slashes in front, and no more, are a start of
their own. -/
inductive Path.Anchor where
  | working
  | root
  | doubleRoot
deriving DecidableEq, Repr

structure Path where
  anchor : Path.Anchor
  parts : List CodePoints
deriving DecidableEq, Repr

namespace Path

def Anchor.ofSlashes : Nat → Anchor
  | 0 => working
  | 2 => doubleRoot
  | _ => root

def Anchor.render : Anchor → String
  | working => ""
  | root => "/"
  | doubleRoot => "//"

def IsDropped (part : CodePoints) : Prop := part = [] ∨ part = "."

instance (part : CodePoints) : Decidable (IsDropped part) := inferInstanceAs (Decidable (_ ∨ _))

def slash : CodePoint := .char '/'

def ofCodePoints (s : CodePoints) : Path where
  anchor := .ofSlashes (s.takeWhile (· = slash)).length
  parts := (s.splitOn slash).filter (¬ IsDropped ·)

def ofString (s : String) : Path := ofCodePoints s

/-- The working directory itself is written as a dot. -/
def render (p : Path) : CodePoints :=
  let text := p.anchor.render ++ [slash].intercalate p.parts
  if text = [] then "." else text

/-- Paths of this many bytes and more are too long to stand for anything. -/
def sizeLimit : Nat := 4096

/-- The greatest number of bytes in a component. -/
def partLimit : Nat := 255

/-- The last component. -/
def name (p : Path) : CodePoints := p.parts.getLast?.getD []

def dot : CodePoint := .char '.'

/-- What follows the last dot of a name, and the whole name if it has none. -/
def afterLastDot (s : CodePoints) : CodePoints := (s.reverse.takeWhile (· ≠ dot)).reverse

/-- The ending of a name from its last dot on.  A dot in first or last place
does not start an ending. -/
def suffixOf (name : CodePoints) : CodePoints :=
  let ending := afterLastDot name
  if ending ≠ [] ∧ ending.length + 1 < name.length then dot :: ending else []

def suffix (p : Path) : CodePoints := suffixOf p.name

/-- A path that the system can be asked about: it can be written in bytes, and no null
would end it before its time. -/
def IsNameable (p : Path) : Prop := ∀ c ∈ p.render, c.IsEncodable ∧ c ≠ .char '\x00'

instance (p : Path) : Decidable p.IsNameable := inferInstanceAs (Decidable (∀ _ ∈ _, _ ∧ _))

theorem isNameable_iff {p : Path} :
    p.IsNameable ↔ (∀ c ∈ p.render, c.IsEncodable) ∧ .char '\x00' ∉ p.render := by
  constructor
  · intro nameable
    refine ⟨fun c inside => (nameable c inside).1, ?_⟩
    intro hasNull
    exact (nameable _ hasNull).2 rfl
  · rintro ⟨encodable, noNull⟩ c inside
    refine ⟨encodable c inside, ?_⟩
    rintro rfl
    exact noNull inside

end Path

end LexicalPass
