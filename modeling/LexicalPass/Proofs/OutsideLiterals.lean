import LexicalPass.Proofs.Segmentation
import Mathlib.Algebra.Ring.Parity

/-!
Characters outside string literals, found by counting quotes.  The definition
looks at offsets in the whole text; reading the text from its start to its end
gives the same, and goes along with the segments.
-/

set_option autoImplicit false

namespace LexicalPass

open Segment

/-- The characters of one sort that stand outside string literals, each with its
offset: the number of quotes before it is even. -/
def outsideLiterals (sort : Char → Bool) (s : List Char) : List (Char × Nat) :=
  s.zipIdx.filter fun (c, i) => sort c && decide (Even ((s.take i).count '\x22'))

/-- The characters of one sort outside string literals in a text that stands
behind the text `before`, each with all that stands before it. -/
def marksFrom (sort : Char → Bool) (before : List Char) : List Char → List (List Char × Char)
  | [] => []
  | c :: s =>
      (if sort c && decide (Even (before.count '\x22')) then [(before, c)] else []) ++
        marksFrom sort (before ++ [c]) s

section Marks

variable {sort : Char → Bool} {before s : List Char}

theorem marksFrom_append (t : List Char) :
    marksFrom sort before (s ++ t) = marksFrom sort before s ++ marksFrom sort (before ++ s) t := by
  induction s generalizing before with
  | nil => simp [marksFrom]
  | cons c s inductionHypothesis => simp [marksFrom, inductionHypothesis]

theorem marksFrom_of_absent (absent : ∀ c ∈ s, sort c = false) : marksFrom sort before s = [] := by
  induction s generalizing before with
  | nil => rfl
  | cons c s inductionHypothesis =>
      rw [List.forall_mem_cons] at absent
      simp [marksFrom, absent.1, inductionHypothesis absent.2]

theorem marksFrom_of_odd (unbalanced : Odd (before.count '\x22')) (absent : '\x22' ∉ s) :
    marksFrom sort before s = [] := by
  induction s generalizing before with
  | nil => rfl
  | cons c s inductionHypothesis =>
      simp only [List.mem_cons, not_or] at absent
      have still : Odd ((before ++ [c]).count '\x22') := by
        simpa [List.count_append, Ne.symm absent.1] using unbalanced
      rw [marksFrom, inductionHypothesis still absent.2]
      simp [Nat.not_even_iff_odd.mpr unbalanced]

/-- Nothing inside a string literal is outside of one. -/
theorem marksFrom_literal (balanced : Even (before.count '\x22')) (absent : '\x22' ∉ s)
    (notQuote : sort '\x22' = false) : marksFrom sort before ('\x22' :: s ++ ['\x22']) = [] := by
  have opened : Odd ((before ++ ['\x22']).count '\x22') := by
    simpa [List.count_append] using balanced.add_one
  rw [List.cons_append, marksFrom, marksFrom_append, marksFrom_of_odd opened absent]
  simp [marksFrom, notQuote]

theorem marksFrom_eq_filter_zipIdx {whole : List Char} (joined : whole = before ++ s) :
    marksFrom sort before s =
      ((s.zipIdx before.length).filter fun (c, i) =>
        sort c && decide (Even ((whole.take i).count '\x22'))).map
        fun (c, i) => (whole.take i, c) := by
  induction s generalizing before with
  | nil => rfl
  | cons c s inductionHypothesis =>
      have further : whole = before ++ [c] ++ s := by rw [joined, List.append_cons]
      have front : whole.take before.length = before := by rw [joined, List.take_left]
      have length : (before ++ [c]).length = before.length + 1 := by simp
      rw [marksFrom, inductionHypothesis further, List.zipIdx_cons, List.filter_cons, length]
      simp only [front]
      split <;> simp [front]

theorem marksFrom_nil_eq (sort : Char → Bool) (s : List Char) :
    marksFrom sort [] s = (outsideLiterals sort s).map fun (c, i) => (s.take i, c) :=
  marksFrom_eq_filter_zipIdx (List.nil_append s).symm

/-- What is told of each segment by its marks is told of a whole text by its own. -/
theorem filterMap_place_of_marks {α : Type} (tell : Placed → Option α)
    (mark : List Char × Char → α)
    (told : ∀ {g : Segment} {before : List Char}, g.WellFormed → g.Closed →
      Even (before.count '\x22') →
      (tell ⟨before, g⟩).toList = (marksFrom sort before g.text).map mark)
    {gs : List Segment} (tiles : Tiles gs s) (closed : ∀ g ∈ gs, g.Closed)
    (balanced : Even (before.count '\x22')) :
    (place before gs).filterMap tell = (marksFrom sort before s).map mark := by
  induction tiles generalizing before with
  | nil => rfl
  | @cons g gs s wellFormed stops tiles inductionHypothesis =>
      rw [List.forall_mem_cons] at closed
      -- The quotes are balanced again behind each closed segment.
      have still : Even ((before ++ g.text).count '\x22') := by
        rw [List.count_append]
        exact balanced.add (count_quote_text wellFormed closed.1)
      have head := told wellFormed closed.1 balanced
      rw [place, marksFrom_append, List.map_append, ← head, ← inductionHypothesis closed.2 still]
      cases found : tell ⟨before, g⟩ with
      | none => rw [List.filterMap_cons_none found, Option.toList_none, List.nil_append]
      | some x => rw [List.filterMap_cons_some found, Option.toList_some, List.singleton_append]

end Marks

end LexicalPass
