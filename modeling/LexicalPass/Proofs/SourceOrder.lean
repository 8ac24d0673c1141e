import LexicalPass.Proofs.Segmentation

/-!
Places along a text.  Each segment stands behind the one before it, so what a
pass emits and what it reports are both in the order of the source.
-/

set_option autoImplicit false

namespace LexicalPass

open Segment

/-- An earlier line, or the same line and an earlier column. -/
def Position.Precedes (p q : Position) : Prop :=
  p.line < q.line ∨ p.line = q.line ∧ p.column < q.column

instance (p q : Position) : Decidable (p.Precedes q) := inferInstanceAs (Decidable (_ ∨ _))

namespace Position

theorem Precedes.trans {p q r : Position} (pq : p.Precedes q) (qr : q.Precedes r) :
    p.Precedes r := by
  unfold Precedes at *
  omega

theorem Precedes.asymm {p q : Position} (pq : p.Precedes q) : ¬ q.Precedes p := by
  unfold Precedes at *
  omega

theorem precedes_after (p : Position) (c : Char) : p.Precedes (p.after c) := by
  by_cases newline : c = '\n'
  · left
    rw [newline, after_newline]
    exact Int.lt_succ p.line
  · right
    rw [after_of_ne newline]
    exact ⟨rfl, Int.lt_succ p.column⟩

theorem precedes_afterAll (p : Position) {s : List Char} (nonempty : s ≠ []) :
    p.Precedes (p.afterAll s) := by
  induction s generalizing p with
  | nil => exact absurd rfl nonempty
  | cons c s inductionHypothesis =>
      have step := p.precedes_after c
      cases s with
      | nil => exact step
      | cons d s => exact step.trans (inductionHypothesis (p.after c) (by simp))

/-- A longer text reaches further. -/
theorem behind_precedes (s : List Char) {t : List Char} (nonempty : t ≠ []) :
    (behind s).Precedes (behind (s ++ t)) := by
  rw [behind_append]
  exact precedes_afterAll _ nonempty

/-- Blanks stay on their line. -/
theorem behind_append_blanks (s : List Char) {gap : List Char} (blank : ∀ c ∈ gap, IsBlank c) :
    behind (s ++ gap) = ⟨(behind s).line, (behind s).column + gap.length⟩ := by
  induction gap generalizing s with
  | nil => simp
  | cons c gap inductionHypothesis =>
      rw [List.forall_mem_cons] at blank
      have notNewline : c ≠ '\n' := by
        rintro rfl
        have isBlank := blank.1
        revert isBlank
        decide
      rw [List.append_cons, inductionHypothesis _ blank.2, behind_concat, after_of_ne notNewline]
      simp only [List.length_cons, mk.injEq, true_and]
      omega

end Position

theorem Segment.exists_append_of_mem_place {before : List Char} {gs : List Segment} {p : Placed}
    (placed : p ∈ place before gs) : ∃ s, p.before = before ++ s := by
  induction gs generalizing before with
  | nil => simp [place] at placed
  | cons g gs inductionHypothesis =>
      rcases List.mem_cons.mp placed with rfl | later
      · exact ⟨[], by simp⟩
      · obtain ⟨s, before⟩ := inductionHypothesis later
        exact ⟨g.text ++ s, by simp [before]⟩

theorem Segment.pairwise_place (before : List Char) (gs : List Segment) :
    (place before gs).Pairwise fun p q => p.position.Precedes q.position := by
  induction gs generalizing before with
  | nil => exact .nil
  | cons g gs inductionHypothesis =>
      refine .cons ?_ (inductionHypothesis _)
      intro p later
      obtain ⟨s, further⟩ := exists_append_of_mem_place later
      rw [Placed.position, Placed.position, further, List.append_assoc]
      apply Position.behind_precedes
      simp [g.text_ne_nil]

namespace Segment.Placed

theorem position_of_token? {config : Config} {name : CodePoints} {p : Placed} {token : Token}
    (found : p.token? config name = some token) : token.position = p.position := by
  obtain ⟨kind, _, rfl⟩ := Option.map_eq_some_iff.mp found
  rfl

theorem location_of_warning? {name : CodePoints} {p : Placed} {warning : Warning}
    (found : p.warning? name = some warning) : warning.location = p.location name := by
  rcases warning?_cases found with ⟨_, _, _, _, _, rfl⟩ | ⟨_, _, _, rfl⟩
  · rfl
  · rfl

/-- What is told of segments at their places is told in their order. -/
theorem pairwise_told {α : Type} {tell : Placed → Option α} {position : α → Position}
    {ps : List Placed} (ordered : ps.Pairwise fun p q => p.position.Precedes q.position)
    (told : ∀ {p x}, tell p = some x → position x = p.position) :
    (ps.filterMap tell).Pairwise fun x y => (position x).Precedes (position y) := by
  apply List.pairwise_filterMap.mpr
  refine ordered.imp ?_
  intro p q pq x foundX y foundY
  rwa [told foundX, told foundY]

theorem pairwise_warnings (name : CodePoints) (source : String) :
    (warnings name (segmentsOf source)).Pairwise fun v w =>
      v.location.position.Precedes w.location.position := by
  apply pairwise_told (pairwise_place [] (all source.toList))
  intro p warning found
  exact congrArg Location.position (location_of_warning? found)

end Segment.Placed

end LexicalPass
