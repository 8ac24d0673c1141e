import LexicalPass.TokenSequence.Selection
import Mathlib.Data.List.FinRange
import Mathlib.Data.List.Sort

/-!
Which tokens an index or a slice selects.  The places that a slice walks over are those
between its bounds at a whole number of steps from where it starts, and no others.
-/

set_option autoImplicit false

namespace LexicalPass

namespace Slice

section Walk

variable {distance step : Int}

theorem lt_stepCount_iff (forward : 0 < step) (k : Nat) :
    k < stepCount distance step ↔ k * step < distance := by
  unfold stepCount
  rw [Int.lt_toNat, Int.lt_iff_add_one_le, Int.le_ediv_iff_mul_le forward, Int.add_mul]
  omega

theorem walked_nonneg (forward : 0 < step) (k : Nat) : 0 ≤ k * step :=
  Int.mul_nonneg (Int.natCast_nonneg k) (Int.le_of_lt forward)

theorem walked_lt (forward : 0 < step) {k l : Nat} (less : k < l) : k * step < l * step :=
  Int.mul_lt_mul_of_pos_right (Int.ofNat_lt.mpr less) forward

/-- What lies at a whole number of steps, before the distance is covered. -/
theorem exists_walked_iff (forward : 0 < step) (offset : Int) :
    (∃ k < stepCount distance step, k * step = offset) ↔
      0 ≤ offset ∧ offset < distance ∧ step ∣ offset := by
  constructor
  · rintro ⟨k, before, rfl⟩
    exact ⟨walked_nonneg forward k, (lt_stepCount_iff forward k).mp before, k, Int.mul_comm _ _⟩
  · rintro ⟨ahead, before, k, rfl⟩
    have walked : 0 ≤ k := Int.nonneg_of_mul_nonneg_right ahead forward
    have same : k.toNat * step = step * k := by
      rw [Int.toNat_of_nonneg walked, Int.mul_comm]
    refine ⟨k.toNat, ?_, same⟩
    rw [lt_stepCount_iff forward, same]
    exact before

end Walk

/-- The place is reached from `low` before `high`, at a whole number of steps. -/
def Ahead (low high step place : Int) : Prop :=
  low ≤ place ∧ place < high ∧ step ∣ place - low

/-- The place is reached from `high` on the way back before `low`, at a whole number of steps. -/
def Behind (low high step place : Int) : Prop :=
  low < place ∧ place ≤ high ∧ step ∣ high - place

instance (low high step : Int) : DecidablePred (Ahead low high step) :=
  fun _ => inferInstanceAs (Decidable (_ ∧ _))

instance (low high step : Int) : DecidablePred (Behind low high step) :=
  fun _ => inferInstanceAs (Decidable (_ ∧ _))

section Places

variable {low high step : Int} {size : Nat}

theorem mem_ascending_iff (fromFront : 0 ≤ low) (forward : 0 < step) (j : Nat) :
    j ∈ ascending low high step ↔ Ahead low high step j := by
  have walks : j ∈ ascending low high step ↔
      ∃ k < stepCount (high - low) step, k * step = j - low := by
    simp only [ascending, List.mem_map, List.mem_range]
    apply exists_congr
    intro k
    have ahead := walked_nonneg forward k
    omega
  rw [walks, exists_walked_iff forward, Ahead]
  omega

theorem mem_descending_iff (beforeFront : -1 ≤ low) (forward : 0 < step) (j : Nat) :
    j ∈ descending low high step ↔ Behind low high step j := by
  have walks : j ∈ descending low high step ↔
      ∃ k < stepCount (high - low) step, k * step = high - j := by
    simp only [descending, List.mem_map, List.mem_range]
    apply exists_congr
    intro k
    rw [lt_stepCount_iff forward]
    omega
  rw [walks, exists_walked_iff forward, Behind]
  omega

/-- Walking forwards is passing over all places and taking every `step`-th from `low` on. -/
theorem ascending_eq (fromFront : 0 ≤ low) (forward : 0 < step) (inside : high ≤ size) :
    ascending low high step =
      (List.range size).filter fun j : Nat => Ahead low high step j := by
  have sorted : (ascending low high step).Pairwise (· < ·) := by
    rw [ascending, List.pairwise_map]
    apply List.pairwise_lt_range.imp
    intro k l less
    have ahead := walked_nonneg forward k
    have further := walked_lt forward less
    omega
  apply sorted.eq_of_mem_iff (List.pairwise_lt_range.filter _)
  intro j
  rw [mem_ascending_iff fromFront forward, List.mem_filter, List.mem_range, decide_eq_true_iff]
  refine (and_iff_right_of_imp ?_).symm
  rintro ⟨-, below, -⟩
  omega

/-- Walking backwards is the same from the other end. -/
theorem descending_eq (beforeFront : -1 ≤ low) (forward : 0 < step) (inside : high < size) :
    descending low high step =
      ((List.range size).filter fun j : Nat => Behind low high step j).reverse := by
  have sorted : (descending low high step).Pairwise (· > ·) := by
    rw [descending, List.pairwise_map]
    apply List.pairwise_lt_range.imp_of_mem
    intro k l _ isStep less
    have before := (lt_stepCount_iff forward l).mp (List.mem_range.mp isStep)
    have further := walked_lt forward less
    omega
  apply sorted.eq_of_mem_iff (List.pairwise_reverse.mpr (List.pairwise_lt_range.filter _))
  intro j
  rw [mem_descending_iff beforeFront forward, List.mem_reverse, List.mem_filter, List.mem_range,
    decide_eq_true_iff]
  refine (and_iff_right_of_imp ?_).symm
  rintro ⟨-, below, -⟩
  omega

end Places

/-- The place that a bound means: `absent` without one, else counted from the end if it is
negative and brought to the nearest of the places from `low` to `high`. -/
def place (size low high absent : Int) : Option Int → Int
  | none => absent
  | some value =>
      let counted := if value < 0 then value + size else value
      if counted < low then low else if high < counted then high else counted

theorem getD_bound_eq_place {size low high : Int} (ordered : low ≤ high) (absent : Int)
    (value : Option Int) :
    (value.map (bound size low high)).getD absent = place size low high absent value := by
  cases value with
  | none => rfl
  | some value =>
      simp only [Option.map_some, Option.getD_some, bound, place]
      split_ifs <;> omega

theorem place_bounds (size : Int) {low high absent : Int} (ordered : low ≤ high)
    (lowest : low ≤ absent) (highest : absent ≤ high) (value : Option Int) :
    low ≤ place size low high absent value ∧ place size low high absent value ≤ high := by
  cases value with
  | none => exact ⟨lowest, highest⟩
  | some value =>
      simp only [place]
      split_ifs <;> omega

end Slice

namespace TokenSequence

/-- The tokens at the places of which something holds, in their order. -/
def tokensWhere (s : TokenSequence) (P : Int → Prop) [DecidablePred P] : List Token :=
  ((List.finRange s.size).filter fun j : Fin s.size => P (j.val : Int)).map
    fun j : Fin s.size => s.tokens[j]

section Where

variable {s : TokenSequence} {P Q : Int → Prop} [DecidablePred P] [DecidablePred Q]

theorem filterMap_filter_range :
    ((List.range s.size).filter fun j : Nat => P j).filterMap (s.tokens[·]?) =
      s.tokensWhere P := by
  rw [← List.map_coe_finRange_eq_range, List.filter_map, List.filterMap_map]
  unfold tokensWhere
  rw [← List.filterMap_eq_map]
  apply List.filterMap_congr
  intro j _
  exact Array.getElem?_eq_getElem j.isLt

theorem tokensWhere_congr (same : ∀ j : Nat, j < s.size → (P j ↔ Q j)) :
    s.tokensWhere P = s.tokensWhere Q := by
  unfold tokensWhere
  congr 1
  apply List.filter_congr
  intro j _
  rw [decide_eq_decide]
  exact same j j.isLt

theorem tokensWhere_of_forall (all : ∀ j : Nat, j < s.size → P j) :
    s.tokensWhere P = s.tokens.toList := by
  have whole : (List.finRange s.size).filter (fun j : Fin s.size => P (j.val : Int)) =
      List.finRange s.size := by
    apply List.filter_eq_self.mpr
    intro j _
    exact decide_eq_true (all j j.isLt)
  unfold tokensWhere
  rw [whole]
  exact s.tokens.toList.map_getElem_finRange

/-- What lies before a place and what lies from there on make up the whole. -/
theorem tokensWhere_append_tokensWhere (cut : Int) :
    s.tokensWhere (· < cut) ++ s.tokensWhere (cut ≤ ·) = s.tokens.toList := by
  have places : (List.range s.size).filter (fun j : Nat => (j : Int) < cut) ++
      (List.range s.size).filter (fun j : Nat => cut ≤ (j : Int)) = List.range s.size := by
    refine List.Pairwise.eq_of_mem_iff (r := (· < ·)) ?_ List.pairwise_lt_range ?_
    · apply List.pairwise_append.mpr
      refine ⟨List.pairwise_lt_range.filter _, List.pairwise_lt_range.filter _, ?_⟩
      intro j before k after
      have below := of_decide_eq_true (List.mem_filter.mp before).2
      have above := of_decide_eq_true (List.mem_filter.mp after).2
      omega
    · intro j
      simp only [List.mem_append, List.mem_filter, decide_eq_true_iff, ← and_or_left]
      exact and_iff_left (lt_or_ge (j : Int) cut)
  rw [← filterMap_filter_range, ← filterMap_filter_range, ← List.filterMap_append, places,
    ← List.filter_true (List.range s.size)]
  exact (filterMap_filter_range (P := fun _ => True)).trans
    (tokensWhere_of_forall fun _ _ => trivial)

end Where

theorem get_of_resolved {s : TokenSequence} {index : Int} {j : Fin s.size}
    (resolved : resolveIndex? s.size index = some j.val) : s.get index = .ok s.tokens[j] := by
  have held : s.tokens[j.val]? = some s.tokens[j] := Array.getElem?_eq_getElem j.isLt
  simp only [get, resolved, Option.bind_some, held]

section Selection

variable (s : TokenSequence)

theorem get_of_place (j : Fin s.size) : s.get j.val = .ok s.tokens[j] := by
  apply get_of_resolved
  simp [resolveIndex?]

theorem get_of_place_from_end (j : Fin s.size) : s.get (j.val - s.size) = .ok s.tokens[j] := by
  have inside := j.isLt
  apply get_of_resolved
  rw [resolveIndex?, if_neg (by omega), if_pos (by omega)]
  congr 1
  omega

theorem get_of_outside {index : Int} (outside : index < -s.size ∨ s.size ≤ index) :
    s.get index = .error (if FitsWord index then .outOfRange else .beyondWord) := by
  have resolved : resolveIndex? s.size index = none := by
    unfold resolveIndex?
    split_ifs
    · omega
    · rfl
    · omega
    · rfl
  simp [get, resolved]

theorem slice_forwards (start stop step : Option Int) (forward : 0 < step.getD 1) :
    s.slice ⟨start, stop, step⟩ = .ok (s.tokensWhere
      (Slice.Ahead (Slice.place s.size 0 s.size 0 start)
        (Slice.place s.size 0 s.size s.size stop) (step.getD 1))) := by
  have ordered : (0 : Int) ≤ s.size := Int.natCast_nonneg _
  have low := Slice.place_bounds s.size ordered le_rfl ordered start
  have high := Slice.place_bounds s.size ordered ordered le_rfl stop
  simp only [slice, Slice.indices?, if_neg (Int.ne_of_gt forward), if_pos forward,
    Slice.getD_bound_eq_place ordered]
  rw [Slice.ascending_eq low.1 forward high.2, filterMap_filter_range]

theorem slice_backwards (start stop : Option Int) {step : Int} (backward : step < 0) :
    s.slice ⟨start, stop, some step⟩ = .ok (s.tokensWhere
      (Slice.Behind (Slice.place s.size (-1) (s.size - 1) (-1) stop)
        (Slice.place s.size (-1) (s.size - 1) (s.size - 1) start) (-step))).reverse := by
  have ordered : (-1 : Int) ≤ s.size - 1 := by omega
  have high := Slice.place_bounds s.size ordered ordered le_rfl start
  have low := Slice.place_bounds s.size ordered le_rfl ordered stop
  simp only [slice, Slice.indices?, Option.getD_some, if_neg (Int.ne_of_lt backward),
    if_neg (Int.lt_asymm backward), Slice.getD_bound_eq_place ordered]
  rw [Slice.descending_eq low.1 (Int.neg_pos_of_neg backward) (Int.lt_of_le_sub_one high.2),
    List.filterMap_reverse, filterMap_filter_range]

theorem slice_without_step (start stop : Option Int) :
    s.slice ⟨start, stop, some 0⟩ = .error .zeroStep := rfl

theorem slice_up_to (cut : Int) :
    s.slice ⟨none, some cut, none⟩ =
      .ok (s.tokensWhere (· < Slice.place s.size 0 s.size s.size (some cut))) := by
  rw [slice_forwards s none (some cut) none Int.one_pos]
  refine congrArg Except.ok (tokensWhere_congr fun j _ => ?_)
  refine ⟨fun ahead => ahead.2.1, fun below => ⟨?_, below, Int.one_dvd _⟩⟩
  exact Int.natCast_nonneg j

theorem slice_from (cut : Int) :
    s.slice ⟨some cut, none, none⟩ =
      .ok (s.tokensWhere (Slice.place s.size 0 s.size s.size (some cut) ≤ ·)) := by
  rw [slice_forwards s (some cut) none none Int.one_pos]
  refine congrArg Except.ok (tokensWhere_congr fun j inside => ?_)
  refine ⟨fun ahead => ahead.1, fun above => ⟨above, ?_, Int.one_dvd _⟩⟩
  exact Int.ofNat_lt.mpr inside

theorem slice_whole_backwards :
    s.slice ⟨none, none, some (-1)⟩ = .ok s.tokens.toList.reverse := by
  rw [slice_backwards s none none (Int.neg_neg_of_pos Int.one_pos)]
  refine congrArg (fun tokens : List Token => Except.ok tokens.reverse)
    (tokensWhere_of_forall fun j inside => ⟨?_, ?_, ?_⟩)
  · change (-1 : Int) < j
    omega
  · exact Int.le_sub_one_of_lt (Int.ofNat_lt.mpr inside)
  · exact Int.one_dvd _

end Selection

/-- How a sequence of any length answers an index and a slice.  Bounds of a slice
may be any integers or absent.  An index outside is refused whether or not it fits
a machine word; only the words of the refusal differ. -/
structure SelectsAsAList (s : TokenSequence) : Prop where
  fromFront : ∀ j : Fin s.size, s.get j.val = .ok s.tokens[j]
  fromEnd : ∀ j : Fin s.size, s.get (j.val - s.size) = .ok s.tokens[j]
  outside : ∀ index : Int, index < -s.size ∨ s.size ≤ index →
    s.get index = .error (if FitsWord index then .outOfRange else .beyondWord)
  forwards : ∀ start stop step : Option Int, 0 < step.getD 1 →
    s.slice ⟨start, stop, step⟩ = .ok (s.tokensWhere
      (Slice.Ahead (Slice.place s.size 0 s.size 0 start)
        (Slice.place s.size 0 s.size s.size stop) (step.getD 1)))
  backwards : ∀ (start stop : Option Int) (step : Int), step < 0 →
    s.slice ⟨start, stop, some step⟩ = .ok (s.tokensWhere
      (Slice.Behind (Slice.place s.size (-1) (s.size - 1) (-1) stop)
        (Slice.place s.size (-1) (s.size - 1) (s.size - 1) start) (-step))).reverse
  standing : ∀ start stop : Option Int,
    s.slice ⟨start, stop, some 0⟩ = .error .zeroStep
  parts : ∀ cut : Int, ∃ front back,
    s.slice ⟨none, some cut, none⟩ = .ok front ∧ s.slice ⟨some cut, none, none⟩ = .ok back ∧
      front ++ back = s.tokens.toList
  reversal : s.slice ⟨none, none, some (-1)⟩ = .ok s.tokens.toList.reverse

theorem selects_as_a_list (s : TokenSequence) : s.SelectsAsAList where
  fromFront := s.get_of_place
  fromEnd := s.get_of_place_from_end
  outside _ := s.get_of_outside
  forwards := s.slice_forwards
  backwards start stop _ := s.slice_backwards start stop
  standing := s.slice_without_step
  parts cut := ⟨_, _, s.slice_up_to cut, s.slice_from cut, tokensWhere_append_tokensWhere _⟩
  reversal := s.slice_whole_backwards

end TokenSequence

end LexicalPass
