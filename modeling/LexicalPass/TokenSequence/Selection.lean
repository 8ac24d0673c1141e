import LexicalPass.TokenSequence

/-!
Selection by index and by slice.  An index below zero counts from the end.  A
slice takes every `step`-th item from `start` on until `stop` is reached or
passed; bounds beyond either end are brought to it, and a step below zero walks
backwards.
-/

set_option autoImplicit false

namespace LexicalPass

/-- The place among `size` items that an index means. -/
def resolveIndex? (size : Nat) (index : Int) : Option Nat :=
  if 0 ≤ index then
    if index < size then some index.toNat else none
  else if 0 ≤ index + size then some (index + size).toNat
  else none

structure Slice where
  start : Option Int := none
  stop : Option Int := none
  step : Option Int := none
deriving DecidableEq, Repr

namespace Slice

/-- A bound counted from the front and brought between `low` and `high`. -/
def bound (size low high value : Int) : Int :=
  max low (min high (if value < 0 then value + size else value))

/-- How many steps lead from one place to places before the other. -/
def stepCount (distance step : Int) : Nat := ((distance + step - 1) / step).toNat

def ascending (low high step : Int) : List Nat :=
  (List.range (stepCount (high - low) step)).map fun k : Nat => (low + k * step).toNat

def descending (low high step : Int) : List Nat :=
  (List.range (stepCount (high - low) step)).map fun k : Nat => (high - k * step).toNat

/-- The places that a slice selects among `size` items, or `none` for a slice
that does not move. -/
def indices? (slice : Slice) (size : Nat) : Option (List Nat) :=
  let step := slice.step.getD 1
  if step = 0 then none
  else if 0 < step then
    let low := (slice.start.map (bound size 0 size)).getD 0
    let high := (slice.stop.map (bound size 0 size)).getD size
    some (ascending low high step)
  else
    let high := (slice.start.map (bound size (-1) (size - 1))).getD (size - 1)
    let low := (slice.stop.map (bound size (-1) (size - 1))).getD (-1)
    some (descending low high (-step))

end Slice

namespace TokenSequence

inductive AccessError where
  | outOfRange
  /-- No sequence is so long that an index needs more than a machine word. -/
  | beyondWord
  | zeroStep
deriving DecidableEq, Repr

def AccessError.message : AccessError → String
  | outOfRange => "list index out of range"
  | beyondWord => "cannot fit 'int' into an index-sized integer"
  | zeroStep => "slice step cannot be zero"

def FitsWord (index : Int) : Prop :=
  -0x8000000000000000 ≤ index ∧ index < 0x8000000000000000

instance (index : Int) : Decidable (FitsWord index) := inferInstanceAs (Decidable (_ ∧ _))

def get (s : TokenSequence) (index : Int) : Except AccessError Token :=
  match (resolveIndex? s.size index).bind (s.tokens[·]?) with
  | some token => .ok token
  | none => .error (if FitsWord index then .outOfRange else .beyondWord)

def slice (s : TokenSequence) (slice : Slice) : Except AccessError (List Token) :=
  match slice.indices? s.size with
  | some indices => .ok (indices.filterMap (s.tokens[·]?))
  | none => .error .zeroStep

end TokenSequence

end LexicalPass
