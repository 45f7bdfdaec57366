import GuidedDecoding.Failure

/-!
Masks over the token ids below some width: true where a token is ruled out. An index below zero
counts from the end, and one beyond either end is a fault, as is one that takes more than 64 bits. A
masked score becomes minus infinity.
-/

set_option autoImplicit false

namespace GuidedDecoding

/-- A score is minus infinity or some other value, of which nothing need be known. -/
inductive Score (α : Type) where
  | negativeInfinity
  | other (value : α)
  deriving DecidableEq, Repr

abbrev Mask := List Bool

namespace Mask

def isIndex (index : Int) : Bool := -(1 <<< 63) ≤ index && index < 1 <<< 63

/-- The place an index stands for among `size` of them. -/
def place (size : Nat) (index : Int) : Except Fault Nat :=
  if !isIndex index then .error .indexTooLarge
  else if 0 ≤ index ∧ index < size then .ok index.toNat
  else if index < 0 ∧ -index ≤ size then .ok (index + size).toNat
  else .error (.outOfBounds index size)

def put (mask : Mask) (index : Int) (masked : Bool) : Except Fault Mask :=
  (place mask.length index).map fun i => mask.set i masked

def unmask (mask : Mask) : List Int → Except Fault Mask
  | [] => .ok mask
  | id :: ids =>
    match mask.put id false with
    | .error f => .error f
    | .ok mask' => unmask mask' ids

/-- All ids masked but the valid ones, which are taken in ascending order. -/
def allowing (valid : List Int) (width : Int) : Except Fault Mask :=
  if width < 0 then .error (.negativeWidth width)
  else if !valid.all isIndex then .error .indexTooLarge
  else if width = 0 ∧ valid ≠ [] then .error (.noPlaces valid.length)
  else unmask (List.replicate width.toNat true) (valid.mergeSort (· ≤ ·))

def apply {α : Type} (mask : Mask) (scores : List (Score α)) : List (Score α) :=
  List.zipWith (fun masked score => if masked then .negativeInfinity else score) mask scores

end Mask

/-- Scores of a batch: a row per sequence, a column per token id. `columns` is unknown if the table
was given without any row. -/
structure Scores (α : Type) where
  columns : Option Nat
  rows : List (List (Score α))
  deriving DecidableEq, Repr

end GuidedDecoding
