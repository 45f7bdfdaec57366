import GuidedDecoding.Failure

set_option autoImplicit false

namespace GuidedDecoding

structure Bounds where
  min : Nat
  max : Option Nat
  min_le_max : ∀ m ∈ max, min ≤ m

namespace Bounds

def ofInts (min : Int) (max : Option Int) : Except Fault Bounds :=
  if h : 0 ≤ min then
    match max with
    | none => .ok ⟨min.toNat,none,by simp⟩
    | some m =>
      if hm : min ≤ m then .ok ⟨min.toNat,some m.toNat,by simp; omega⟩
      else .error (.maximumBelowMinimum m min)
  else .error (.negativeMinimum min)

def contains (b : Bounds) (count : Int) : Bool :=
  b.min ≤ count && b.max.all fun m => count ≤ m

def isCeiling (b : Bounds) (count : Int) : Bool :=
  b.max.any fun m => m ≤ count

def render (b : Bounds) : String :=
  let upper := (b.max.map toString).getD "inf"
  s!"Bounds([{b.min}, {upper}])"

end Bounds

end GuidedDecoding
