set_option autoImplicit false

namespace GuidedDecoding

abbrev Bytes := List UInt8

namespace Bytes

def pieces (size : Nat) (data : Bytes) : List Bytes :=
  if _ : 0 < size ∧ data ≠ [] then data.take size :: pieces size (data.drop size) else []
termination_by data.length
decreasing_by
  rename_i h
  have := List.length_pos_iff.mpr h.2
  simp only [List.length_drop]
  omega

theorem flatten_pieces (size : Nat) (data : Bytes) (h : 0 < size) :
    (pieces size data).flatten = data := by
  fun_induction pieces size data with
  | case1 data _ ih => simp [ih]
  | case2 data hd => simp_all

/-- The longest byte string that starts both. -/
def agreement : Bytes → Bytes → Bytes
  | x :: xs, y :: ys => if x = y then x :: agreement xs ys else []
  | _, _ => []

theorem prefix_agreement_iff (p xs ys : Bytes) :
    p <+: agreement xs ys ↔ p <+: xs ∧ p <+: ys := by
  fun_induction agreement xs ys generalizing p with
  | case1 y xs ys ih => cases p <;> simp_all [List.cons_prefix_cons]; grind
  | case2 x xs y ys h => cases p <;> simp_all [List.cons_prefix_cons]
  | case3 xs ys h =>
    cases xs with
    | nil => simp +contextual
    | cons x xs =>
      cases ys with
      | nil => simp +contextual
      | cons y ys => exact absurd rfl (h x xs y ys rfl)

end Bytes

end GuidedDecoding
