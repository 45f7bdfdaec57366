import GuidedDecoding.Proofs.Numerals
import Mathlib.Algebra.Group.Nat.Defs

set_option autoImplicit false

namespace GuidedDecoding

variable {lead low high scale more : Nat}

theorem reachableFrom_iff (hpos : 0 < lead * scale) :
    reachableFrom lead low high scale = true ↔
      ∃ k, low ≤ lead * (scale * 10 ^ k) + (scale * 10 ^ k - 1) ∧
        lead * (scale * 10 ^ k) ≤ high := by
  fun_induction reachableFrom lead low high scale with
  | case1 scale h ih =>
    have hscale : 0 < scale := Nat.pos_of_mul_pos_left h.1
    have hnext : 0 < lead * (scale * 10) := by
      rw [← Nat.mul_assoc]
      omega
    have hshift (k : Nat) : scale * 10 * 10 ^ k = scale * 10 ^ (k + 1) := by
      rw [Nat.pow_succ,Nat.mul_assoc,Nat.mul_comm 10]
    simp only [Bool.or_eq_true,decide_eq_true_eq,ih hnext,hshift]
    constructor
    · rintro (hlow | ⟨k,hk⟩)
      · exact ⟨0,by rw [Nat.pow_zero,Nat.mul_one]; omega⟩
      · exact ⟨k + 1,hk⟩
    · rintro ⟨k,hk⟩
      cases k with
      | zero =>
        rw [Nat.pow_zero,Nat.mul_one] at hk
        exact .inl (by omega)
      | succ k => exact .inr ⟨k,hk⟩
  | case2 scale h =>
    have hhigh : high < lead * scale := by omega
    constructor
    · nofun
    · rintro ⟨k,_,hk⟩
      have hle : lead * scale ≤ lead * (scale * 10 ^ k) :=
        Nat.mul_le_mul_left _ (Nat.le_mul_of_pos_right _ (Nat.pow_pos (by omega)))
      omega

/-- The search is exact: it succeeds if some value in range is `lead` with `more` digits or more
behind it, and only then. -/
theorem reachable_iff (hlead : 0 < lead) (hrange : low ≤ high) :
    reachable lead low high more = true ↔
      ∃ k t, more ≤ k ∧ t < 10 ^ k ∧ low ≤ lead * 10 ^ k + t ∧ lead * 10 ^ k + t ≤ high := by
  have hpow (k : Nat) : 0 < 10 ^ k := Nat.pow_pos (by omega)
  rw [reachable,Nat.pow_eq,reachableFrom_iff (Nat.mul_pos hlead (hpow more))]
  simp only [← Nat.pow_add]
  constructor
  · rintro ⟨k,hlow,hhigh⟩
    have := hpow (more + k)
    exact ⟨more + k,low - lead * 10 ^ (more + k),by omega,by omega,by omega,by omega⟩
  · rintro ⟨k,t,hmore,ht,hlow,hhigh⟩
    obtain ⟨k,rfl⟩ := Nat.exists_eq_add_of_le hmore
    exact ⟨k,by omega,by omega⟩

theorem lt_mul_pow_ten {n k : Nat} (hn : 0 < n) (hk : 1 ≤ k) : n < n * 10 ^ k :=
  (Nat.lt_mul_iff_one_lt_right hn).mpr (Nat.one_lt_pow (Nat.ne_of_gt hk) (by decide))

theorem exists_first_digit {n : Nat} (hn : 0 < n) :
    ∃ d k t, 0 < d ∧ d < 10 ∧ t < 10 ^ k ∧ n = d * 10 ^ k + t := by
  induction n using Nat.strongRecOn with
  | ind n ih =>
    by_cases hten : n < 10
    · exact ⟨n,0,0,hn,hten,by simp,by simp⟩
    · obtain ⟨d,k,t,hd,hten,ht,heq⟩ := ih (n / 10) (by omega) (by omega)
      refine ⟨d,k + 1,t * 10 + n % 10,hd,hten,by rw [Nat.pow_succ]; omega,?_⟩
      rw [Nat.pow_succ,← Nat.mul_assoc]
      omega

namespace Numeral

def digitByte (d : Nat) : UInt8 := UInt8.ofNat (48 + d)

theorem digit?_digitByte :
    ∀ d < 10, digit? (digitByte d) = some d ∧ (digitByte d == minusSign) = false := by
  decide

end Numeral

namespace IntegerRange

variable {r : IntegerRange} {n : Numeral} {d : Nat}

theorem magnitudes_le {negative : Bool} (h : r.magnitudes negative = some (low,high)) :
    low ≤ high := by
  unfold magnitudes at h
  simp only [Option.ite_none_right_eq_some,Option.some.injEq,Prod.mk.injEq] at h
  omega

theorem isSome_magnitudes_of_none (h : r.magnitudes false = none) :
    (r.magnitudes true).isSome = true := by
  have hle := r.least_le_greatest
  simp only [magnitudes,Bool.false_eq_true,if_false,if_true] at h ⊢
  split at h
  · cases h
  · rw [if_pos (by omega)]
    rfl

theorem extendable_iff (hm : r.magnitudes n.negative = some (low,high)) (hpos : 0 < n.magnitude) :
    r.extendable n = true ↔
      ∃ k t, 1 ≤ k ∧ t < 10 ^ k ∧ low ≤ n.magnitude * 10 ^ k + t ∧
        n.magnitude * 10 ^ k + t ≤ high := by
  have hne : (n.magnitude != 0) = true := by simpa using Nat.ne_of_gt hpos
  simp only [extendable,hm,hne,Bool.true_and]
  exact reachable_iff hpos (magnitudes_le hm)

theorem viable_push_iff (hm : r.magnitudes n.negative = some (low,high))
    (hpos : 0 < n.magnitude * 10 + d) :
    r.viable (n.push d) = true ↔
      ∃ k t, t < 10 ^ k ∧ low ≤ (n.magnitude * 10 + d) * 10 ^ k + t ∧
        (n.magnitude * 10 + d) * 10 ^ k + t ≤ high := by
  have hm' : r.magnitudes (n.push d).negative = some (low,high) := hm
  have hne : ¬n.magnitude * 10 + d = 0 := by omega
  simp only [viable,hm',Numeral.push_digits,Numeral.push_magnitude,beq_iff_eq,
    Nat.add_one_ne_zero,hne,if_false,Bool.or_eq_true,false_or,
    reachable_iff hpos (magnitudes_le hm),Nat.zero_le,true_and]

theorem exists_push_of_extendable (h : r.extendable n = true) :
    ∃ d < 10, r.viable (n.push d) = true := by
  have hpos := extendable_pos h
  cases hm : r.magnitudes n.negative with
  | none => simp [extendable,hm] at h
  | some bounds =>
    obtain ⟨low,high⟩ := bounds
    obtain ⟨k,t,hk,ht,hlow,hhigh⟩ := (extendable_iff hm hpos).mp h
    obtain ⟨k,rfl⟩ := Nat.exists_eq_add_of_le hk
    rw [Nat.add_comm 1 k,Nat.pow_succ] at ht hlow hhigh
    have hpow : 0 < 10 ^ k := Nat.pow_pos (by omega)
    have hd : t / 10 ^ k < 10 := Nat.div_lt_of_lt_mul ht
    have hsplit : (n.magnitude * 10 + t / 10 ^ k) * 10 ^ k + t % 10 ^ k =
        n.magnitude * (10 ^ k * 10) + t := by
      have := Nat.div_add_mod' t (10 ^ k)
      rw [Nat.add_mul,Nat.mul_assoc,Nat.mul_comm 10,Nat.add_assoc,this]
    have hnext : 0 < n.magnitude * 10 + t / 10 ^ k :=
      Nat.add_pos_left (Nat.mul_pos hpos (by omega)) _
    -- The first of the digits that lead into the range is the one to add.
    refine ⟨t / 10 ^ k,hd,(viable_push_iff hm hnext).mpr ⟨k,t % 10 ^ k,?_,?_,?_⟩⟩
    · exact Nat.mod_lt _ hpow
    · rw [hsplit]
      exact hlow
    · rw [hsplit]
      exact hhigh

theorem exists_push_of_start (hm : r.magnitudes n.negative = some (low,high))
    (hzero : n.magnitude = 0) : ∃ d < 10, r.viable (n.push d) = true := by
  have hle := magnitudes_le hm
  by_cases hlow : low = 0
  · have hm' : r.magnitudes (n.push 0).negative = some (low,high) := hm
    exact ⟨0,by omega,by simp [viable,hm',hzero,hlow]⟩
  · obtain ⟨d,k,t,hd,hten,ht,heq⟩ := exists_first_digit (Nat.pos_of_ne_zero hlow)
    have hlowest : (n.magnitude * 10 + d) * 10 ^ k + t = low := by
      rw [hzero,Nat.zero_mul,Nat.zero_add,heq]
    exact ⟨d,hten,(viable_push_iff hm (by omega)).mpr ⟨k,t,ht,by omega,by omega⟩⟩

theorem advance_digitByte (hd : d < 10) (hv : r.viable (n.push d) = true) :
    r.advance n [Numeral.digitByte d] = .ok (.finished (.int (n.push d).value) []) ∨
      r.extendable (n.push d) = true ∧ ∃ required,
        r.advance n [Numeral.digitByte d] = .ok (.incomplete (.integer (n.push d)) required) := by
  obtain ⟨hdigit,hsign⟩ := Numeral.digit?_digitByte d hd
  have hread : r.read n 0 [Numeral.digitByte d] =
      if r.extendable (n.push d) then .ok (.inl (n.push d))
      else .ok (.inr ((n.push d).value,[])) := by
    simp only [read,takesSign,hsign,hdigit,hv,Bool.false_and,Bool.not_true,Bool.false_eq_true,
      if_false]
  unfold advance
  cases he : r.extendable (n.push d) with
  | true =>
    rw [he,if_pos rfl] at hread
    rw [hread]
    exact .inr ⟨rfl,_,rfl⟩
  | false =>
    rw [he,if_neg Bool.false_ne_true] at hread
    rw [hread]
    exact .inl rfl

theorem advance_minusSign (hdigits : n.digits = 0) (hneg : n.negative = false)
    (hsome : (r.magnitudes true).isSome = true) :
    ∃ required, r.advance n [Numeral.minusSign] =
      .ok (.incomplete (.integer { n with negative := true }) required) := by
  have hsign : r.takesSign n Numeral.minusSign = true := by
    simp [takesSign,hdigits,hneg,hsome]
  have hread : r.read n 0 [Numeral.minusSign] = .ok (.inl { n with negative := true }) := by
    simp only [read,hsign,if_true]
  unfold advance
  rw [hread]
  exact ⟨_,rfl⟩

theorem magnitude_lt_of_extendable (hm : r.magnitudes n.negative = some (low,high))
    (h : r.extendable n = true) : n.magnitude < high := by
  have hpos := extendable_pos h
  obtain ⟨k,t,hk,_,_,hhigh⟩ := (extendable_iff hm hpos).mp h
  have hmore := lt_mul_pow_ten hpos hk
  omega

end IntegerRange

end GuidedDecoding
