import GuidedDecoding.Proofs.Language

set_option autoImplicit false

namespace GuidedDecoding

theorem utf8_append (s t : String) : utf8 (s ++ t) = utf8 s ++ utf8 t := by
  simp [utf8]

namespace Numeral

def decimal (k : Nat) : Bytes := utf8 (toString k)

theorem decimal_eq (k : Nat) :
    decimal k = (Nat.toDigits 10 k).flatMap fun c => CodePoints.encodeOne c.toNat := by
  have hk : (toString k).toList = Nat.toDigits 10 k := Nat.toList_repr
  rw [decimal,utf8,hk]

theorem decimal_append {k d : Nat} (hk : 0 < k) (hd : d < 10) :
    decimal k ++ decimal d = decimal (k * 10 + d) := by
  rw [decimal_eq,decimal_eq,decimal_eq,← List.flatMap_append,
    Nat.toDigits_append_toDigits (by omega) hk hd,Nat.mul_comm]

theorem length_toDigits_push {k d : Nat} (hk : 0 < k) (hd : d < 10) :
    (Nat.toDigits 10 (k * 10 + d)).length = (Nat.toDigits 10 k).length + 1 := by
  rw [Nat.mul_comm,← Nat.toDigits_append_toDigits (by omega) hk hd,List.length_append,
    Nat.toDigits_of_lt_base hd]
  rfl

theorem utf8_ofNat (k : Nat) : utf8 (toString (k : Int)) = decimal k := rfl

theorem utf8_neg {k : Nat} (hk : 0 < k) :
    utf8 (toString (-k : Int)) = minusSign :: decimal k := by
  have hneg : toString (-k : Int) = "-" ++ toString k := by
    rw [Int.toString_eq_repr,Int.repr_eq_if,if_neg (by omega),Int.neg_neg,Int.toNat_natCast]
    rfl
  have hsign : utf8 "-" = [minusSign] := by decide
  rw [hneg,utf8_append,hsign]
  rfl

theorem digit?_eq_some {b : UInt8} {d : Nat} (h : digit? b = some d) :
    d < 10 ∧ decimal d = [b] := by
  unfold digit? at h
  split at h
  · rename_i hb
    have hlow : 48 ≤ b.toNat := hb.1
    have hhigh : b.toNat ≤ 57 := hb.2
    have hd : d = b.toNat - 48 := by
      rw [← Option.some.inj h]
      exact UInt8.toNat_sub_of_le _ _ hb.1
    have hten : d < 10 := by omega
    refine ⟨hten,?_⟩
    have hcode : 48 + d = b.toNat := by omega
    rw [decimal_eq,Nat.toDigits_of_lt_base hten,List.flatMap_singleton,
      Nat.toNat_digitChar_of_lt_ten hten,hcode,CodePoints.encodeOne,if_pos (by omega)]
    simp
  · cases h

def sign (n : Numeral) : Bytes := if n.negative then [minusSign] else []

def written (n : Numeral) : Bytes :=
  n.sign ++ if n.digits = 0 then [] else decimal n.magnitude

/-- Digits have been read if the magnitude says so, and only then. -/
def Balanced (n : Numeral) : Prop :=
  n.digits = 0 ∧ n.magnitude = 0 ∨ 0 < n.digits ∧ 0 < n.magnitude

@[simp] theorem push_sign (n : Numeral) (d : Nat) : (n.push d).sign = n.sign := rfl

@[simp] theorem push_magnitude (n : Numeral) (d : Nat) :
    (n.push d).magnitude = n.magnitude * 10 + d := rfl

@[simp] theorem push_digits (n : Numeral) (d : Nat) : (n.push d).digits = n.digits + 1 := rfl

theorem written_sign {n : Numeral} (hdigits : n.digits = 0) (hneg : n.negative = false) :
    ({ n with negative := true } : Numeral).written = n.written ++ [minusSign] := by
  simp [written,sign,hdigits,hneg]

theorem written_push {n : Numeral} {b : UInt8} {d : Nat} (hn : n.Balanced)
    (hd : digit? b = some d) : (n.push d).written = n.written ++ [b] := by
  obtain ⟨hten,hb⟩ := digit?_eq_some hd
  rcases hn with ⟨hdigits,hmagnitude⟩ | ⟨hdigits,hmagnitude⟩
  · simp [written,hdigits,hmagnitude,hb]
  · have hne : n.digits ≠ 0 := by omega
    simp only [written,push_sign,push_magnitude,push_digits,hne,if_false,Nat.succ_ne_zero,
      List.append_assoc,← hb,decimal_append hmagnitude hten]

theorem written_eq {n : Numeral} (hdigits : 0 < n.digits)
    (hsign : n.negative = true → 0 < n.magnitude) : n.written = utf8 (toString n.value) := by
  have hne : n.digits ≠ 0 := by omega
  cases hneg : n.negative with
  | true =>
    simp only [written,sign,value,hneg,hne,if_true,if_false]
    rw [utf8_neg (hsign hneg)]
    rfl
  | false =>
    simp only [written,sign,value,hneg,hne,Bool.false_eq_true,if_false,List.nil_append,utf8_ofNat]

end Numeral

namespace IntegerRange

variable {r : IntegerRange} {n : Numeral}

theorem extendable_pos (h : r.extendable n = true) : 0 < n.magnitude := by
  unfold extendable at h
  split at h
  · cases h
  · simp only [Bool.and_eq_true,bne_iff_ne,ne_eq] at h
    omega

theorem contains_of_magnitudes {low high : Nat} (hm : r.magnitudes n.negative = some (low,high))
    (hlow : low ≤ n.magnitude) (hhigh : n.magnitude ≤ high) :
    r.contains n.value = true ∧ (n.negative = true → 0 < n.magnitude) := by
  cases hneg : n.negative with
  | true =>
    simp only [hneg,magnitudes,if_true,Option.ite_none_right_eq_some,Option.some.injEq,
      Prod.mk.injEq] at hm
    simp only [contains,Numeral.value,hneg,if_true,Bool.and_eq_true,decide_eq_true_eq]
    exact ⟨by omega,fun _ => by omega⟩
  | false =>
    simp only [hneg,magnitudes,Bool.false_eq_true,if_false,Option.ite_none_right_eq_some,
      Option.some.injEq,Prod.mk.injEq] at hm
    simp only [contains,Numeral.value,hneg,Bool.false_eq_true,if_false,Bool.and_eq_true,
      decide_eq_true_eq]
    exact ⟨by omega,nofun⟩

theorem bounds_of_reachable {lead low high : Nat} (h : reachable lead low high 0 = true)
    (hmore : reachable lead low high 1 = false) : low ≤ lead ∧ lead ≤ high := by
  simp only [reachable,Nat.pow_eq,Nat.pow_zero,Nat.pow_one] at h hmore
  rw [reachableFrom] at h
  split at h
  · simp only [Nat.mul_one,Nat.one_mul,hmore,Bool.or_false,decide_eq_true_eq] at h
    omega
  · cases h

theorem contains_of_not_extendable (hdigits : 0 < n.digits) (hv : r.viable n = true)
    (he : r.extendable n = false) :
    r.contains n.value = true ∧ (n.negative = true → 0 < n.magnitude) := by
  have hne : n.digits ≠ 0 := by omega
  cases hm : r.magnitudes n.negative with
  | none => simp [viable,hm] at hv
  | some bounds =>
    obtain ⟨low,high⟩ := bounds
    simp only [viable,extendable,hm,Bool.or_eq_true,beq_iff_eq,hne,false_or] at hv he
    by_cases hzero : n.magnitude = 0
    · simp only [hzero,if_true,beq_iff_eq] at hv
      exact contains_of_magnitudes hm (by omega) (by omega)
    · simp only [hzero,if_false] at hv
      have hmore : reachable n.magnitude low high 1 = false := by simpa [hzero] using he
      obtain ⟨hlow,hhigh⟩ := bounds_of_reachable hv hmore
      exact contains_of_magnitudes hm hlow hhigh

/-- What a numeral looks like while more of it may be read. -/
def Open (r : IntegerRange) (n : Numeral) : Prop :=
  n.digits = 0 ∧ n.magnitude = 0 ∧ (n.negative = true → (r.magnitudes true).isSome = true) ∨
    n.digits = (Nat.toDigits 10 n.magnitude).length ∧ r.extendable n = true

theorem open_start : r.Open .start := .inl ⟨rfl,rfl,nofun⟩

theorem Open.balanced (h : r.Open n) : n.Balanced := by
  rcases h with ⟨hdigits,hmagnitude,_⟩ | ⟨hdigits,he⟩
  · exact .inl ⟨hdigits,hmagnitude⟩
  · have := Nat.length_toDigits_pos (b := 10) (n := n.magnitude)
    exact .inr ⟨by omega,extendable_pos he⟩

theorem Open.sign (h : r.Open n) {b : UInt8} (hs : r.takesSign n b = true) :
    b = Numeral.minusSign ∧ n.digits = 0 ∧ n.negative = false ∧
      r.Open { n with negative := true } := by
  simp only [takesSign,Bool.and_eq_true,beq_iff_eq,Bool.not_eq_true'] at hs
  obtain ⟨⟨⟨hb,hdigits⟩,hneg⟩,hsome⟩ := hs
  rcases h.balanced with ⟨_,hmagnitude⟩ | ⟨hpos,_⟩
  · exact ⟨hb,hdigits,hneg,.inl ⟨hdigits,hmagnitude,fun _ => hsome⟩⟩
  · omega

theorem Open.push (h : r.Open n) {b : UInt8} {d : Nat} (hd : Numeral.digit? b = some d)
    (he : r.extendable (n.push d) = true) : r.Open (n.push d) := by
  refine .inr ⟨?_,he⟩
  have hten := (Numeral.digit?_eq_some hd).1
  have hpos := extendable_pos he
  rcases h with ⟨hdigits,hmagnitude,_⟩ | ⟨hdigits,hext⟩
  · simp only [Numeral.push,hdigits,hmagnitude,Nat.zero_mul,Nat.zero_add]
    rw [Nat.toDigits_of_lt_base hten]
    rfl
  · simp only [Numeral.push,hdigits]
    rw [Numeral.length_toDigits_push (extendable_pos hext) hten]

theorem Open.written_eq (h : r.Open n) (hdigits : 0 < n.digits) :
    n.written = utf8 (toString n.value) := by
  refine Numeral.written_eq hdigits fun _ => ?_
  rcases h.balanced with ⟨hzero,_⟩ | ⟨_,hpos⟩
  · omega
  · exact hpos

theorem Open.close (h : r.Open n) {position : Nat} {rest : Bytes} {result : Numeral ⊕ Int × Bytes}
    (hc : (r.close n position rest).map .inr = .ok result) :
    ∃ k, result = .inr (k,rest) ∧ r.contains k = true ∧ n.written = utf8 (toString k) := by
  unfold IntegerRange.close at hc
  split at hc
  · rename_i hn
    cases hc
    exact ⟨n.value,rfl,hn.2,h.written_eq hn.1⟩
  · cases hc

/-- What reading makes of a text: the start of a numeral, or a value in range before a rest. -/
def Reads (r : IntegerRange) (text : Bytes) : Numeral ⊕ Int × Bytes → Prop
  | .inl n => r.Open n ∧ n.written = text
  | .inr (k,rest) => r.contains k = true ∧ text = utf8 (toString k) ++ rest

theorem Open.read (h : r.Open n) {position : Nat} {data : Bytes} {result : Numeral ⊕ Int × Bytes}
    (hr : r.read n position data = .ok result) : r.Reads (n.written ++ data) result := by
  revert hr
  fun_induction IntegerRange.read r n position data with
  | case1 n position =>
    rintro ⟨⟩
    exact ⟨h,(List.append_nil _).symm⟩
  | case2 n position b data hs ih =>
    intro hr
    obtain ⟨rfl,hdigits,hneg,hopen⟩ := h.sign hs
    simpa only [Numeral.written_sign hdigits hneg,List.append_assoc,List.singleton_append] using
      ih hopen hr
  | case3 n position b data hs hd =>
    intro hr
    obtain ⟨k,rfl,hk,hw⟩ := h.close hr
    exact ⟨hk,hw ▸ rfl⟩
  | case4 n position b data hs d hd next hv =>
    intro hr
    obtain ⟨k,rfl,hk,hw⟩ := h.close hr
    exact ⟨hk,hw ▸ rfl⟩
  | case5 n position b data hs d hd next hv he ih =>
    intro hr
    have hw : next.written = n.written ++ [b] := Numeral.written_push h.balanced hd
    simpa only [hw,List.append_assoc,List.singleton_append] using ih (h.push hd he) hr
  | case6 n position b data hs d hd next hv he =>
    rintro ⟨⟩
    have hw : next.written = n.written ++ [b] := Numeral.written_push h.balanced hd
    have hpos : 0 < next.digits := Nat.succ_pos _
    obtain ⟨hk,hsign⟩ := contains_of_not_extendable hpos (by simpa using hv) (by simpa using he)
    refine ⟨hk,?_⟩
    rw [← Numeral.written_eq hpos hsign,hw,List.append_assoc,List.singleton_append]

end IntegerRange

end GuidedDecoding
