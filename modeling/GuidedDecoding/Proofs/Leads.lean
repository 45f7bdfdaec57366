import GuidedDecoding.Proofs.Shape

set_option autoImplicit false

namespace GuidedDecoding

namespace Numeral

variable {m k d : Nat} {b : UInt8}

theorem decimal_digit (hd : d < 10) : decimal d = [digitByte d] :=
  (digit?_eq_some (digit?_digitByte d hd).1).2

theorem digitByte_inj {e : Nat} (hd : d < 10) (he : e < 10) (h : digitByte d = digitByte e) :
    d = e := by
  have hdigit := (digit?_digitByte d hd).1
  rw [h,(digit?_digitByte e he).1] at hdigit
  exact (Option.some.inj hdigit).symm

theorem decimal_last (k : Nat) :
    decimal k = (if k < 10 then [] else decimal (k / 10)) ++ [digitByte (k % 10)] := by
  have hlast : k % 10 < 10 := Nat.mod_lt _ (by omega)
  split
  · rename_i hk
    rw [Nat.mod_eq_of_lt hk,decimal_digit hk,List.nil_append]
  · have hsplit : k / 10 * 10 + k % 10 = k := Nat.div_add_mod' k 10
    rw [← decimal_digit hlast,decimal_append (by omega) hlast,hsplit]

theorem decimal_ne_nil (k : Nat) : decimal k ≠ [] := by
  rw [decimal_last]
  simp

theorem digit_of_mem_decimal (h : b ∈ decimal k) : ∃ d, digit? b = some d := by
  induction k using Nat.strongRecOn with
  | ind k ih =>
    rw [decimal_last,List.mem_append,List.mem_singleton] at h
    rcases h with h | rfl
    · split at h
      · cases h
      · exact ih (k / 10) (by omega) h
    · exact ⟨_,(digit?_digitByte _ (Nat.mod_lt _ (by omega))).1⟩

theorem minusSign_notMem_decimal (k : Nat) : minusSign ∉ decimal k := by
  intro h
  obtain ⟨d,hd⟩ := digit_of_mem_decimal h
  cases hd

theorem decimal_inj (h : decimal m = decimal k) : m = k := by
  induction k using Nat.strongRecOn generalizing m with
  | ind k ih =>
    rw [decimal_last m,decimal_last k] at h
    obtain ⟨hlead,hlast⟩ := List.append_inj' h rfl
    have hmod := digitByte_inj (Nat.mod_lt m (by omega)) (Nat.mod_lt k (by omega))
      (List.singleton_inj.mp hlast)
    split at hlead <;> split at hlead
    · omega
    · exact absurd hlead.symm (decimal_ne_nil _)
    · exact absurd hlead (decimal_ne_nil _)
    · have hdiv := ih (k / 10) (by omega) hlead
      omega

/-- The digits of a positive number begin those of the numbers in the blocks above it, and of no
others. -/
theorem decimal_prefix_iff (hm : 0 < m) :
    decimal m <+: decimal k ↔ ∃ j t, t < 10 ^ j ∧ k = m * 10 ^ j + t := by
  constructor
  · intro h
    induction k using Nat.strongRecOn with
    | ind k ih =>
      by_cases hmk : m = k
      · exact ⟨0,0,by simp,by simp [hmk]⟩
      · rw [decimal_last k,List.prefix_concat_iff,← decimal_last] at h
        rcases h with h | h
        · exact absurd (decimal_inj h) hmk
        · split at h
          · exact absurd (List.prefix_nil.mp h) (decimal_ne_nil m)
          · obtain ⟨j,t,ht,hk⟩ := ih (k / 10) (by omega) h
            refine ⟨j + 1,t * 10 + k % 10,by rw [Nat.pow_succ]; omega,?_⟩
            rw [Nat.pow_succ,← Nat.mul_assoc]
            omega
  · rintro ⟨j,t,ht,rfl⟩
    obtain ⟨ds,hds,_⟩ := toDigits_block hm j ht
    rw [decimal_eq,decimal_eq,hds,List.flatMap_append]
    exact List.prefix_append _ _

theorem decimal_zero_prefix_iff : decimal 0 <+: decimal k ↔ k = 0 := by
  constructor
  · intro h
    rcases Nat.eq_zero_or_pos k with hk | hk
    · exact hk
    · obtain ⟨d,j,t,hd,hten,ht,hblock⟩ := exists_first_digit hk
      have hfirst : decimal d <+: decimal k := (decimal_prefix_iff hd).mpr ⟨j,t,ht,hblock⟩
      have hlength : (decimal 0).length = (decimal d).length := by
        rw [decimal_digit hten,decimal_digit (by omega)]
        rfl
      have hlead := List.prefix_of_prefix_length_le h hfirst (Nat.le_of_eq hlength)
      have hzero := decimal_inj (hlead.eq_of_length hlength)
      omega
  · rintro rfl
    exact List.prefix_rfl

def whole (negative : Bool) (k : Nat) : Numeral := ⟨negative,k,(Nat.toDigits 10 k).length⟩

theorem whole_written (negative : Bool) (k : Nat) :
    (whole negative k).written = (whole negative k).sign ++ decimal k := by
  have hpos := Nat.length_toDigits_pos (b := 10) (n := k)
  have hne : (whole negative k).digits ≠ 0 := Nat.ne_of_gt hpos
  rw [written,if_neg hne]
  rfl

theorem whole_written_eq {negative : Bool} (hsign : negative = true → 0 < k) :
    (whole negative k).written = utf8 (toString (whole negative k).value) :=
  written_eq Nat.length_toDigits_pos hsign

theorem exists_whole (v : Int) :
    ∃ negative k, v = (whole negative k).value ∧ (negative = true → 0 < k) := by
  by_cases hv : v < 0
  · exact ⟨true,v.natAbs,by simp only [value,whole,if_true]; omega,fun _ => by omega⟩
  · exact ⟨false,v.natAbs,by simp only [value,whole,Bool.false_eq_true,if_false]; omega,
      fun hsign => absurd hsign Bool.false_ne_true⟩

theorem written_of_digits {n : Numeral} (hdigits : 0 < n.digits) :
    n.written = n.sign ++ decimal n.magnitude := by
  rw [written,if_neg (by omega)]

theorem written_prefix_iff {n : Numeral} {negative : Bool} (hdigits : 0 < n.digits) :
    n.written <+: (whole negative k).written ↔
      n.negative = negative ∧ decimal n.magnitude <+: decimal k := by
  rw [written_of_digits hdigits,whole_written]
  cases hn : n.negative <;> cases negative <;>
    simp only [sign,whole,hn,if_true,Bool.false_eq_true,if_false,List.nil_append,
      List.singleton_append,List.cons_prefix_cons,true_and,reduceCtorEq,false_and,iff_false]
  · intro h
    cases hd : decimal n.magnitude with
    | nil => exact decimal_ne_nil _ hd
    | cons x xs =>
      rw [hd,List.cons_prefix_cons] at h
      have hmem : minusSign ∈ decimal n.magnitude := by
        rw [hd,h.1]
        exact List.mem_cons_self
      exact minusSign_notMem_decimal _ hmem
  · exact fun h => minusSign_notMem_decimal k (h.subset List.mem_cons_self)

end Numeral

namespace IntegerRange

variable {r : IntegerRange} {n : Numeral} {low high k : Nat}

/-- The value of a sign and a magnitude is in range, and is written with that sign. -/
def Has (r : IntegerRange) (negative : Bool) (k : Nat) : Prop :=
  r.contains (Numeral.whole negative k).value = true ∧ (negative = true → 0 < k)

theorem has_iff {negative : Bool} :
    r.Has negative k ↔
      ∃ low high, r.magnitudes negative = some (low,high) ∧ low ≤ k ∧ k ≤ high := by
  constructor
  · rintro ⟨hk,hsign⟩
    cases negative with
    | true =>
      have hpos := hsign rfl
      simp only [contains,Numeral.value,Numeral.whole,if_true,Bool.and_eq_true,
        decide_eq_true_eq] at hk
      exact ⟨_,_,if_pos (by simp only [if_true]; omega),by simp only [if_true]; omega,
        by simp only [if_true]; omega⟩
    | false =>
      simp only [contains,Numeral.value,Numeral.whole,Bool.false_eq_true,if_false,Bool.and_eq_true,
        decide_eq_true_eq] at hk
      exact ⟨_,_,if_pos (by simp only [Bool.false_eq_true,if_false]; omega),
        by simp only [Bool.false_eq_true,if_false]; omega,
        by simp only [Bool.false_eq_true,if_false]; omega⟩
  · rintro ⟨low,high,hm,hlow,hhigh⟩
    exact contains_of_magnitudes (n := .whole negative k) hm hlow hhigh

theorem viable_iff_exists (hdigits : 0 < n.digits) :
    r.viable n = true ↔
      ∃ k, r.Has n.negative k ∧ Numeral.decimal n.magnitude <+: Numeral.decimal k := by
  have hne : n.digits ≠ 0 := by omega
  simp only [has_iff]
  cases hm : r.magnitudes n.negative with
  | none => simp [viable,hm]
  | some bounds =>
    obtain ⟨low,high⟩ := bounds
    have hle := magnitudes_le hm
    simp only [viable,hm,Bool.or_eq_true,beq_iff_eq,hne,false_or,Option.some.injEq,Prod.mk.injEq]
    rcases Nat.eq_zero_or_pos n.magnitude with hzero | hpos
    · simp only [hzero,if_true,beq_iff_eq,Numeral.decimal_zero_prefix_iff]
      constructor
      · rintro rfl
        exact ⟨0,⟨0,high,⟨rfl,rfl⟩,by omega,by omega⟩,rfl⟩
      · rintro ⟨_,⟨_,_,⟨rfl,rfl⟩,hlow,_⟩,rfl⟩
        omega
    · have hmagnitude : n.magnitude ≠ 0 := by omega
      simp only [hmagnitude,if_false,reachable_iff hpos hle,Numeral.decimal_prefix_iff hpos]
      constructor
      · rintro ⟨j,t,_,ht,hlow,hhigh⟩
        exact ⟨_,⟨low,high,⟨rfl,rfl⟩,hlow,hhigh⟩,j,t,ht,rfl⟩
      · rintro ⟨_,⟨_,_,⟨rfl,rfl⟩,hlow,hhigh⟩,j,t,ht,rfl⟩
        exact ⟨j,t,Nat.zero_le _,ht,hlow,hhigh⟩

theorem extendable_iff_exists :
    r.extendable n = true ↔ ∃ k, r.Has n.negative k ∧
      Numeral.decimal n.magnitude <+: Numeral.decimal k ∧ n.magnitude ≠ k := by
  simp only [has_iff]
  cases hm : r.magnitudes n.negative with
  | none => simp [extendable,hm]
  | some bounds =>
    obtain ⟨low,high⟩ := bounds
    simp only [Option.some.injEq,Prod.mk.injEq]
    rcases Nat.eq_zero_or_pos n.magnitude with hzero | hpos
    · simp only [extendable,hm,hzero,Numeral.decimal_zero_prefix_iff,bne_self_eq_false,
        Bool.false_and,Bool.false_eq_true,false_iff]
      rintro ⟨_,_,rfl,hne⟩
      exact hne rfl
    · rw [extendable_iff hm hpos]
      simp only [Numeral.decimal_prefix_iff hpos]
      constructor
      · rintro ⟨j,t,hj,ht,hlow,hhigh⟩
        have hmore := lt_mul_pow_ten hpos hj
        exact ⟨_,⟨low,high,⟨rfl,rfl⟩,hlow,hhigh⟩,⟨j,t,ht,rfl⟩,by omega⟩
      · rintro ⟨_,⟨_,_,⟨rfl,rfl⟩,hlow,hhigh⟩,⟨j,t,ht,rfl⟩,hne⟩
        refine ⟨j,t,Nat.one_le_iff_ne_zero.mpr ?_,ht,hlow,hhigh⟩
        rintro rfl
        omega

/-- A text that begins the numeral of a value in range. -/
def Leads (r : IntegerRange) (u : Bytes) : Prop :=
  ∃ v, r.contains v = true ∧ u <+: utf8 (toString v)

/-- A text that begins the numeral of a value in range, with more behind it. -/
def Extends (r : IntegerRange) (u : Bytes) : Prop :=
  ∃ v, r.contains v = true ∧ u <+: utf8 (toString v) ∧ u ≠ utf8 (toString v)

theorem leads_iff {u : Bytes} :
    r.Leads u ↔ ∃ negative k, r.Has negative k ∧ u <+: (Numeral.whole negative k).written := by
  constructor
  · rintro ⟨v,hv,hu⟩
    obtain ⟨negative,k,rfl,hsign⟩ := Numeral.exists_whole v
    exact ⟨negative,k,⟨hv,hsign⟩,Numeral.whole_written_eq hsign ▸ hu⟩
  · rintro ⟨negative,k,hk,hu⟩
    exact ⟨_,hk.1,Numeral.whole_written_eq hk.2 ▸ hu⟩

theorem extends_iff {u : Bytes} :
    r.Extends u ↔ ∃ negative k, r.Has negative k ∧ u <+: (Numeral.whole negative k).written ∧
      u ≠ (Numeral.whole negative k).written := by
  constructor
  · rintro ⟨v,hv,hu⟩
    obtain ⟨negative,k,rfl,hsign⟩ := Numeral.exists_whole v
    exact ⟨negative,k,⟨hv,hsign⟩,Numeral.whole_written_eq hsign ▸ hu⟩
  · rintro ⟨negative,k,hk,hu⟩
    exact ⟨_,hk.1,Numeral.whole_written_eq hk.2 ▸ hu⟩

theorem viable_iff_leads (hdigits : 0 < n.digits) : r.viable n = true ↔ r.Leads n.written := by
  rw [viable_iff_exists hdigits,leads_iff]
  simp only [Numeral.written_prefix_iff hdigits]
  constructor
  · rintro ⟨k,hk,hlead⟩
    exact ⟨_,k,hk,rfl,hlead⟩
  · rintro ⟨_,k,hk,rfl,hlead⟩
    exact ⟨k,hk,hlead⟩

theorem extendable_iff_extends (hdigits : 0 < n.digits) :
    r.extendable n = true ↔ r.Extends n.written := by
  have hsame {k : Nat} :
      n.written = (Numeral.whole n.negative k).written ↔ n.magnitude = k := by
    rw [Numeral.written_of_digits hdigits,Numeral.whole_written]
    exact ⟨fun h => Numeral.decimal_inj (List.append_cancel_left h),fun h => h ▸ rfl⟩
  rw [extendable_iff_exists,extends_iff]
  simp only [Numeral.written_prefix_iff hdigits]
  constructor
  · rintro ⟨k,hk,hlead,hne⟩
    exact ⟨_,k,hk,⟨rfl,hlead⟩,fun h => hne (hsame.mp h)⟩
  · rintro ⟨_,k,hk,⟨rfl,hlead⟩,hne⟩
    exact ⟨k,hk,hlead,fun h => hne (hsame.mpr h)⟩

end IntegerRange

end GuidedDecoding
