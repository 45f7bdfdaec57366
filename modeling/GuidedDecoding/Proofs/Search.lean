import GuidedDecoding.Proofs.Leads
import GuidedDecoding.Proofs.Termination

set_option autoImplicit false

namespace GuidedDecoding

theorem Numeral.whole_value_neg_iff {negative : Bool} {k : Nat} (hsign : negative = true → 0 < k) :
    (whole negative k).value < 0 ↔ negative = true := by
  cases negative with
  | false => simp [whole,value]
  | true =>
    have hpos := hsign rfl
    simp only [whole,value,if_true,iff_true]
    omega

namespace IntegerRange

variable {r : IntegerRange} {n : Numeral} {s : Bytes}

theorem exists_has_iff {negative : Bool} :
    (∃ k, r.Has negative k ∧ s <+: (Numeral.whole negative k).written) ↔
      ∃ v, r.contains v = true ∧ (v < 0 ↔ negative = true) ∧ s <+: utf8 (toString v) := by
  constructor
  · intro h
    obtain ⟨k,hk,hs⟩ := h
    exact ⟨_,hk.1,Numeral.whole_value_neg_iff hk.2,Numeral.whole_written_eq hk.2 ▸ hs⟩
  · intro h
    obtain ⟨v,hv,hsign,hs⟩ := h
    obtain ⟨negative',k,rfl,hpos⟩ := Numeral.exists_whole v
    rw [Numeral.whole_value_neg_iff hpos] at hsign
    obtain rfl : negative' = negative := Bool.eq_iff_iff.mpr hsign
    exact ⟨k,⟨hv,hpos⟩,Numeral.whole_written_eq hpos ▸ hs⟩

theorem sign_begins (hdigits : n.digits = 0) (k : Nat) :
    n.written <+: (Numeral.whole n.negative k).written := by
  rw [Numeral.whole_written,Numeral.written,if_pos hdigits,List.append_nil]
  exact List.prefix_append _ _

theorem viable_iff_has :
    r.viable n = true ↔
      ∃ k, r.Has n.negative k ∧ n.written <+: (Numeral.whole n.negative k).written := by
  rcases Nat.eq_zero_or_pos n.digits with hdigits | hdigits
  · simp only [sign_begins hdigits,and_true,has_iff]
    cases hm : r.magnitudes n.negative with
    | none => simp [viable,hm]
    | some bounds =>
      simp only [viable,hm,hdigits,beq_self_eq_true,Bool.true_or,true_iff]
      exact ⟨bounds.1,bounds.1,bounds.2,rfl,Nat.le_refl _,magnitudes_le hm⟩
  · simp only [viable_iff_exists hdigits,Numeral.written_prefix_iff hdigits,true_and]

/-- `r.Weighs s n`: the numeral `n` of the bytes `s` comes up while an integer of `r` is read,
however the input is cut. -/
inductive Weighs (r : IntegerRange) : Bytes → Numeral → Prop where
  | kept {w data n₀ n} :
      (Grammar.integer r).Fed w (.integer n₀) → r.read n₀ 0 data = .ok (.inl n) →
      Weighs r (w ++ data) n
  /-- The next digit, which may turn out not to belong to the numeral. -/
  | tried {w data n₀ n b d} :
      (Grammar.integer r).Fed w (.integer n₀) → r.read n₀ 0 data = .ok (.inl n) →
      Numeral.digit? b = some d → Weighs r (w ++ data ++ [b]) (n.push d)

theorem open_of_read {w data : Bytes} {n₀ : Numeral}
    (hfed : (Grammar.integer r).Fed w (.integer n₀)) (hread : r.read n₀ 0 data = .ok (.inl n)) :
    r.Open n ∧ n.written = w ++ data := by
  obtain ⟨_,heq,hopen,rfl⟩ := hfed.integer
  cases heq
  exact hopen.read hread

theorem Weighs.written (h : r.Weighs s n) : n.written = s := by
  cases h with
  | kept hfed hread => exact (open_of_read hfed hread).2
  | tried hfed hread hd =>
    obtain ⟨hopen,hwritten⟩ := open_of_read hfed hread
    rw [Numeral.written_push hopen.balanced hd,hwritten]

theorem Weighs.digits_pos (h : r.Weighs s n) (he : r.extendable n = true) : 0 < n.digits := by
  cases h with
  | kept hfed hread =>
    have hpos := extendable_pos he
    rcases (open_of_read hfed hread).1.balanced with ⟨_,hzero⟩ | ⟨hdigits,_⟩
    · omega
    · exact hdigits
  | tried _ _ _ => exact Nat.succ_pos _

/-- The search for a value in range, run as it stands, comes to an end, and succeeds exactly if
`lead` with `more` or more digits behind it is in the range. Hence what has been read is viable
exactly if it begins the numeral of a value in range of its sign. Once a digit has been read it is
extendable exactly if it begins a longer one; before, it is not, whatever numerals there are. -/
theorem search_exact :
    (∀ lead low high more : Nat, 0 < lead → low ≤ high →
      (∀ clock, Nat.log 10 high + 1 < clock →
        searchWithin lead low high clock (10 ^ more) = some (reachable lead low high more)) ∧
      (reachable lead low high more = true ↔
        ∃ k t, more ≤ k ∧ t < 10 ^ k ∧ low ≤ lead * 10 ^ k + t ∧ lead * 10 ^ k + t ≤ high)) ∧
    ∀ (r : IntegerRange) (s : Bytes) (n : Numeral), r.Weighs s n →
      (r.viable n = true ↔
        ∃ v, r.contains v = true ∧ (v < 0 ↔ n.negative = true) ∧ s <+: utf8 (toString v)) ∧
      (r.extendable n = true ↔ 0 < n.digits ∧
        ∃ v, r.contains v = true ∧ s <+: utf8 (toString v) ∧ s ≠ utf8 (toString v)) := by
  constructor
  · intro lead low high more hlead hrange
    refine ⟨fun clock hclock => ?_,reachable_iff hlead hrange⟩
    have hhigh : high < 10 ^ (Nat.log 10 high + 1) := Nat.lt_pow_succ_log_self (by decide) _
    rw [searchWithin_of_digits low hlead (Nat.pow_pos (by decide)) hhigh hclock]
    rfl
  · intro r s n h
    obtain rfl := h.written
    refine ⟨viable_iff_has.trans exists_has_iff,fun he => ?_,fun hboth => ?_⟩
    · have hdigits := h.digits_pos he
      exact ⟨hdigits,(extendable_iff_extends hdigits).mp he⟩
    · exact (extendable_iff_extends hboth.1).mpr hboth.2

/-- Before the first digit, all numerals in range are longer than what has been read. Yet no state
without a digit is extendable, since its magnitude is zero like that of a numeral `0`. -/
theorem longer_before_digits :
    let r : IntegerRange := ⟨-99,99,by decide⟩
    let longer (s : Bytes) := ∃ v, r.contains v = true ∧ s <+: utf8 (toString v) ∧
      s ≠ utf8 (toString v)
    (r.Weighs [] .start ∧ ¬(r.extendable .start = true ↔ longer [])) ∧
      r.Weighs (utf8 "-") ⟨true,0,0⟩ ∧ ¬(r.extendable ⟨true,0,0⟩ = true ↔ longer (utf8 "-")) := by
  intro r longer
  have hnone : r.extendable .start ≠ true := by decide +kernel
  have hminus : r.extendable ⟨true,0,0⟩ ≠ true := by decide +kernel
  have hread : r.read .start 0 (utf8 "-") = .ok (.inl ⟨true,0,0⟩) := by decide +kernel
  have hstart : (Grammar.integer r).Fed [] (.integer .start) := .start
  have hsigned : r.Weighs ([] ++ utf8 "-") ⟨true,0,0⟩ := .kept hstart hread
  refine ⟨⟨.kept hstart rfl,fun h => hnone (h.mpr ?_)⟩,hsigned,fun h => hminus (h.mpr ?_)⟩
  · exact ⟨7,by decide,List.nil_prefix,by decide +kernel⟩
  · exact ⟨-7,by decide,by decide +kernel,by decide +kernel⟩

theorem search_exact_hundred :
    let r : IntegerRange := ⟨-105,-95,by decide⟩
    searchWithin 1 95 105 4 (10 ^ 1) = some true ∧
      (∃ k t, 1 ≤ k ∧ t < 10 ^ k ∧ 95 ≤ 1 * 10 ^ k + t ∧ 1 * 10 ^ k + t ≤ 105) ∧
      (∃ v, r.contains v = true ∧ utf8 "-10" <+: utf8 (toString v) ∧
        utf8 "-10" ≠ utf8 (toString v)) ∧
      ¬∃ v, r.contains v = true ∧ (v < 0 ↔ true = true) ∧ utf8 "-12" <+: utf8 (toString v) := by
  intro r
  obtain ⟨hsearch,hweighs⟩ := search_exact
  obtain ⟨hends,hfound⟩ := hsearch 1 95 105 1 (by decide) (by decide)
  have hhundred : reachable 1 95 105 1 = true := by decide +kernel
  have hsign : r.read .start 0 (utf8 "-1") = .ok (.inl ⟨true,1,1⟩) := by decide +kernel
  have hzero : r.Weighs (utf8 "-10") ⟨true,10,2⟩ :=
    .tried (b := 48) (d := 0) .start hsign (by decide)
  have htwo : r.Weighs (utf8 "-12") ⟨true,12,2⟩ :=
    .tried (b := 50) (d := 2) .start hsign (by decide)
  have hnone : ¬r.viable ⟨true,12,2⟩ = true := by decide +kernel
  refine ⟨?_,hfound.mp hhundred,?_,fun h => hnone ((hweighs r _ _ htwo).1.mpr h)⟩
  · rw [hends 4 (by decide +kernel),hhundred]
  · exact ((hweighs r _ _ hzero).2.mp (by decide +kernel)).2

end IntegerRange

end GuidedDecoding
