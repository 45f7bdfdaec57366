import GuidedDecoding.Proofs.Extension
import GuidedDecoding.Proofs.Pause

set_option autoImplicit false

namespace GuidedDecoding

theorem toDigits_block {lead t : Nat} (hlead : 0 < lead) (k : Nat) (ht : t < 10 ^ k) :
    ∃ ds, Nat.toDigits 10 (lead * 10 ^ k + t) = Nat.toDigits 10 lead ++ ds ∧ ds.length = k := by
  induction k generalizing t with
  | zero =>
    obtain rfl : t = 0 := by omega
    exact ⟨[],by simp,rfl⟩
  | succ k ih =>
    rw [Nat.pow_succ] at ht
    obtain ⟨ds,hds,hlength⟩ := ih (t := t / 10) (by omega)
    have hpos : 0 < lead * 10 ^ k + t / 10 :=
      Nat.add_pos_left (Nat.mul_pos hlead (Nat.pow_pos (by omega))) _
    have hsplit : 10 * (lead * 10 ^ k + t / 10) + t % 10 = lead * 10 ^ (k + 1) + t := by
      rw [Nat.pow_succ,← Nat.mul_assoc]
      omega
    have hmod : t % 10 < 10 := Nat.mod_lt _ (by omega)
    refine ⟨ds ++ Nat.toDigits 10 (t % 10),?_,?_⟩
    · rw [← hsplit,← Nat.toDigits_append_toDigits (by omega) hpos hmod,hds,List.append_assoc]
    · rw [List.length_append,hlength,Nat.toDigits_of_lt_base hmod]
      rfl

namespace IntegerRange

variable {r : IntegerRange} {n : Numeral}

/-- What is left to read of a numeral in range: all of its digits, where the sign read so far is one
that a value has, or more digits behind those read, which begin the numeral of some value. -/
def Unfinished (r : IntegerRange) (n : Numeral) : Prop :=
  n.digits = 0 ∧ n.magnitude = 0 ∧
      (n.negative = true → ∃ v, r.contains v = true ∧ v < 0) ∨
    1 ≤ n.magnitude ∧ n.digits = (Nat.toDigits 10 n.magnitude).length ∧
      ∃ k : Nat, r.contains ({ n with magnitude := k } : Numeral).value = true ∧
        Nat.toDigits 10 n.magnitude <+: Nat.toDigits 10 k ∧
        n.digits < (Nat.toDigits 10 k).length

theorem exists_negative (h : (r.magnitudes true).isSome = true) :
    ∃ v, r.contains v = true ∧ v < 0 := by
  have hle := r.least_le_greatest
  simp only [magnitudes,if_true] at h
  split at h
  · refine ⟨r.least,?_,by omega⟩
    simp only [contains,Bool.and_eq_true,decide_eq_true_eq]
    omega
  · cases h

theorem Open.unfinished (h : r.Open n) : r.Unfinished n := by
  rcases h with ⟨hdigits,hmagnitude,hsign⟩ | ⟨hdigits,he⟩
  · exact .inl ⟨hdigits,hmagnitude,fun hneg => exists_negative (hsign hneg)⟩
  · have hpos := extendable_pos he
    cases hm : r.magnitudes n.negative with
    | none => simp [extendable,hm] at he
    | some bounds =>
      obtain ⟨low,high⟩ := bounds
      obtain ⟨k,t,hk,ht,hlow,hhigh⟩ := (extendable_iff hm hpos).mp he
      obtain ⟨ds,hds,hlength⟩ := toDigits_block hpos k ht
      have hm' :
          r.magnitudes ({ n with magnitude := n.magnitude * 10 ^ k + t } : Numeral).negative =
          some (low,high) := hm
      refine .inr ⟨hpos,hdigits,n.magnitude * 10 ^ k + t,
        (contains_of_magnitudes hm' hlow hhigh).1,hds ▸ List.prefix_append _ _,?_⟩
      rw [hds,List.length_append,hdigits]
      omega

end IntegerRange

namespace Grammar

/-- `g.Holds c part inner`: the checkpoint `c` of `g` is, or has inside it, the checkpoint `inner`
of `part`. -/
inductive Holds : Grammar → Checkpoint → Grammar → Checkpoint → Prop where
  | here {g c} : Holds g c g c
  | inFirst {keep first second c part inner} :
      Holds first c part inner → Holds (.sequence keep first second) (.inFirst c) part inner
  | inSecond {keep first second c a part inner} :
      Holds second c part inner → Holds (.sequence keep first second) (.inSecond c a) part inner
  | slot {first others slots fallback leftover} {i : Nat} {g c part inner} :
      (first :: others)[i]? = some g → slots[i]? = some (some c) → Holds g c part inner →
      Holds (.choice first others) (.choice slots fallback leftover) part inner
  | item {item bounds c outputs inProgress part inner} :
      Holds item c part inner →
      Holds (.repetition item bounds) (.repetition c outputs inProgress) part inner
  | mapped {body t c part inner} : Holds body c part inner → Holds (.mapped body t) c part inner

/-- What a checkpoint looks like, what is inside it apart, when its grammar is under way. -/
def Shaped : Grammar → Checkpoint → Prop
  | .literal bytes, .literal matched => matched < bytes.length
  | .integer range, .integer n => range.Unfinished n
  | .sequence _ _ _, .inFirst _ => True
  | .sequence _ _ _, .inSecond _ _ => True
  | .choice first others, .choice slots fallback leftover =>
    slots.length = (first :: others).length ∧ (∃ c, some c ∈ slots) ∧
      (fallback = none → leftover = []) ∧
      ∀ b ∈ fallback, b.index < (first :: others).length ∧ slots[b.index]? = some none
  | .repetition item bounds, .repetition c outputs inProgress =>
    (∀ m ∈ bounds.max, outputs.length < m) ∧ (inProgress = false → c = item.initial)
  | .mapped _ _, _ => True
  | _, _ => False

variable {g part : Grammar} {c inner : Checkpoint}

theorem Paused.shaped (h : g.Paused c) : g.Shaped c := by
  cases h with
  | literal hm => exact hm
  | integer h => exact h.unfinished
  | inFirst _ => trivial
  | inSecond _ => trivial
  | choice hlength _ hrunning hleftover hindex =>
    refine ⟨hlength,hrunning,hleftover,fun b hb => ⟨?_,hindex b hb⟩⟩
    rw [← hlength]
    exact (List.getElem?_eq_some_iff.mp (hindex b hb)).1
  | inside _ hm => exact ⟨hm,nofun⟩
  | between hm => exact ⟨hm,fun _ => rfl⟩
  | mapped _ => trivial

theorem Ready.holds (h : g.Ready c) (hin : g.Holds c part inner) : part.Ready inner := by
  induction hin with
  | here => exact h
  | inFirst _ ih =>
    rcases h.sequence with ⟨_,heq,hfirst⟩ | ⟨_,_,heq,_⟩ <;> cases heq
    exact ih hfirst
  | inSecond _ ih =>
    rcases h.sequence with ⟨_,heq,_⟩ | ⟨_,_,heq,hsecond⟩ <;> cases heq
    exact ih hsecond.ready
  | slot hg hc _ ih =>
    obtain ⟨_,_,_,heq,_,hslots,_,_⟩ := h.choice
    cases heq
    exact ih (hslots _ _ _ hg hc)
  | item _ ih =>
    obtain ⟨_,_,_,heq,hitem,_,_⟩ := h.repetition
    cases heq
    exact ih hitem
  | mapped _ ih => exact ih h.mapped

/-- At every depth of a checkpoint at which a parse has paused, a part is untouched or has the shape
of one that is under way. -/
theorem Fed.shaped_of_holds {w data : Bytes} {c' : Checkpoint} {required : Requirement}
    (hfed : g.Fed w c) (h : g.advance c data = .ok (.incomplete c' required))
    (hin : g.Holds c' part inner) : inner = part.initial ∨ part.Shaped inner := by
  have hpaused := hfed.ready.paused h
  rcases hpaused.ready.holds hin with hinitial | hinner
  · exact .inl hinitial
  · exact .inr hinner.shaped

def signedList : Grammar :=
  .repetition (.sequence .second (.literal (utf8 ";"))
    (.choice (.integer ⟨-99,-3,by decide⟩) [.literal (utf8 "-")])) ⟨0,some 3,by simp⟩

theorem shaped_of_holds_sign :
    signedList.Shaped (.repetition (.inSecond (.choice [some (.integer ⟨true,0,0⟩),none]
        (some ⟨1,.none⟩) []) .none) [] true) ∧
      (choice (.integer ⟨-99,-3,by decide⟩) [.literal (utf8 "-")]).Shaped
        (.choice [some (.integer ⟨true,0,0⟩),none] (some ⟨1,.none⟩) []) ∧
      (IntegerRange.mk (-99) (-3) (by decide)).Unfinished ⟨true,0,0⟩ := by
  have hfed : signedList.Fed ([] ++ utf8 ";") (.repetition (.inSecond
      (.choice [some (.integer ⟨false,0,0⟩),some (.literal 0)] none []) .none) [] true) :=
    .feed .start rfl
  have hsign : signedList.advance (.repetition (.inSecond
      (.choice [some (.integer ⟨false,0,0⟩),some (.literal 0)] none []) .none) [] true)
      (utf8 "-") = .ok (.incomplete (.repetition (.inSecond
        (.choice [some (.integer ⟨true,0,0⟩),none] (some ⟨1,.none⟩) []) .none) [] true)
          .empty) := rfl
  have hlist := hfed.shaped_of_holds hsign .here
  have hchoice := hfed.shaped_of_holds hsign (.item (.inSecond .here))
  have hnumber := hfed.shaped_of_holds hsign (.item (.inSecond (.slot (i := 0) rfl rfl .here)))
  refine ⟨hlist.resolve_left ?_,hchoice.resolve_left ?_,hnumber.resolve_left ?_⟩
  all_goals
    intro hinitial
    cases hinitial

end Grammar

end GuidedDecoding
