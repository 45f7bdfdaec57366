import GuidedDecoding.Proofs.Completion
import GuidedDecoding.Proofs.Parts

/-!
Parses that do not go back. When a parse that has paused ends with a later step, it may leave bytes
of earlier steps unread, if it holds a choice that has a match in hand while something longer fails.
Grammars whose choices are never in that position leave at most the bytes of the last step, and some
of them leave less than that.
-/

set_option autoImplicit false

namespace GuidedDecoding

namespace IntegerRange

variable {r : IntegerRange} {n : Numeral} {position : Nat} {data rest : Bytes} {k : Int}

theorem close_ok {result : Int × Bytes} (h : r.close n position data = .ok result) :
    0 < n.digits ∧ r.contains n.value = true ∧ result = (n.value,data) := by
  unfold close at h
  split at h
  · rename_i hn
    cases h
    exact ⟨hn.1,hn.2,rfl⟩
  · cases h

theorem close_map_ok
    (h : (r.close n position data).map Sum.inr =
      (.ok (.inr (k,rest)) : Except ParseError (Numeral ⊕ Int × Bytes))) :
    r.close n position data = .ok (k,data) ∧ rest = data := by
  cases hn : r.close n position data with
  | error e => simp [hn,Except.map] at h
  | ok result =>
    simp only [hn,Except.map,Except.ok.injEq,Sum.inr.injEq] at h
    subst h
    obtain ⟨_,_,heq⟩ := close_ok hn
    obtain ⟨_,rfl⟩ := Prod.mk.inj heq
    exact ⟨rfl,rfl⟩

/-- No value's numeral is the start of another one's. -/
def Unextended (r : IntegerRange) : Prop := ∀ n, r.extendable n = true → r.contains n.value = false

theorem Open.not_close (h : r.Open n) (hr : r.Unextended) {result : Int × Bytes} :
    r.close n position data ≠ .ok result := by
  intro hc
  obtain ⟨hdigits,hcontains,_⟩ := close_ok hc
  rcases h with ⟨hzero,_,_⟩ | ⟨_,he⟩
  · omega
  · rw [hr n he] at hcontains
    cases hcontains

theorem Open.rest_le (h : r.Open n) (hr : r.read n position data = .ok (.inr (k,rest))) :
    rest.length ≤ data.length ∧ (r.Unextended → rest.length < data.length) := by
  have hclose {n : Numeral} {position : Nat} {data : Bytes} (h : r.Open n)
      (hc : (r.close n position data).map Sum.inr =
        (.ok (.inr (k,rest)) : Except ParseError (Numeral ⊕ Int × Bytes))) :
      rest.length ≤ data.length ∧ (r.Unextended → rest.length < data.length) := by
    obtain ⟨hn,rfl⟩ := close_map_ok hc
    exact ⟨Nat.le_refl _,fun hr => absurd hn (h.not_close hr)⟩
  revert hr
  fun_induction IntegerRange.read r n position data with
  | case1 n position => rintro ⟨⟩
  | case2 n position b data hs ih =>
    intro hr
    have := ih (h.sign hs).2.2.2 hr
    simp only [List.length_cons]
    omega
  | case3 n position b data hs hd => exact hclose h
  | case4 n position b data hs d hd next hv => exact hclose h
  | case5 n position b data hs d hd next hv he ih =>
    intro hr
    have := ih (h.push hd he) hr
    simp only [List.length_cons]
    omega
  | case6 n position b data hs d hd next hv he =>
    rintro ⟨⟩
    simp

end IntegerRange

namespace Repetition

variable {item : Grammar} {bounds : Bounds} {later inProgress : Bool} {current : Checkpoint}
  {outputs : List Value} {data rest : Bytes} {o : Value} {result : Attempt}

theorem rest_le_of_rounds {size : Nat}
    (h : Rounds item.toItem bounds later current outputs inProgress data result)
    (hresult : result = .ok (.finished o rest)) (hdata : data.length ≤ size)
    (hitem : ∀ {x rest}, item.advance current data = .ok (.finished x rest) →
      rest.length ≤ size) : rest.length ≤ size := by
  induction h with
  | stop _ _ =>
    cases hresult
    exact hdata
  | fail _ _ => cases hresult
  | fault _ => cases hresult
  | inside _ => cases hresult
  | ceiling ha _ =>
    cases hresult
    exact hitem ha
  | between _ _ => exact absurd hresult pause_ne_finished
  | stall ha _ _ _ _ =>
    cases hresult
    exact hitem ha
  | short _ _ _ _ _ => cases hresult
  | next ha _ _ _ _ ih =>
    have hrest := hitem ha
    exact ih hresult hrest fun hb => Nat.le_trans (Grammar.rest_le_of_finished hb) hrest

theorem rest_lt_of_rounds
    (h : Rounds item.toItem bounds later current outputs inProgress data (.ok (.finished o rest)))
    (hend : mayEnd bounds outputs inProgress = false)
    (hitem : ∀ {x rest}, item.advance current data = .ok (.finished x rest) →
      rest.length < data.length) : rest.length < data.length := by
  generalize hr : (Except.ok (Outcome.finished o rest) : Attempt) = result at h
  cases h with
  | stop _ hstop =>
    rw [hend] at hstop
    cases hstop
  | fail _ _ => cases hr
  | fault _ => cases hr
  | inside _ => cases hr
  | ceiling ha _ =>
    cases hr
    exact hitem ha
  | between _ _ => exact absurd hr.symm pause_ne_finished
  | stall ha _ _ _ _ =>
    cases hr
    exact hitem ha
  | short _ _ _ _ _ => cases hr
  | next ha _ _ _ hrounds =>
    have hfresh :=
      rest_le_of_rounds hrounds hr.symm (Nat.le_refl _) Grammar.rest_le_of_finished
    exact Nat.lt_of_le_of_lt hfresh (hitem ha)

end Repetition

namespace Grammar

/-- No word of one alternative is the start of what another one may be in the middle of. -/
def Apart (alternatives : List Grammar) : Prop :=
  ∀ (i j : Nat) (g h : Grammar), i ≠ j → alternatives[i]? = some g → alternatives[j]? = some h →
    ∀ u o w c, g.Derives u o → h.Fed w c → ¬u <+: w

theorem Fed.literal {bytes w : Bytes} {c : Checkpoint} (h : (Grammar.literal bytes).Fed w c) :
    w <+: bytes ∧ c = .literal w.length := by
  induction h with
  | start => exact ⟨List.nil_prefix,rfl⟩
  | feed _ ha ih =>
    obtain ⟨⟨more,hw⟩,rfl⟩ := ih
    have hlength := congrArg List.length hw
    rw [List.length_append] at hlength
    obtain ⟨left,hdrop,_,_,rfl,_⟩ := Literal.advance_incomplete (by omega) ha
    refine ⟨⟨left,?_⟩,by rw [List.length_append]⟩
    rw [← hw,List.drop_left] at hdrop
    rw [List.append_assoc,← hdrop,hw]

theorem apart_literals {literals : List Bytes}
    (h : literals.Pairwise fun u v => ¬u <+: v ∧ ¬v <+: u) : Apart (literals.map .literal) := by
  rw [List.pairwise_iff_getElem] at h
  intro i j g g' hne hg hg' u o w c hu hw hlead
  rw [List.getElem?_map,Option.map_eq_some_iff] at hg hg'
  obtain ⟨u,hi,rfl⟩ := hg
  obtain ⟨v,hj,rfl⟩ := hg'
  cases hu
  obtain ⟨hi',rfl⟩ := List.getElem?_eq_some_iff.mp hi
  obtain ⟨hj',rfl⟩ := List.getElem?_eq_some_iff.mp hj
  have hstart := hlead.trans hw.literal.1
  rcases Nat.lt_or_gt_of_ne hne with hlt | hgt
  · exact (h i j hi' hj' hlt).1 hstart
  · exact (h j i hj' hi' hgt).2 hstart

/-- A parse that has paused never ends before the bytes of its last step, and in the strict case
never before the second of them. -/
inductive Forward (strict : Prop) : Grammar → Prop where
  | literal (bytes) : Forward strict (.literal bytes)
  | integer {range} : (strict → range.Unextended) → Forward strict (.integer range)
  | sequence {keep first second} :
      Forward strict first → Forward strict second → Forward strict (.sequence keep first second)
  | choice {first others} :
      (∀ g ∈ first :: others, Forward strict g) → Apart (first :: others) →
      Forward strict (.choice first others)
  /-- In the strict case the count is fixed and every item consumes something. -/
  | repetition {item bounds} :
      Forward strict item →
      (strict → bounds.max = some bounds.min ∧
        ∀ data o, item.advance item.initial data ≠ .ok (.finished o data)) →
      Forward strict (.repetition item bounds)
  | mapped {body t} : Forward strict body → Forward strict (.mapped body t)

theorem Apart.fallback_eq_none {first : Grammar} {others : List Grammar} {w leftover : Bytes}
    {slots : List (Option Checkpoint)} {fallback : Option Branch} (h : Apart (first :: others))
    (hfed : (choice first others).Fed w (.choice slots fallback leftover))
    (hp : (choice first others).Paused (.choice slots fallback leftover)) : fallback = none := by
  cases fallback with
  | none => rfl
  | some b =>
    obtain ⟨slots,_,_,hc,hslots⟩ := hfed.choice
    cases hc
    obtain ⟨j,g,inner,hg,hj⟩ := hp.ready.exists_slot
    cases hp with
    | choice _ _ _ _ hindex =>
      have hb := hindex b rfl
      have hne : b.index ≠ j := by
        rintro rfl
        rw [hb] at hj
        cases hj
      obtain ⟨u,hw,hu⟩ :=
        hfed.derives (.fallback : Completes _ (.choice slots (some b) leftover) [] _ _)
      cases hu with
      | choice hfirst hu =>
        rw [List.append_nil,List.append_nil] at hw
        exact absurd ⟨leftover,hw.symm⟩
          (h b.index j _ g hne hfirst hg _ _ w inner hu (hslots j g inner hg hj))

theorem Forward.rest_le {strict : Prop} {g : Grammar} (hg : g.Forward strict) {w data rest : Bytes}
    {c : Checkpoint} {o : Value} (hfed : g.Fed w c) (hp : g.Paused c)
    (h : g.advance c data = .ok (.finished o rest)) :
    rest.length ≤ data.length ∧ (strict → rest.length < data.length) := by
  induction hg generalizing w c data o rest with
  | literal bytes =>
    cases hp with
    | @literal _ matched hm =>
      obtain ⟨_,rfl⟩ := Literal.scan_finished h
      rw [List.length_append,List.length_drop]
      omega
  | @integer range hrange =>
    cases hp with
    | integer hn =>
      obtain ⟨k,hr,_⟩ := IntegerRange.advance_finished h
      obtain ⟨hle,hlt⟩ := hn.rest_le hr
      exact ⟨hle,fun hs => hlt (hrange hs)⟩
  | @sequence keep first second _ _ hfirst hsecond =>
    cases hp with
    | inFirst hp =>
      obtain ⟨inner,hc,hinner⟩ | ⟨_,_,_,hc,_⟩ := hfed.sequence
      · cases hc
        obtain ⟨a,between,b,ha,hb,_⟩ := advance_inFirst_finished h
        have hbetween := hfirst hinner hp ha
        have hrest := rest_le_of_finished hb
        exact ⟨Nat.le_trans hrest hbetween.1,fun hs => Nat.lt_of_le_of_lt hrest (hbetween.2 hs)⟩
      · cases hc
    | inSecond hp =>
      obtain ⟨_,hc,_⟩ | ⟨inner,a,v,hc,hinner⟩ := hfed.sequence
      · cases hc
      · cases hc
        obtain ⟨b,hb,_⟩ := Keep.proceed_finished h
        exact hsecond hinner hp hb
  | @choice first others _ hapart ih =>
    obtain ⟨slots,fallback,leftover,rfl,hslots⟩ := hfed.choice
    obtain rfl := hapart.fallback_eq_none hfed hp
    rw [advance_choice] at h
    obtain ⟨_,_,hclose⟩ := Choice.settle_closed h (by simp) (by simp)
    obtain ⟨i,x,hr,rfl⟩ | ⟨b,hb,_⟩ := Choice.close_finished hclose
    · obtain ⟨g,inner,hg,hinner,ha⟩ := getElem?_advanceSlots_some.mp hr
      cases hp with
      | choice _ hpaused _ _ _ =>
        exact ih g (List.mem_of_getElem? hg) (hslots i g inner hg hinner)
          (hpaused i g inner hg hinner) ha
    · cases hb
  | @repetition item bounds _ hfixed ih =>
    obtain ⟨current,outputs,inProgress,v,rfl,hv⟩ := hfed.repetition
    have hmax : bounds.max ≠ some 0 := by
      intro hzero
      cases hp with
      | inside _ hm => exact absurd (hm 0 hzero) (Nat.not_lt_zero _)
      | between hm => exact absurd (hm 0 hzero) (Nat.not_lt_zero _)
    have hrounds := (advance_repetition hmax).mp h
    cases hp with
    | inside hp _ =>
      refine ⟨Repetition.rest_le_of_rounds hrounds rfl (Nat.le_refl _) fun ha => (ih hv hp ha).1,
        fun hs => ?_⟩
      exact Repetition.rest_lt_of_rounds hrounds rfl fun ha => (ih hv hp ha).2 hs
    | between hm =>
      refine ⟨Repetition.rest_le_of_rounds hrounds rfl (Nat.le_refl _) rest_le_of_finished,
        fun hs => ?_⟩
      obtain ⟨hfixed,hconsume⟩ := hfixed hs
      exact Repetition.rest_lt_of_rounds hrounds
        (Repetition.mayEnd_of_lt (hm bounds.min hfixed)) (rest_lt_of_finished hconsume)
  | mapped _ ih =>
    cases hp with
    | mapped hp =>
      obtain ⟨x,hx,_⟩ := Transform.on_finished h
      exact ih hfed.mapped hp hx

end Grammar

end GuidedDecoding
