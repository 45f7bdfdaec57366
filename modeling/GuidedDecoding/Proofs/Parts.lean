import GuidedDecoding.Proofs.Pause

set_option autoImplicit false

namespace GuidedDecoding.Grammar

variable {w : Bytes} {c : Checkpoint}

theorem Fed.sequence {keep : Keep} {first second : Grammar}
    (h : (Grammar.sequence keep first second).Fed w c) :
    (∃ inner, c = .inFirst inner ∧ first.Fed w inner) ∨
      ∃ inner a v, c = .inSecond inner a ∧ second.Fed v inner := by
  induction h with
  | start => exact .inl ⟨_,rfl,.start⟩
  | feed _ ha ih =>
    obtain ⟨inner,rfl,hinner⟩ | ⟨inner,a,v,rfl,hinner⟩ := ih
    · obtain ⟨c₁,hf,rfl⟩ | ⟨a,rest,c₂,_,hb,rfl⟩ := advance_inFirst_incomplete ha
      · exact .inl ⟨c₁,rfl,hinner.feed hf⟩
      · exact .inr ⟨c₂,a,_,rfl,Fed.start.feed hb⟩
    · obtain ⟨c₂,hb,rfl⟩ := Keep.proceed_incomplete ha
      exact .inr ⟨c₂,a,_,rfl,hinner.feed hb⟩

theorem Fed.choice {first : Grammar} {others : List Grammar}
    (h : (Grammar.choice first others).Fed w c) :
    ∃ slots fallback leftover, c = .choice slots fallback leftover ∧
      ∀ (i : Nat) (g : Grammar) (inner : Checkpoint),
        (first :: others)[i]? = some g → slots[i]? = some (some inner) → g.Fed w inner := by
  induction h with
  | start =>
    refine ⟨_,_,_,initial_choice first others,fun i g inner hg hinner => ?_⟩
    obtain rfl := eq_initial_of_initialSlots hg hinner
    exact .start
  | feed _ ha ih =>
    obtain ⟨slots,fallback,leftover,rfl,hslots⟩ := ih
    rw [advance_choice] at ha
    obtain ⟨_,_,rfl,_⟩ := Choice.settle_incomplete ha
    refine ⟨_,_,_,rfl,fun i g inner hg hinner => ?_⟩
    obtain ⟨c,required,hc,ha⟩ := incomplete_of_nextSlot hg hinner
    exact (hslots i g c hg hc).feed ha

theorem fed_of_rounds {item : Grammar} {bounds : Bounds} {later inProgress : Bool}
    {current c : Checkpoint} {outputs : List Value} {data : Bytes} {result : Attempt}
    {required : Requirement}
    (h : Repetition.Rounds item.toItem bounds later current outputs inProgress data result)
    (hcurrent : ∃ v, item.Fed v current) (hresult : result = .ok (.incomplete c required)) :
    ∃ current' outputs' inProgress' v, c = .repetition current' outputs' inProgress' ∧
      item.Fed v current' := by
  induction h with
  | stop _ _ => cases hresult
  | fail _ _ => cases hresult
  | fault _ => cases hresult
  | inside ha =>
    cases hresult
    obtain ⟨v,hv⟩ := hcurrent
    exact ⟨_,_,_,_,rfl,hv.feed ha⟩
  | ceiling _ _ => cases hresult
  | between _ _ =>
    obtain ⟨rfl,_⟩ := Repetition.pause_incomplete hresult
    exact ⟨_,_,_,_,rfl,.start⟩
  | stall _ _ _ _ _ => cases hresult
  | short _ _ _ _ _ => cases hresult
  | next _ _ _ _ _ ih => exact ih ⟨_,.start⟩ hresult

theorem Fed.repetition {item : Grammar} {bounds : Bounds}
    (h : (Grammar.repetition item bounds).Fed w c) :
    ∃ current outputs inProgress v, c = .repetition current outputs inProgress ∧
      item.Fed v current := by
  induction h with
  | start => exact ⟨_,_,_,_,rfl,.start⟩
  | feed hfed ha ih =>
    obtain ⟨current,outputs,inProgress,v,rfl,hv⟩ := ih
    obtain ⟨_,_,_,hc,_,_,_,_,hrounds⟩ := hfed.ready.rounds ha
    cases hc
    exact fed_of_rounds hrounds ⟨v,hv⟩ rfl

theorem Fed.mapped {body : Grammar} {t : Transform} (h : (Grammar.mapped body t).Fed w c) :
    body.Fed w c := by
  induction h with
  | start => exact .start
  | feed _ ha ih => exact ih.feed (Transform.on_incomplete ha)

end GuidedDecoding.Grammar
