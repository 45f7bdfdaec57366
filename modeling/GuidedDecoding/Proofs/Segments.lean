import GuidedDecoding.Proofs.Completion
import GuidedDecoding.Proofs.Parts

set_option autoImplicit false

namespace GuidedDecoding.Grammar

variable {w : Bytes} {inner current : Checkpoint} {a : Value}

theorem Fed.inFirst {keep : Keep} {first second : Grammar}
    (h : (Grammar.sequence keep first second).Fed w (.inFirst inner)) : first.Fed w inner := by
  obtain ⟨_,hc,hinner⟩ | ⟨_,_,_,hc,_⟩ := h.sequence <;> cases hc
  exact hinner

theorem Fed.inSecond {keep : Keep} {first second : Grammar}
    (h : (Grammar.sequence keep first second).Fed w (.inSecond inner a)) :
    ∃ u v, w = u ++ v ∧ first.Derives u a ∧ second.Fed v inner := by
  generalize hc : Checkpoint.inSecond inner a = c at h
  induction h generalizing inner a with
  | start => cases hc
  | feed hfed ha ih =>
    subst hc
    rcases hfed.ready.sequence with ⟨c₁,rfl,_⟩ | ⟨c₂,a₂,rfl,_⟩
    · obtain ⟨_,_,hc⟩ | ⟨x,rest,_,hf,hs,hc⟩ := advance_inFirst_incomplete ha <;> cases hc
      have hfirst := hfed.inFirst
      obtain ⟨u,hu,hderives⟩ := hfirst.derives (hfirst.ready.completes_of_finished hf)
      exact ⟨u,rest,hu,hderives,Fed.start.feed hs⟩
    · obtain ⟨_,hs,hc⟩ := Keep.proceed_incomplete ha
      cases hc
      obtain ⟨u,v,rfl,hderives,hv⟩ := ih rfl
      exact ⟨u,_,List.append_assoc _ _ _,hderives,hv.feed hs⟩

/-- `w` is the words of finished items, which yield `outputs`, and what the next one has been
fed. -/
structure Segmented (item : Grammar) (w : Bytes) (outputs : List Value) (current : Checkpoint)
    (words : List (Bytes × Value)) (v : Bytes) : Prop where
  bytes : w = words.flatMap Prod.fst ++ v
  derives : ∀ word ∈ words, item.Derives word.1 word.2
  outputs : words.map Prod.snd = outputs
  fed : item.Fed v current

variable {item : Grammar} {bounds : Bounds} {outputs : List Value} {words : List (Bytes × Value)}
  {v data rest : Bytes} {x : Value}

theorem Segmented.push (h : item.Segmented w outputs current words v)
    (ha : item.advance current data = .ok (.finished x rest)) :
    ∃ u w', w ++ data = w' ++ rest ∧
      item.Segmented w' (outputs ++ [x]) item.initial (words ++ [(u,x)]) [] := by
  obtain ⟨u,hu,hderives⟩ := h.fed.derives (h.fed.ready.completes_of_finished ha)
  refine ⟨u,words.flatMap Prod.fst ++ u,?_,?_,?_,?_,.start⟩
  · rw [h.bytes,List.append_assoc,hu,List.append_assoc]
  · simp
  · intro word hword
    rcases List.mem_append.mp hword with hword | hword
    · exact h.derives word hword
    · obtain rfl := List.mem_singleton.mp hword
      exact hderives
  · simp [h.outputs]

/-- How a repetition has paused that has fed `v` to its item: between two items, where it demands
nothing if it may end, or inside one, with the item's own demand. -/
inductive Pauses (item : Grammar) (bounds : Bounds) (outputs : List Value) (v : Bytes)
    (current : Checkpoint) (required : Requirement) : (inProgress : Bool) → Prop where
  | between :
      v = [] → (bounds.contains outputs.length = true → required = .empty) →
      Pauses item bounds outputs v current required false
  | inside {c : Checkpoint} {before data : Bytes} :
      item.Fed before c → item.advance c data = .ok (.incomplete current required) →
      v = before ++ data → Pauses item bounds outputs v current required true

theorem segmented_of_rounds {later inProgress inProgress' : Bool} {c' : Checkpoint}
    {outputs' : List Value} {result : Attempt} {required : Requirement}
    (h : Repetition.Rounds item.toItem bounds later current outputs inProgress data result)
    (hcurrent : item.Segmented w outputs current words v)
    (hresult : result = .ok (.incomplete (.repetition c' outputs' inProgress') required)) :
    ∃ words' v', item.Segmented (w ++ data) outputs' c' words' v' ∧
      item.Pauses bounds outputs' v' c' required inProgress' := by
  induction h generalizing w words v with
  | stop _ _ => cases hresult
  | fail _ _ => cases hresult
  | fault _ => cases hresult
  | inside ha =>
    cases hresult
    refine ⟨words,_,⟨?_,hcurrent.derives,hcurrent.outputs,hcurrent.fed.feed ha⟩,
      .inside hcurrent.fed ha rfl⟩
    rw [hcurrent.bytes,List.append_assoc]
  | ceiling _ _ => cases hresult
  | between ha _ =>
    obtain ⟨hc,hrequired⟩ := Repetition.pause_incomplete hresult
    cases hc
    obtain ⟨u,w',hw,hnext⟩ := hcurrent.push ha
    rw [hw,List.append_nil]
    refine ⟨_,[],hnext,.between rfl fun hcount => ?_⟩
    rcases hrequired with ⟨_,hempty⟩ | ⟨hshort,_⟩
    · exact hempty
    · rw [hcount] at hshort
      cases hshort
  | stall _ _ _ _ _ => cases hresult
  | short _ _ _ _ _ => cases hresult
  | next ha _ _ _ _ ih =>
    obtain ⟨u,w',hw,hnext⟩ := hcurrent.push ha
    rw [hw]
    exact ih hnext hresult

theorem Fed.segmented {inProgress : Bool}
    (h : (Grammar.repetition item bounds).Fed w (.repetition current outputs inProgress)) :
    ∃ words v, item.Segmented w outputs current words v := by
  generalize hc : Checkpoint.repetition current outputs inProgress = c at h
  induction h generalizing current outputs inProgress with
  | start =>
    cases hc
    exact ⟨[],[],rfl,by simp,rfl,.start⟩
  | feed hfed ha ih =>
    subst hc
    obtain ⟨current₀,outputs₀,inProgress₀,rfl,_,_,_,_,hrounds⟩ := hfed.ready.rounds ha
    obtain ⟨words,v,hsegmented⟩ := ih rfl
    obtain ⟨words',v',hsegmented',_⟩ := segmented_of_rounds hrounds hsegmented rfl
    exact ⟨words',v',hsegmented'⟩

theorem Fed.segmented_of_incomplete {c : Checkpoint} {inProgress : Bool} {required : Requirement}
    (h : (Grammar.repetition item bounds).Fed w c)
    (ha : (Grammar.repetition item bounds).advance c data =
      .ok (.incomplete (.repetition current outputs inProgress) required)) :
    ∃ words v, item.Segmented (w ++ data) outputs current words v ∧
      item.Pauses bounds outputs v current required inProgress := by
  obtain ⟨current₀,outputs₀,inProgress₀,rfl,_,_,_,_,hrounds⟩ := h.ready.rounds ha
  obtain ⟨words,v,hsegmented⟩ := h.segmented
  exact segmented_of_rounds hrounds hsegmented rfl

theorem Fed.slot {first g : Grammar} {others : List Grammar} {slots : List (Option Checkpoint)}
    {fallback : Option Branch} {leftover : Bytes} {i : Nat}
    (h : (Grammar.choice first others).Fed w (.choice slots fallback leftover))
    (hg : (first :: others)[i]? = some g) (hinner : slots[i]? = some (some inner)) :
    g.Fed w inner := by
  obtain ⟨_,_,_,hc,hslots⟩ := h.choice
  cases hc
  exact hslots i g inner hg hinner

end GuidedDecoding.Grammar
