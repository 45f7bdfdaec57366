import GuidedDecoding.Proofs.Calls

set_option autoImplicit false

namespace GuidedDecoding.Masker

variable {α : Type} {m : Masker} {index : Nat} {op : Operation α} {ops : List (Operation α)}
  {step : Masker × Answer α} {steps : List (Masker × Answer α)}

/-- The masker with one of its rows only, as its first. -/
def alone (m : Masker) (index : Nat) : Masker := { m with rows := m.rows[index]?.toList }

/-- The share of a row in an operation. A call without the row keeps the width of its scores. -/
def Operation.only (index : Nat) : Operation α → Operation α
  | .call batch scores =>
    match batch[index]? with
    | some ids => .call [ids] ⟨scores.columns,scores.rows[index]?.toList⟩
    | none => .call [] ⟨scores.columns,[]⟩
  | op => op

/-- What a step shows of a row: its session with the number of tokens taken, and its scores if the
operation was a call over it. -/
def view (index : Nat) : Operation α → Masker × Answer α → Option Row × Option (List (Score α))
  | .call batch _, (m,.scored scores _) =>
    (m.rows[index]?,if index < batch.length then scores[index]? else none)
  | _, (m,_) => (m.rows[index]?,none)

theorem getElem?_alone (m : Masker) (index : Nat) : (m.alone index).rows[0]? = m.rows[index]? := by
  unfold alone
  cases m.rows[index]? <;> rfl

theorem row_alone (m : Masker) (index : Nat) : (m.alone index).row 0 = m.row index := by
  have hgrammar : (m.alone index).grammar = m.grammar := rfl
  simp only [row,getElem?_alone,hgrammar]

theorem alone_eq_of_rows {m' : Masker} (hsetup : m.SameSetup m')
    (hrows : m'.rows[index]? = m.rows[index]?) : m'.alone index = m.alone index := by
  unfold alone
  rw [hrows,hsetup]

theorem putRow_alone {m' : Masker} {row : Row} (hsetup : m.SameSetup m')
    (hrow : m'.rows[index]? = some row) : (m.alone index).putRow 0 row = m'.alone index := by
  have hrows : (if 0 < (m.rows[index]?).toList.length then (m.rows[index]?).toList.set 0 row
      else (m.rows[index]?).toList ++ [row]) = [row] := by
    cases m.rows[index]? <;> rfl
  unfold alone putRow
  simp only [hrows,hrow,Option.toList_some]
  rw [hsetup]

theorem perform_only (h : m.perform op = .ok step) (hquiet : step.2.fault? = none) (index : Nat) :
    ∃ answer, (m.alone index).perform (op.only index) = .ok (step.1.alone index,answer) ∧
      answer.fault? = none ∧
      view 0 (op.only index) (step.1.alone index,answer) = view index op step := by
  cases op with
  | call batch scores =>
    cases h
    have hfault : (m.call batch scores).fault = none := hquiet
    have hsetup := m.sameSetup_call batch scores
    cases hids : batch[index]? with
    | none =>
      have hlength := List.getElem?_eq_none_iff.mp hids
      have halone := alone_eq_of_rows hsetup
        (rows_call_of_not_reached (reached_of_absent hids scores))
      cases hwidth : scores.columns with
      | none => simp [call,hwidth] at hfault
      | some width =>
        refine ⟨.scored [] none,?_,rfl,?_⟩
        · rw [halone]
          simp only [Operation.only,hids,hwidth,perform,call,callRows]
        · simp only [Operation.only,hids,view,getElem?_alone,List.length_nil,Nat.lt_irrefl,if_false,
            if_neg (Nat.not_lt.mpr hlength)]
    | some ids =>
      obtain ⟨width,old,before,row,after,hwidth,hold,hbefore,hserve,hrow,hafter⟩ :=
        served_of_call hfault hids
      have hlength := (List.getElem?_eq_some_iff.mp hids).1
      have hsame : m.SameSetup (m.alone index) := rfl
      have hcall : (m.alone index).call [ids] ⟨scores.columns,[before]⟩ = _ :=
        call_single hwidth ((m.row_alone index).trans hold) rfl (hsame.serve_eq.trans hserve)
      rw [putRow_alone hsetup hrow] at hcall
      refine ⟨.scored [after] none,?_,rfl,?_⟩
      · simp only [Operation.only,hids,hbefore,Option.toList_some,perform,hcall]
        rfl
      · simp only [Operation.only,hids,view,getElem?_alone,List.length_singleton,Nat.zero_lt_one,
          hlength,if_true,hafter]
        rfl
  | reset =>
    cases h
    exact ⟨.done,rfl,rfl,rfl⟩
  | render =>
    cases h
    exact ⟨_,rfl,rfl,by simp only [Operation.only,view,getElem?_alone]⟩
  | inspect =>
    cases h
    exact ⟨_,rfl,rfl,by simp only [Operation.only,view,getElem?_alone]⟩
  | allowing valid width =>
    simp only [perform] at h
    cases hmask : Mask.allowing valid.eraseDups width with
    | error f => simp [hmask,Except.map] at h
    | ok mask =>
      simp only [hmask,Except.map,Except.ok.injEq] at h
      subst h
      refine ⟨.mask mask,?_,rfl,?_⟩
      · simp only [Operation.only,perform,hmask,Except.map]
      · simp only [Operation.only,view,getElem?_alone]

theorem performAll_only (h : m.performAll ops = .ok steps)
    (hquiet : ∀ step ∈ steps, step.2.fault? = none) (index : Nat) :
    ∃ solo, (m.alone index).performAll (ops.map (Operation.only index)) = .ok solo ∧
      (∀ step ∈ solo, step.2.fault? = none) ∧
      List.zipWith (view 0) (ops.map (Operation.only index)) solo =
        List.zipWith (view index) ops steps := by
  induction ops generalizing m steps with
  | nil =>
    cases h
    exact ⟨[],rfl,List.forall_mem_nil _,rfl⟩
  | cons op ops ih =>
    obtain ⟨step,rest,rfl,hstep,hrest⟩ := performAll_cons h
    obtain ⟨hfault,hquiet⟩ := List.forall_mem_cons.mp hquiet
    obtain ⟨answer,hanswer,hnone,hview⟩ := perform_only hstep hfault index
    obtain ⟨solo,hsolo,hsilent,hviews⟩ := ih hrest hquiet
    refine ⟨_,performAll_of_cons hanswer hsolo,List.forall_mem_cons.mpr ⟨hnone,hsilent⟩,?_⟩
    rw [List.map_cons,List.zipWith_cons_cons,List.zipWith_cons_cons,hview,hviews]

/-- Rows do not interfere. Over operations that meet no fault, each row has the sessions, the counts
of tokens and the scores that a masker of that row alone has over its share of them, which meets no
fault either; so they are the same in any two runs in which the row's share is the same. -/
theorem rows_independent (h : m.performAll ops = .ok steps)
    (hquiet : ∀ step ∈ steps, step.2.fault? = none) (index : Nat) :
    (∃ solo, (m.alone index).performAll (ops.map (Operation.only index)) = .ok solo ∧
        (∀ step ∈ solo, step.2.fault? = none) ∧
        List.zipWith (view 0) (ops.map (Operation.only index)) solo =
          List.zipWith (view index) ops steps) ∧
      ∀ ops' steps', m.performAll ops' = .ok steps' → (∀ step ∈ steps', step.2.fault? = none) →
        ops'.map (Operation.only index) = ops.map (Operation.only index) →
        List.zipWith (view index) ops' steps' = List.zipWith (view index) ops steps := by
  have hshare := performAll_only h hquiet index
  refine ⟨hshare,fun ops' steps' h' hquiet' hsame => ?_⟩
  obtain ⟨solo,hsolo,_,hviews⟩ := hshare
  obtain ⟨solo',hsolo',_,hviews'⟩ := performAll_only h' hquiet' index
  rw [hsame,hsolo] at hsolo'
  obtain rfl := Except.ok.inj hsolo'
  rw [← hviews,← hviews',hsame]

def pairCalls : List (Operation Nat) :=
  [.call [[7],[7]] ⟨some 2,[[.other 1,.other 1],[.other 5,.other 6]]⟩,
    .call [[7,0],[7,0]] ⟨some 2,[[.other 1,.other 1],[.other 5,.other 6]]⟩]

def mixedCalls : List (Operation Nat) :=
  [.call [[3],[7],[7]] ⟨some 2,[[.other 7,.other 0],[.other 5,.other 6],[.other 2,.other 2]]⟩,
    .call [[3,1],[7,0]] ⟨some 2,[[.other 0,.other 0],[.other 5,.other 6]]⟩]

theorem rows_independent_words :
    ∃ steps steps' solo, wordMasker.performAll pairCalls = .ok steps ∧
      wordMasker.performAll mixedCalls = .ok steps' ∧
      wordMasker.performAll [.call [[7]] ⟨some 2,[[.other 5,.other 6]]⟩,
        .call [[7,0]] ⟨some 2,[[.other 5,.other 6]]⟩] = .ok solo ∧
      List.zipWith (view 1) mixedCalls steps' = List.zipWith (view 1) pairCalls steps ∧
      List.zipWith (view 0) (pairCalls.map (Operation.only 1)) solo =
        List.zipWith (view 1) pairCalls steps := by
  have hpair : wordMasker.performAll pairCalls = .ok _ := rfl
  have hmixed : wordMasker.performAll mixedCalls = .ok _ := rfl
  obtain ⟨⟨solo,hsolo,_,hviews⟩,hsame⟩ := rows_independent hpair (by decide +kernel) 1
  exact ⟨_,_,solo,hpair,hmixed,hsolo,hsame mixedCalls _ hmixed (by decide +kernel) rfl,hviews⟩

end GuidedDecoding.Masker
