import GuidedDecoding.Masker.Operation
import GuidedDecoding.Proofs.Generation

/-!
What a call does for one row, whether or not it fails. A call works through the rows in order, so it
gets to a row once it has served those before it. There it takes the tokens that are new, starting
from the row's own session, and masks the row's own scores; what it does elsewhere leaves both as
they were.
-/

set_option autoImplicit false

namespace GuidedDecoding.Masker

variable {α : Type} {m : Masker} {width index : Nat} {ids : List Int} {batch : List (List Int)}
  {scores : List (List (Score α))} {old row : Row} {before after : List (Score α)}
  {op : Operation α}
  {ops : List (Operation α)} {steps : List (Masker × Answer α)}

theorem row_fresh (hrows : m.rows = []) :
    m.row index = .ok old ↔ ∃ s, Session.start m.grammar = .ok s ∧ old = ⟨s,none⟩ := by
  simp only [row,hrows,List.getElem?_nil]
  cases Session.start m.grammar with
  | error f => simp [Except.map]
  | ok s => simp [Except.map,eq_comm]

theorem takeTokens_append {s s' : Session} (h : m.takeTokens s ids = (s',none)) (ids' : List Int) :
    m.takeTokens s (ids ++ ids') = m.takeTokens s' ids' := by
  induction ids generalizing s with
  | nil =>
    cases h
    rfl
  | cons id ids ih =>
    simp only [takeTokens,List.cons_append] at h ⊢
    cases htake : m.takeToken s id with
    | error f => simp [htake] at h
    | ok next =>
      simp only [htake] at h ⊢
      exact ih h

/-- What a call does for one row by itself: the row with its new tokens taken, and its scores
masked. -/
def serve (m : Masker) (width : Nat) (old : Row) (ids : List Int) (before : List (Score α)) :
    Except Fault (Row × List (Score α)) :=
  match m.advanceRow old ids with
  | (_,some f) => .error f
  | (row,none) => (m.mask row.session width).map fun mask => (row,mask.apply before)

theorem serve_eq_ok :
    m.serve width old ids before = .ok (row,after) ↔
      m.advanceRow old ids = (row,none) ∧
        ∃ mask, m.mask row.session width = .ok mask ∧ after = mask.apply before := by
  unfold serve
  rcases m.advanceRow old ids with ⟨row',_ | f⟩
  · simp only [Prod.mk.injEq,and_true]
    cases hmask : m.mask row'.session width with
    | error f =>
      simp only [Except.map,reduceCtorEq,false_iff,not_and]
      rintro rfl ⟨mask,hm,_⟩
      rw [hmask] at hm
      cases hm
    | ok mask =>
      simp only [Except.map,Except.ok.injEq,Prod.mk.injEq]
      constructor
      · rintro ⟨rfl,rfl⟩
        exact ⟨rfl,mask,hmask,rfl⟩
      · rintro ⟨rfl,mask',hm,rfl⟩
        rw [hmask] at hm
        cases hm
        exact ⟨rfl,rfl⟩
  · simp

theorem SameSetup.serve_eq {m' : Masker} (h : m.SameSetup m') :
    m'.serve width old ids before = m.serve width old ids before := by
  obtain ⟨rows,rfl⟩ : ∃ rows, m' = { m with rows := rows } := ⟨_,h⟩
  have hmask (s : Session) : ({ m with rows := rows } : Masker).mask s width = m.mask s width := rfl
  simp only [serve,advanceRow_rows,hmask]

theorem callRow_cases (m : Masker) (width index : Nat) (ids : List Int)
    (scores : List (List (Score α))) :
    (∃ f, m.row index = .error f ∧ m.callRow width index ids scores = ⟨m,scores,some f⟩) ∨
      (∃ old f, m.row index = .ok old ∧ m.callRow width index ids scores =
        ⟨m.putRow index (m.advanceRow old ids).1,scores,some f⟩) ∨
      ∃ old before row after, m.row index = .ok old ∧ scores[index]? = some before ∧
        m.serve width old ids before = .ok (row,after) ∧
        m.callRow width index ids scores = ⟨m.putRow index row,scores.set index after,none⟩ := by
  unfold callRow
  cases hold : m.row index with
  | error f => exact .inl ⟨f,rfl,rfl⟩
  | ok old =>
    refine .inr ?_
    rcases hadvanced : m.advanceRow old ids with ⟨row,_ | f⟩
    · have hput : (m.putRow index row).mask row.session width = m.mask row.session width := rfl
      simp only [hadvanced,hput]
      cases hmask : m.mask row.session width with
      | error f => exact .inl ⟨old,f,rfl,by rw [hadvanced]⟩
      | ok mask =>
        cases hbefore : scores[index]? with
        | none =>
          simp only [maskRow,hbefore]
          exact .inl ⟨old,_,rfl,by rw [hadvanced]⟩
        | some before =>
          simp only [maskRow,hbefore]
          exact .inr ⟨old,before,row,_,rfl,rfl,serve_eq_ok.mpr ⟨hadvanced,mask,hmask,rfl⟩,rfl⟩
    · simp only [hadvanced]
      exact .inl ⟨old,f,rfl,by rw [hadvanced]⟩

theorem serve_of_callRow (h : (m.callRow width index ids scores).fault = none) :
    ∃ old before row after, m.row index = .ok old ∧ scores[index]? = some before ∧
      m.serve width old ids before = .ok (row,after) ∧
      m.callRow width index ids scores = ⟨m.putRow index row,scores.set index after,none⟩ := by
  obtain ⟨f,_,heq⟩ | ⟨_,f,_,heq⟩ | hserved := callRow_cases m width index ids scores
  · rw [heq] at h
    cases h
  · rw [heq] at h
    cases h
  · exact hserved

theorem callRow_of_serve (hold : m.row index = .ok old) (hbefore : scores[index]? = some before)
    (h : m.serve width old ids before = .ok (row,after)) :
    m.callRow width index ids scores = ⟨m.putRow index row,scores.set index after,none⟩ := by
  obtain ⟨hadvanced,mask,hmask,rfl⟩ := serve_eq_ok.mp h
  have hput : (m.putRow index row).mask row.session width = .ok mask := hmask
  simp only [callRow,hold,hadvanced,hput,maskRow,hbefore]

theorem masker_callRow (hold : m.row index = .ok old) :
    (m.callRow width index ids scores).masker = m.putRow index (m.advanceRow old ids).1 := by
  obtain ⟨f,herror,_⟩ | ⟨_,f,hold',heq⟩ | ⟨_,_,row,_,hold',_,hserve,heq⟩ :=
    callRow_cases m width index ids scores
  · rw [hold] at herror
    cases herror
  · rw [hold] at hold'
    cases hold'
    rw [heq]
  · rw [hold] at hold'
    cases hold'
    rw [heq,(serve_eq_ok.mp hserve).1]

/-- What work on the rows from `index` on, up to `stop`, leaves alone. -/
structure Spares (m : Masker) (index stop : Nat) (scores : List (List (Score α)))
    (result : Result α) :
    Prop where
  setup : m.SameSetup result.masker
  rows : ∀ {j}, j < index ∨ stop ≤ j → result.masker.rows[j]? = m.rows[j]?
  scores : ∀ {j}, j < index ∨ stop ≤ j → result.scores[j]? = scores[j]?
  seen : result.fault = none → stop ≤ result.masker.rows.length

theorem callRow_spares (width : Nat) (ids : List Int) (scores : List (List (Score α)))
    (hindex : index ≤ m.rows.length) :
    m.Spares index (index + 1) scores (m.callRow width index ids scores) := by
  have hput (row : Row) {j : Nat} (hj : j < index ∨ index + 1 ≤ j) :
      (m.putRow index row).rows[j]? = m.rows[j]? := by
    rw [getElem?_putRow hindex,if_neg (by omega)]
  obtain ⟨f,_,heq⟩ | ⟨old,f,_,heq⟩ | ⟨_,_,row,after,_,_,_,heq⟩ :=
    callRow_cases m width index ids scores
  · rw [heq]
    exact ⟨rfl,fun _ => rfl,fun _ => rfl,nofun⟩
  · rw [heq]
    exact ⟨rfl,hput _,fun _ => rfl,nofun⟩
  · rw [heq]
    refine ⟨rfl,hput row,fun hj => List.getElem?_set_ne (by omega),fun _ => ?_⟩
    rw [length_putRow hindex]
    omega

theorem callRows_spares (width : Nat) (scores : List (List (Score α))) (batch : List (List Int))
    (hindex : index ≤ m.rows.length) :
    m.Spares index (index + batch.length) scores (m.callRows width index scores batch) := by
  induction batch generalizing m index scores with
  | nil => exact ⟨rfl,fun _ => rfl,fun _ => rfl,fun _ => hindex⟩
  | cons ids batch ih =>
    have hhead := callRow_spares width ids scores hindex
    have hlength : index + (ids :: batch).length = index + 1 + batch.length := by
      rw [List.length_cons]
      omega
    unfold callRows
    simp only
    split
    · rename_i f hf
      refine ⟨hhead.setup,fun hj => hhead.rows (by omega),fun hj => hhead.scores (by omega),?_⟩
      rw [hf]
      nofun
    · rename_i hf
      have htail := ih (m.callRow width index ids scores).scores (hhead.seen hf)
      rw [hlength]
      exact ⟨hhead.setup.trans htail.setup,
        fun hj => (htail.rows (by omega)).trans (hhead.rows (by omega)),
        fun hj => (htail.scores (by omega)).trans (hhead.scores (by omega)),htail.seen⟩

theorem callRows_append (m : Masker) (width index : Nat) (scores : List (List (Score α)))
    (batch batch' : List (List Int)) :
    m.callRows width index scores (batch ++ batch') =
      match (m.callRows width index scores batch).fault with
      | some _ => m.callRows width index scores batch
      | none => (m.callRows width index scores batch).masker.callRows width (index + batch.length)
          (m.callRows width index scores batch).scores batch' := by
  induction batch generalizing m index scores with
  | nil => rfl
  | cons ids batch ih =>
    simp only [List.cons_append,callRows,List.length_cons]
    cases hf : (m.callRow width index ids scores).fault with
    | some f => simp only [hf]
    | none =>
      simp only
      rw [ih,Nat.add_assoc,Nat.add_comm 1]

theorem callRows_cons_head (width : Nat) (ids : List Int) (scores : List (List (Score α)))
    (batch : List (List Int)) (hindex : index ≤ m.rows.length) :
    (m.callRows width index scores (ids :: batch)).masker.rows[index]? =
        (m.callRow width index ids scores).masker.rows[index]? ∧
      (m.callRows width index scores (ids :: batch)).scores[index]? =
        (m.callRow width index ids scores).scores[index]? ∧
      ((m.callRows width index scores (ids :: batch)).fault = none →
        (m.callRow width index ids scores).fault = none) := by
  have hhead := callRow_spares width ids scores hindex
  unfold callRows
  simp only
  split
  · exact ⟨rfl,rfl,id⟩
  · rename_i hf
    have htail := callRows_spares width (m.callRow width index ids scores).scores batch
      (hhead.seen hf)
    exact ⟨htail.rows (by omega),htail.scores (by omega),fun _ => hf⟩

theorem callRows_split (m : Masker) (width : Nat) (scores : List (List (Score α)))
    (hids : batch[index]? = some ids) :
    m.callRows width 0 scores batch =
        (match (m.callRows width 0 scores (batch.take index)).fault with
        | some _ => m.callRows width 0 scores (batch.take index)
        | none => (m.callRows width 0 scores (batch.take index)).masker.callRows width index
            (m.callRows width 0 scores (batch.take index)).scores
            (ids :: batch.drop (index + 1))) ∧
      m.Spares 0 index scores (m.callRows width 0 scores (batch.take index)) := by
  obtain ⟨hlt,rfl⟩ := List.getElem?_eq_some_iff.mp hids
  have hlength : 0 + (batch.take index).length = index := by
    rw [List.length_take]
    omega
  have hspares := callRows_spares width scores (batch.take index) (Nat.zero_le m.rows.length)
  have happend := m.callRows_append width 0 scores (batch.take index)
    (batch[index] :: batch.drop (index + 1))
  rw [hlength] at hspares happend
  rw [← List.drop_eq_getElem_cons hlt,List.take_append_drop] at happend
  rw [← List.drop_eq_getElem_cons hlt]
  exact ⟨happend,hspares⟩

/-- The row that a call gets to and the tokens that it brings, if it gets there: the scores have
columns, the rows before it are served, and the row can be made. -/
def reached (m : Masker) (index : Nat) (batch : List (List Int)) (scores : Scores α) :
    Option (Row × List Int) :=
  match scores.columns, batch[index]?, m.row index with
  | some width, some ids, .ok old =>
    if (m.callRows width 0 scores.rows (batch.take index)).fault.isNone then some (old,ids)
    else none
  | _, _, _ => none

theorem reached_of_absent (hids : batch[index]? = none) (scores : Scores α) :
    m.reached index batch scores = none := by
  unfold reached
  split
  · rename_i hids' _
    rw [hids] at hids'
    cases hids'
  · rfl

theorem sameSetup_call (m : Masker) (batch : List (List Int)) (scores : Scores α) :
    m.SameSetup (m.call batch scores).masker := by
  unfold call
  cases scores.columns with
  | none => rfl
  | some width => exact (callRows_spares _ _ _ (Nat.zero_le _)).setup

theorem rows_call_of_reached {scores : Scores α}
    (h : m.reached index batch scores = some (old,ids)) :
    batch[index]? = some ids ∧ m.row index = .ok old ∧
      (m.call batch scores).masker.rows[index]? = some (m.advanceRow old ids).1 := by
  unfold reached at h
  split at h
  · rename_i width ids' old' hwidth hids hold
    split at h
    · rename_i hf
      cases h
      refine ⟨hids,hold,?_⟩
      have hnone := Option.isNone_iff_eq_none.mp hf
      obtain ⟨hsplit,hspares⟩ := m.callRows_split width scores.rows hids
      simp only [hnone] at hsplit
      have hstart := hspares.setup.row_eq (hspares.rows (j := index) (by omega))
      have hseen := hspares.seen hnone
      obtain ⟨rows,hsetup⟩ : ∃ rows, (m.callRows width 0 scores.rows (batch.take index)).masker =
        { m with rows := rows } := ⟨_,hspares.setup⟩
      simp only [call,hwidth]
      rw [hsplit,(callRows_cons_head _ _ _ _ hseen).1,masker_callRow (hstart.trans hold),
        getElem?_putRow hseen,if_pos rfl,hsetup,advanceRow_rows]
    · cases h
  · cases h

theorem rows_call_of_not_reached {scores : Scores α} (h : m.reached index batch scores = none) :
    (m.call batch scores).masker.rows[index]? = m.rows[index]? := by
  unfold call
  cases hwidth : scores.columns with
  | none => rfl
  | some width =>
    simp only
    cases hids : batch[index]? with
    | none =>
      have hlt := List.getElem?_eq_none_iff.mp hids
      exact (callRows_spares _ _ _ (Nat.zero_le _)).rows (by omega)
    | some ids =>
      obtain ⟨hsplit,hspares⟩ := m.callRows_split width scores.rows hids
      rw [hsplit]
      cases hf : (m.callRows width 0 scores.rows (batch.take index)).fault with
      | some f => exact hspares.rows (by omega)
      | none =>
        have hseen := hspares.seen hf
        have hrows := hspares.rows (j := index) (by omega)
        have hstart := hspares.setup.row_eq hrows
        simp only
        rw [(callRows_cons_head _ _ _ _ hseen).1,← hrows]
        cases hold : m.row index with
        | ok old => simp [reached,hwidth,hids,hold,hf] at h
        | error f => simp only [callRow,hstart.trans hold]

theorem served_of_call {scores : Scores α} (h : (m.call batch scores).fault = none)
    (hids : batch[index]? = some ids) :
    ∃ width old before row after, scores.columns = some width ∧ m.row index = .ok old ∧
      scores.rows[index]? = some before ∧ m.serve width old ids before = .ok (row,after) ∧
      (m.call batch scores).masker.rows[index]? = some row ∧
      (m.call batch scores).scores[index]? = some after := by
  unfold call at h ⊢
  cases hwidth : scores.columns with
  | none => simp [hwidth] at h
  | some width =>
    simp only [hwidth] at h ⊢
    obtain ⟨hsplit,hspares⟩ := m.callRows_split width scores.rows hids
    rw [hsplit] at h ⊢
    cases hf : (m.callRows width 0 scores.rows (batch.take index)).fault with
    | some f =>
      simp only [hf] at h
      cases h
    | none =>
      simp only [hf] at h ⊢
      have hseen := hspares.seen hf
      obtain ⟨hrow,hafter,hquiet⟩ := callRows_cons_head width ids
        (m.callRows width 0 scores.rows (batch.take index)).scores (batch.drop (index + 1)) hseen
      obtain ⟨old,before,row,after,hold,hbefore,hserve,heq⟩ := serve_of_callRow (hquiet h)
      rw [hspares.setup.row_eq (hspares.rows (by omega))] at hold
      rw [hspares.setup.serve_eq] at hserve
      rw [heq] at hrow hafter
      refine ⟨width,old,before,row,after,rfl,hold,(hspares.scores (by omega)).symm.trans hbefore,
        hserve,hrow.trans ?_,hafter.trans ?_⟩
      · rw [getElem?_putRow hseen,if_pos rfl]
      · rw [List.getElem?_set_self (List.getElem?_eq_some_iff.mp hbefore).1]

theorem call_single {scores : Scores α} (hwidth : scores.columns = some width)
    (hold : m.row 0 = .ok old) (hbefore : scores.rows[0]? = some before)
    (hserve : m.serve width old ids before = .ok (row,after)) :
    m.call [ids] scores = ⟨m.putRow 0 row,scores.rows.set 0 after,none⟩ := by
  simp only [call,hwidth,callRows,callRow_of_serve hold hbefore hserve]

def Answer.fault? : Answer α → Option Fault
  | .scored _ fault => fault
  | _ => none

theorem performAll_cons (h : m.performAll (op :: ops) = .ok steps) :
    ∃ step rest, steps = step :: rest ∧ m.perform op = .ok step ∧
      step.1.performAll ops = .ok rest := by
  unfold performAll at h
  cases hstep : m.perform op with
  | error f => simp [hstep] at h
  | ok step =>
    cases hrest : step.1.performAll ops with
    | error f => simp [hstep,hrest,Except.map] at h
    | ok rest =>
      simp only [hstep,hrest,Except.map,Except.ok.injEq] at h
      exact ⟨step,rest,h.symm,rfl,hrest⟩

theorem performAll_of_cons {step : Masker × Answer α} {rest : List (Masker × Answer α)}
    (hstep : m.perform op = .ok step) (hrest : step.1.performAll ops = .ok rest) :
    m.performAll (op :: ops) = .ok (step :: rest) := by
  simp only [performAll,hstep,hrest,Except.map]

end GuidedDecoding.Masker
