import GuidedDecoding.Proofs.Calls

set_option autoImplicit false

namespace GuidedDecoding.Masker

variable {α : Type} {m m' : Masker} {s : Session} {old row : Row} {ids ids' : List Int}
  {scores : Scores α} {calls : List (List Int × Scores α)} {steps : List (Masker × Answer α)}
  {last : Masker × Answer α}

theorem drop_prompt (hgrows : ids <+: ids') (prompt : Nat) :
    ids'.drop prompt = ids.drop prompt ++ ids'.drop (max ids.length prompt) := by
  obtain ⟨more,rfl⟩ := hgrows
  rcases Nat.le_total prompt ids.length with hle | hle
  · rw [Nat.max_eq_left hle,List.drop_left,List.drop_append_of_le_length hle]
  · rw [Nat.max_eq_right hle,List.drop_eq_nil_of_le hle,List.nil_append]

theorem advanceRow_eq :
    m.advanceRow old ids = (row,none) ↔
      m.takeTokens old.session (ids.drop (max (old.processed.getD 0) m.promptLength.toNat)) =
          (row.session,none) ∧
        row.processed = some ids.length := by
  obtain ⟨t,p⟩ := row
  unfold advanceRow freshTokens
  rcases m.takeTokens old.session (ids.drop (max (old.processed.getD 0) m.promptLength.toNat)) with
    ⟨s,_ | f⟩
  · simp only [Prod.mk.injEq,Row.mk.injEq,and_true]
    exact and_congr_right fun _ => eq_comm
  · simp

theorem advanceRow_fresh :
    m.advanceRow ⟨s,none⟩ ids = (row,none) ↔
      m.takeTokens s (ids.drop m.promptLength.toNat) = (row.session,none) ∧
        row.processed = some ids.length := by
  rw [advanceRow_eq,Option.getD_none,Nat.zero_max]

/-- A row that has taken a part of the tokens goes on to where a fresh row comes with all of
them. -/
theorem advanceRow_resume (h : m.advanceRow ⟨s,none⟩ ids = (old,none)) (hgrows : ids <+: ids')
    (h' : m.advanceRow old ids' = (row,none)) : m.advanceRow ⟨s,none⟩ ids' = (row,none) := by
  obtain ⟨htake,hprocessed⟩ := advanceRow_fresh.mp h
  obtain ⟨htake',hprocessed'⟩ := advanceRow_eq.mp h'
  rw [hprocessed,Option.getD_some] at htake'
  refine advanceRow_fresh.mpr ⟨?_,hprocessed'⟩
  rw [drop_prompt hgrows,takeTokens_append htake,htake']

/-- `m.Behind ids m'`: a masker of one row, which is fresh or has taken `ids` as a fresh one
would. -/
structure Behind (m : Masker) (ids : List Int) (m' : Masker) : Prop where
  setup : m.SameSetup m'
  single : m'.rows.length ≤ 1
  row : ∀ {old}, m'.row 0 = .ok old → ∃ s, Session.start m.grammar = .ok s ∧
    (old = ⟨s,none⟩ ∨ m.advanceRow ⟨s,none⟩ ids = (old,none))

theorem behind_fresh (hrows : m.rows = []) (ids : List Int) : m.Behind ids m := by
  refine ⟨rfl,by rw [hrows]; exact Nat.zero_le _,fun hold => ?_⟩
  obtain ⟨s,hs,hnew⟩ := (row_fresh hrows).mp hold
  exact ⟨s,hs,.inl hnew⟩

theorem putRow_single (hsetup : m.SameSetup m') (hsingle : m'.rows.length ≤ 1) (row : Row) :
    m'.putRow 0 row = { m with rows := [row] } := by
  have hrows : (if 0 < m'.rows.length then m'.rows.set 0 row else m'.rows ++ [row]) = [row] := by
    match hm : m'.rows with
    | [] => rfl
    | [_] => rfl
    | _ :: _ :: _ =>
      rw [hm] at hsingle
      simp at hsingle
  unfold putRow
  rw [hrows,hsetup]

theorem Behind.call (h : m.Behind ids m') (hgrows : ids <+: ids')
    (hquiet : (m'.call [ids'] scores).fault = none) :
    ∃ s row width before mask, Session.start m.grammar = .ok s ∧
      m.advanceRow ⟨s,none⟩ ids' = (row,none) ∧ scores.columns = some width ∧
      scores.rows[0]? = some before ∧ m.mask row.session width = .ok mask ∧
      m'.call [ids'] scores =
        ⟨{ m with rows := [row] },scores.rows.set 0 (mask.apply before),none⟩ := by
  have hids : [ids'][0]? = some ids' := rfl
  obtain ⟨width,old,before,row,after,hwidth,hold,hbefore,hserve,_,_⟩ := served_of_call hquiet hids
  have hcall := call_single hwidth hold hbefore hserve
  rw [putRow_single h.setup h.single] at hcall
  rw [h.setup.serve_eq] at hserve
  obtain ⟨hadvanced,mask,hmask,rfl⟩ := serve_eq_ok.mp hserve
  obtain ⟨s,hs,rfl | hold'⟩ := h.row hold
  · exact ⟨s,row,width,before,mask,hs,hadvanced,hwidth,hbefore,hmask,hcall⟩
  · exact ⟨s,row,width,before,mask,hs,advanceRow_resume hold' hgrows hadvanced,hwidth,hbefore,hmask,
      hcall⟩

theorem Behind.next (h : m.Behind ids m') (hgrows : ids <+: ids')
    (hquiet : (m'.call [ids'] scores).fault = none) :
    m.Behind ids' (m'.call [ids'] scores).masker := by
  obtain ⟨s,row,_,_,_,hs,hrow,_,_,_,hcall⟩ := h.call hgrows hquiet
  rw [hcall]
  refine ⟨rfl,Nat.le_refl 1,fun {old} hold => ⟨s,hs,.inr ?_⟩⟩
  obtain rfl := Except.ok.inj hold
  exact hrow

def rowCalls (calls : List (List Int × Scores α)) : List (Operation α) :=
  calls.map fun c => .call [c.1] c.2

theorem Behind.before_last (h : m.Behind ids m')
    (hgrows : (ids :: (calls.map Prod.fst ++ [ids'])).Pairwise (· <+: ·))
    (hsteps : m'.performAll (rowCalls (calls ++ [(ids',scores)])) = .ok steps)
    (hquiet : ∀ step ∈ steps, step.2.fault? = none) :
    ∃ ids₁ m₁ last, steps.getLast? = some last ∧ m.Behind ids₁ m₁ ∧ ids₁ <+: ids' ∧
      m₁.perform (.call [ids'] scores) = .ok last := by
  induction calls generalizing ids m' steps with
  | nil =>
    obtain ⟨last,rest,rfl,hlast,hrest⟩ := performAll_cons hsteps
    cases hrest
    exact ⟨ids,m',last,rfl,h,by simpa using hgrows,hlast⟩
  | cons c calls ih =>
    obtain ⟨step,rest,rfl,hstep,hrest⟩ := performAll_cons hsteps
    cases hstep
    obtain ⟨hhead,htail⟩ := List.forall_mem_cons.mp hquiet
    obtain ⟨hparts,hgrows⟩ := List.pairwise_cons.mp hgrows
    obtain ⟨ids₁,m₁,last,hlast,hend⟩ := ih (h.next (hparts c.1 (by simp)) hhead) hgrows hrest htail
    refine ⟨ids₁,m₁,last,?_,hend⟩
    rw [List.getLast?_cons,hlast,Option.getD_some]

/-- The last of several calls over a growing row does what it would do on a masker that has seen no
call. It leaves the row's session where the tokens behind the prompt lead, and masks by that
session, whatever the calls before it have taken. -/
theorem last_call_of_growing (hrows : m.rows = [])
    (hgrows : (calls.map Prod.fst ++ [ids]).Pairwise (· <+: ·))
    (hsteps : m.performAll (rowCalls (calls ++ [(ids,scores)])) = .ok steps)
    (hquiet : ∀ step ∈ steps, step.2.fault? = none) :
    ∃ last, steps.getLast? = some last ∧ m.perform (.call [ids] scores) = .ok last ∧
      ∃ s row width before mask, Session.start m.grammar = .ok s ∧
        m.takeTokens s (ids.drop m.promptLength.toNat) = (row.session,none) ∧
        row.processed = some ids.length ∧ scores.columns = some width ∧
        scores.rows[0]? = some before ∧ m.mask row.session width = .ok mask ∧
        last = ({ m with rows := [row] },.scored (scores.rows.set 0 (mask.apply before)) none) := by
  have hbegin := behind_fresh hrows []
  have hgrows' : ([] :: (calls.map Prod.fst ++ [ids])).Pairwise (· <+: ·) :=
    List.pairwise_cons.mpr ⟨fun _ _ => List.nil_prefix,hgrows⟩
  obtain ⟨ids₁,m₁,last,hlast,hbehind,hpart,hcall⟩ :=
    hbegin.before_last hgrows' hsteps hquiet
  cases hcall
  have hfault : (m₁.call [ids] scores).fault = none := hquiet _ (List.mem_of_getLast? hlast)
  obtain ⟨s,row,width,before,mask,hs,hrow,hwidth,hbefore,hmask,hend⟩ := hbehind.call hpart hfault
  have hold : m.row 0 = .ok ⟨s,none⟩ := (row_fresh hrows).mpr ⟨s,hs,rfl⟩
  have hserve := serve_eq_ok.mpr ⟨hrow,mask,hmask,(rfl : mask.apply before = _)⟩
  have hfresh := call_single hwidth hold hbefore hserve
  rw [putRow_single hbegin.setup hbegin.single] at hfresh
  obtain ⟨htake,hprocessed⟩ := advanceRow_fresh.mp hrow
  refine ⟨_,hlast,?_,s,row,width,before,mask,hs,htake,hprocessed,hwidth,hbefore,hmask,?_⟩
  · simp only [perform,hend,hfresh]
  · rw [hend]

def wordScores : Scores Nat := ⟨some 3,[[.other 1,.other 1,.other 1]]⟩

theorem last_call_of_growing_words :
    ∃ steps last, wordMasker.performAll (rowCalls ([([],wordScores),([7,1],wordScores),
        ([7,1,0,2],wordScores)] ++ [([7,1,0,2,1,0],wordScores)])) = .ok steps ∧
      steps.getLast? = some last ∧
      wordMasker.perform (.call [[7,1,0,2,1,0]] wordScores) = .ok last := by
  have hsteps : wordMasker.performAll (rowCalls ([([],wordScores),([7,1],wordScores),
      ([7,1,0,2],wordScores)] ++ [([7,1,0,2,1,0],wordScores)])) = .ok _ := rfl
  obtain ⟨last,hlast,hfresh,_⟩ :=
    last_call_of_growing rfl (by decide) hsteps (by decide +kernel)
  exact ⟨_,last,hsteps,hlast,hfresh⟩

end GuidedDecoding.Masker
