import GuidedDecoding.Advance

/-!
The rounds of a repetition as a relation. `Rounds` says in nine rules how one advance of a
repetition can run, and `rounds_iff` that it is the same as `Repetition.advance`, so what holds of a
whole run is proved by induction on its rounds.
-/

set_option autoImplicit false

namespace GuidedDecoding

theorem Bounds.contains_iff {b : Bounds} {n : Nat} :
    b.contains n = true ↔ b.min ≤ n ∧ ∀ m ∈ b.max, n ≤ m := by
  cases hm : b.max <;> simp [contains,hm]

theorem Bounds.isCeiling_eq_false {b : Bounds} {n : Nat} :
    b.isCeiling n = false ↔ ∀ m ∈ b.max, n < m := by
  cases hm : b.max <;> simp [isCeiling,hm]

theorem Bounds.contains_of_lt {b : Bounds} {n : Nat} (h : n < b.min) : b.contains n = false := by
  rw [← Bool.not_eq_true,contains_iff]
  omega

theorem Bounds.isCeiling_of_lt {b : Bounds} {n : Nat} (h : n < b.min) : b.isCeiling n = false :=
  isCeiling_eq_false.mpr fun m hm => Nat.lt_of_lt_of_le h (b.min_le_max m hm)

namespace Repetition

/-- Whether an item that has finished before `rest` counts as no progress. The first round of an
advance may resume an item, which always counts as progress. -/
def stalls (later inProgress : Bool) (data rest : Bytes) : Bool :=
  if later then data.length ≤ rest.length else !inProgress && rest.length == data.length

/-- What a repetition comes to from one round on, the first of an advance or a later one. -/
inductive Rounds (item : Item) (bounds : Bounds) :
    (later : Bool) → (current : Checkpoint) → (outputs : List Value) → (inProgress : Bool) →
      (data : Bytes) → Attempt → Prop where
  | stop {later current outputs inProgress data e} :
      item.advance current data = .error (.parse e) → mayEnd bounds outputs inProgress = true →
      Rounds item bounds later current outputs inProgress data
        (.ok (.finished (.list outputs) data))
  | fail {later current outputs inProgress data e} :
      item.advance current data = .error (.parse e) → mayEnd bounds outputs inProgress = false →
      Rounds item bounds later current outputs inProgress data (.error (.parse e))
  | fault {later current outputs inProgress data f} :
      item.advance current data = .error (.fault f) →
      Rounds item bounds later current outputs inProgress data (.error (.fault f))
  | inside {later current outputs inProgress data c required} :
      item.advance current data = .ok (.incomplete c required) →
      Rounds item bounds later current outputs inProgress data
        (.ok (.incomplete (.repetition c outputs true) required))
  | ceiling {later current outputs inProgress data rest x} :
      item.advance current data = .ok (.finished x rest) →
      bounds.isCeiling (outputs ++ [x]).length = true →
      Rounds item bounds later current outputs inProgress data
        (.ok (.finished (.list (outputs ++ [x])) rest))
  | between {later current outputs inProgress data x} :
      item.advance current data = .ok (.finished x []) →
      bounds.isCeiling (outputs ++ [x]).length = false →
      Rounds item bounds later current outputs inProgress data (pause item bounds (outputs ++ [x]))
  | stall {later current outputs inProgress data rest x} :
      item.advance current data = .ok (.finished x rest) →
      bounds.isCeiling (outputs ++ [x]).length = false → rest ≠ [] →
      stalls later inProgress data rest = true →
      bounds.contains (outputs ++ [x]).length = true →
      Rounds item bounds later current outputs inProgress data
        (.ok (.finished (.list (outputs ++ [x])) rest))
  | short {later current outputs inProgress data rest x} :
      item.advance current data = .ok (.finished x rest) →
      bounds.isCeiling (outputs ++ [x]).length = false → rest ≠ [] →
      stalls later inProgress data rest = true →
      bounds.contains (outputs ++ [x]).length = false →
      Rounds item bounds later current outputs inProgress data
        (.error (.parse { reason := .emptyRepetition (outputs ++ [x]).length bounds.min }))
  | next {later current outputs inProgress data rest x result} :
      item.advance current data = .ok (.finished x rest) →
      bounds.isCeiling (outputs ++ [x]).length = false → rest ≠ [] →
      stalls later inProgress data rest = false →
      Rounds item bounds true item.initial (outputs ++ [x]) false rest result →
      Rounds item bounds later current outputs inProgress data result

variable {item : Item} {bounds : Bounds} {later : Bool} {current : Checkpoint}
  {outputs : List Value} {inProgress : Bool} {data : Bytes}

def proceed (item : Item) (bounds : Bounds) (later : Bool) (current : Checkpoint)
    (outputs : List Value) (inProgress : Bool) (data : Bytes) : Attempt :=
  match round item bounds (stalls later inProgress data) current outputs inProgress data with
  | .settled result => result
  | .again outputs' rest => run item bounds outputs' rest

theorem run_eq_proceed (item : Item) (bounds : Bounds) (outputs : List Value) (data : Bytes) :
    run item bounds outputs data = proceed item bounds true item.initial outputs false data := by
  rw [run_eq]
  rfl

theorem advance_eq_proceed (h : bounds.max ≠ some 0) :
    advance item bounds current outputs inProgress data =
      proceed item bounds false current outputs inProgress data := by
  simp only [advance,h,if_false]
  rfl

theorem proceed_eq_of_rounds {result : Attempt}
    (h : Rounds item bounds later current outputs inProgress data result) :
    proceed item bounds later current outputs inProgress data = result := by
  induction h with
  | stop ha hend => simp [proceed,round,ha,hend]
  | fail ha hend => simp [proceed,round,ha,hend]
  | fault ha => simp [proceed,round,ha]
  | inside ha => simp [proceed,round,ha]
  | ceiling ha hceil => simp only [proceed,round,afterItem,ha,hceil,if_true]
  | between ha hceil =>
    simp only [proceed,round,afterItem,ha,hceil,List.isEmpty_nil,Bool.false_eq_true,if_false,
      if_true]
  | stall ha hceil hrest hstall hcount =>
    simp only [proceed,round,afterItem,ha,hceil,List.isEmpty_iff,hrest,hstall,hcount,Bool.not_true,
      Bool.false_eq_true,if_false,if_true]
  | short ha hceil hrest hstall hcount =>
    simp only [proceed,round,afterItem,ha,hceil,List.isEmpty_iff,hrest,hstall,hcount,Bool.not_true,
      Bool.false_eq_true,if_false]
  | next ha hceil hrest hstall _ ih =>
    rw [← run_eq_proceed] at ih
    simp only [proceed,round,afterItem,ha,hceil,List.isEmpty_iff,hrest,hstall,ih,Bool.not_false,
      Bool.false_eq_true,if_false,if_true]

theorem rounds_of_settled {result : Attempt}
    (h : round item bounds (stalls later inProgress data) current outputs inProgress data =
      .settled result) :
    Rounds item bounds later current outputs inProgress data result := by
  cases ha : item.advance current data with
  | error e =>
    cases e with
    | parse e =>
      cases hend : mayEnd bounds outputs inProgress with
      | true =>
        simp only [round,ha,hend,if_true,Round.settled.injEq] at h
        exact h ▸ .stop ha hend
      | false =>
        simp only [round,ha,hend,Bool.false_eq_true,if_false,Round.settled.injEq] at h
        exact h ▸ .fail ha hend
    | fault f =>
      simp only [round,ha,Round.settled.injEq] at h
      exact h ▸ .fault ha
  | ok outcome =>
    cases outcome with
    | incomplete c required =>
      simp only [round,ha,Round.settled.injEq] at h
      exact h ▸ .inside ha
    | finished x rest =>
      simp only [round,ha,afterItem] at h
      split at h
      · rename_i hceil
        cases h
        exact .ceiling ha hceil
      · rename_i hceil
        split at h
        · rename_i hrest
          cases h
          obtain rfl := List.isEmpty_iff.mp hrest
          exact .between ha (by simpa using hceil)
        · rename_i hrest
          have hne : rest ≠ [] := fun he => hrest (List.isEmpty_iff.mpr he)
          split at h
          · cases h
          · rename_i hstall
            split at h
            · rename_i hcount
              cases h
              exact .stall ha (by simpa using hceil) hne (by simpa using hstall) hcount
            · rename_i hcount
              cases h
              exact .short ha (by simpa using hceil) hne (by simpa using hstall)
                (by simpa using hcount)

theorem finished_of_again {outputs' : List Value} {rest : Bytes}
    (h : round item bounds (stalls later inProgress data) current outputs inProgress data =
      .again outputs' rest) :
    ∃ x, item.advance current data = .ok (.finished x rest) ∧ outputs' = outputs ++ [x] ∧
      bounds.isCeiling (outputs ++ [x]).length = false ∧ rest ≠ [] ∧
      stalls later inProgress data rest = false := by
  cases ha : item.advance current data with
  | error e =>
    cases e with
    | parse e =>
      simp only [round,ha] at h
      split at h <;> cases h
    | fault f => simp [round,ha] at h
  | ok outcome =>
    cases outcome with
    | incomplete c required => simp [round,ha] at h
    | finished x rest' =>
      simp only [round,ha,afterItem] at h
      split at h
      · cases h
      · rename_i hceil
        split at h
        · cases h
        · rename_i hrest
          split at h
          · rename_i hstall
            cases h
            exact ⟨x,rfl,rfl,by simpa using hceil,fun he => hrest (List.isEmpty_iff.mpr he),
              by simpa using hstall⟩
          · split at h <;> cases h

theorem rounds_run (item : Item) (bounds : Bounds) (outputs : List Value) (data : Bytes) :
    Rounds item bounds true item.initial outputs false data (run item bounds outputs data) := by
  fun_induction run item bounds outputs data with
  | case1 outputs data result h =>
    have hround : round item bounds (stalls true false data) item.initial outputs false data =
      .settled result := h
    exact rounds_of_settled hround
  | case2 outputs data outputs' rest h ih =>
    have hround : round item bounds (stalls true false data) item.initial outputs false data =
      .again outputs' rest := h
    obtain ⟨x,ha,rfl,hceil,hrest,hstall⟩ := finished_of_again hround
    exact .next ha hceil hrest hstall ih

/-- A repetition that admits an item runs by its rounds, and by nothing else. -/
theorem rounds_iff {result : Attempt} (hmax : bounds.max ≠ some 0) :
    Rounds item bounds false current outputs inProgress data result ↔
      advance item bounds current outputs inProgress data = result := by
  rw [advance_eq_proceed hmax]
  constructor
  · exact proceed_eq_of_rounds
  · intro h
    cases hround :
      round item bounds (stalls false inProgress data) current outputs inProgress data with
    | settled result' =>
      simp only [proceed,hround] at h
      exact h ▸ rounds_of_settled hround
    | again outputs' rest =>
      obtain ⟨x,ha,rfl,hceil,hrest,hstall⟩ := finished_of_again hround
      simp only [proceed,hround] at h
      exact .next ha hceil hrest hstall (h ▸ rounds_run item bounds _ rest)

theorem pause_incomplete {c : Checkpoint} {required : Requirement}
    (h : pause item bounds outputs = .ok (.incomplete c required)) :
    c = .repetition item.initial outputs false ∧
      (bounds.contains outputs.length = true ∧ required = .empty ∨
        bounds.contains outputs.length = false ∧ freshDemand item = .ok required) := by
  unfold pause at h
  split at h
  · rename_i hcount
    cases h
    exact ⟨rfl,.inl ⟨hcount,rfl⟩⟩
  · rename_i hcount
    cases hd : freshDemand item with
    | error e => simp [hd,Except.map] at h
    | ok demand =>
      simp only [hd,Except.map,Except.ok.injEq,Outcome.incomplete.injEq] at h
      exact ⟨h.1.symm,.inr ⟨by simpa using hcount,congrArg _ h.2⟩⟩

theorem pause_ne_finished {o : Value} {rest : Bytes} :
    pause item bounds outputs ≠ .ok (.finished o rest) := by
  unfold pause
  split
  · simp
  · cases freshDemand item <;> simp [Except.map]

theorem mayEnd_of_lt {bounds : Bounds} {outputs : List Value} (hmin : outputs.length < bounds.min) :
    mayEnd bounds outputs false = false := by
  simp only [mayEnd,Bounds.contains_of_lt hmin,Bool.and_false]

theorem advance_of_max_zero (h : bounds.max = some 0) :
    advance item bounds current outputs inProgress data = .ok (.finished (.list []) data) := by
  simp [advance,h]

end Repetition

abbrev Grammar.toItem (g : Grammar) : Item := ⟨g.initial,g.advance⟩

theorem Grammar.advance_repetition {item : Grammar} {bounds : Bounds} {current : Checkpoint}
    {outputs : List Value} {inProgress : Bool} {data : Bytes} {result : Attempt}
    (hmax : bounds.max ≠ some 0) :
    (Grammar.repetition item bounds).advance (.repetition current outputs inProgress) data =
      result ↔ Repetition.Rounds item.toItem bounds false current outputs inProgress data result :=
  (Repetition.rounds_iff hmax).symm

end GuidedDecoding
