import GuidedDecoding.Proofs.Increments

/-!
Asking with no bytes whether a parse may stop, and going on from where that leaves it, for one
choice and one repetition. A choice keeps what the empty step has matched as its fallback. A
repetition between two items takes the empty step for the beginning of the next one, which cannot be
given back, or counts an item that matches nothing, so after it the list may no longer end where it
could have before.
-/

set_option autoImplicit false

namespace GuidedDecoding

/-- Both are refused, or both match with the same output and rest, or both run on. -/
inductive Attempt.Agrees : Attempt → Attempt → Prop where
  | refused {e e'} : Agrees (.error (.parse e)) (.error (.parse e'))
  | fault {f} : Agrees (.error (.fault f)) (.error (.fault f))
  | finished {o rest} : Agrees (.ok (.finished o rest)) (.ok (.finished o rest))
  | incomplete {c c' required required'} :
      Agrees (.ok (.incomplete c required)) (.ok (.incomplete c' required'))

theorem Attempt.Agrees.refl (x : Attempt) : Agrees x x := by
  rcases x with (e | f) | (⟨o,rest⟩ | ⟨c,required⟩)
  · exact .refused
  · exact .fault
  · exact .finished
  · exact .incomplete

theorem Attempt.Agrees.of_finished {x : Attempt} {o : Value} {rest : Bytes}
    (h : x.Agrees (.ok (.finished o rest))) : x = .ok (.finished o rest) := by
  cases h
  rfl

theorem Attempt.Agrees.of_refused {x : Attempt} {e : ParseError}
    (h : x.Agrees (.error (.parse e))) :
    ∃ e', x = .error (.parse e') := by
  cases h
  exact ⟨_,rfl⟩

theorem Keep.proceed_agrees (keep : Keep) {second : Checkpoint → Bytes → Attempt}
    {c c' : Checkpoint} {data data' : Bytes} (a : Value)
    (h : (second c data).Agrees (second c' data')) :
    (keep.proceed second c a data).Agrees (keep.proceed second c' a data') := by
  unfold proceed
  generalize second c data = x at h
  generalize second c' data' = y at h
  cases h with
  | refused => exact .refused
  | fault => exact .fault
  | finished => exact .finished
  | incomplete => exact .incomplete

theorem Grammar.inFirst_agrees (keep : Keep) {first : Grammar} (second : Grammar)
    {c c' : Checkpoint}
    {data : Bytes} (h : (first.advance c data).Agrees (first.advance c' data)) :
    ((sequence keep first second).advance (.inFirst c) data).Agrees
      ((sequence keep first second).advance (.inFirst c') data) := by
  simp only [advance]
  generalize first.advance c data = x at h
  generalize first.advance c' data = y at h
  cases h with
  | refused => exact .refused
  | fault => exact .fault
  | finished => exact .refl _
  | incomplete => exact .incomplete

theorem Transform.on_agrees (t : Transform) {x y : Attempt} (h : x.Agrees y) :
    (t.on x).Agrees (t.on y) := by
  cases h with
  | refused => exact .refused
  | fault => exact .fault
  | finished => exact .refl _
  | incomplete => exact .incomplete

/-- Going on from where an empty step leads comes to what going on without it does. -/
def Grammar.Undisturbed (g : Grammar) (c : Checkpoint) : Prop :=
  ∀ asked required, g.advance c [] = .ok (.incomplete asked required) →
    ∀ data, (g.advance asked data).Agrees (g.advance c data)

theorem Literal.asked_eq {bytes : Bytes} {matched : Nat} {c : Checkpoint} {required : Requirement}
    (h : Literal.advance bytes matched [] = .ok (.incomplete c required)) :
    c = .literal matched := by
  unfold advance at h
  cases hleft : bytes.drop matched with
  | nil =>
    rw [hleft,scan] at h
    split at h <;> cases h
    rfl
  | cons b left =>
    rw [hleft,scan] at h
    cases h
    rfl

namespace Choice

theorem longest_eq_some {results : List SlotResult} {i : Nat} {x : Value} {rest : Bytes}
    (hi : results[i]? = some (some (.ok (.finished x rest))))
    (hleast : ∀ (j : Nat) y rest', results[j]? = some (some (.ok (.finished y rest'))) →
      rest.length < rest'.length ∨ rest.length = rest'.length ∧ i ≤ j) :
    longest 0 results = some (⟨i,x⟩,rest) := by
  cases hl : longest 0 results with
  | none => exact absurd hi (getElem?_ne_finished hl)
  | some best =>
    obtain ⟨⟨j,y⟩,rest'⟩ := best
    have hj := getElem?_winner hl
    have hle := longest_least hl hi
    have hge := hleast j y rest' hj
    simp only at hle hge
    obtain rfl : i = j := by omega
    rw [hi] at hj
    cases hj
    rfl

/-- An empty step, a step over `data` after it and one without it, slot by slot. What ends in the
empty step would have ended with `data` left over. -/
inductive Resumes (data : Bytes) :
    List SlotResult → List SlotResult → List SlotResult → Prop where
  | nil : Resumes data [] [] []
  | empty {asked resumed direct} :
      Resumes data asked resumed direct →
      Resumes data (none :: asked) (none :: resumed) (none :: direct)
  | matched {asked resumed direct x rest} :
      Resumes data asked resumed direct →
      Resumes data (some (.ok (.finished x rest)) :: asked) (none :: resumed)
        (some (.ok (.finished x (rest ++ data))) :: direct)
  | refused {asked resumed direct e} :
      Resumes data asked resumed direct →
      Resumes data (some (.error (.parse e)) :: asked) (none :: resumed)
        (some (.error (.parse e)) :: direct)
  | running {asked resumed direct c required x y} :
      x.Agrees y → Resumes data asked resumed direct →
      Resumes data (some (.ok (.incomplete c required)) :: asked) (some x :: resumed)
        (some y :: direct)

variable {data : Bytes} {asked resumed direct : List SlotResult}

theorem Resumes.findSome?_fault? (h : Resumes data asked resumed direct) :
    resumed.findSome? fault? = direct.findSome? fault? := by
  induction h with
  | nil => rfl
  | empty _ ih => exact ih
  | matched _ ih => exact ih
  | refused _ ih => exact ih
  | running hagrees _ ih =>
    cases hagrees with
    | refused => exact ih
    | fault => rfl
    | finished => exact ih
    | incomplete => exact ih

theorem Resumes.closed_iff (h : Resumes data asked resumed direct) :
    resumed.filterMap requirement? = [] ↔ direct.filterMap requirement? = [] := by
  induction h with
  | nil => rfl
  | empty _ ih => exact ih
  | matched _ ih => exact ih
  | refused _ ih => exact ih
  | running hagrees _ ih =>
    cases hagrees with
    | refused => exact ih
    | fault => exact ih
    | finished => exact ih
    | incomplete => exact ⟨nofun,nofun⟩

theorem Resumes.finished_iff (h : Resumes data asked resumed direct) {i : Nat} {x : Value}
    {rest : Bytes} :
    direct[i]? = some (some (.ok (.finished x rest))) ↔
      resumed[i]? = some (some (.ok (.finished x rest))) ∨
        ∃ rest₀, asked[i]? = some (some (.ok (.finished x rest₀))) ∧ rest = rest₀ ++ data := by
  induction h generalizing i with
  | nil => simp
  | empty _ ih =>
    cases i with
    | zero => simp
    | succ i => simpa using ih
  | matched _ ih =>
    cases i with
    | zero => simp [eq_comm,and_assoc]
    | succ i => simpa using ih
  | refused _ ih =>
    cases i with
    | zero => simp
    | succ i => simpa using ih
  | running hagrees _ ih =>
    cases i with
    | zero => cases hagrees <;> simp
    | succ i => simpa using ih

theorem Resumes.running_of_resumed (h : Resumes data asked resumed direct) {i : Nat}
    {attempt : Attempt} (hi : resumed[i]? = some (some attempt)) :
    ∃ c required, asked[i]? = some (some (.ok (.incomplete c required))) := by
  induction h generalizing i with
  | nil => simp at hi
  | empty _ ih =>
    cases i with
    | zero => simp at hi
    | succ i => simpa using ih (by simpa using hi)
  | matched _ ih =>
    cases i with
    | zero => simp at hi
    | succ i => simpa using ih (by simpa using hi)
  | refused _ ih =>
    cases i with
    | zero => simp at hi
    | succ i => simpa using ih (by simpa using hi)
  | running _ _ ih =>
    cases i with
    | zero => exact ⟨_,_,rfl⟩
    | succ i => simpa using ih (by simpa using hi)

/-- Whatever runs on in the empty step and matches later comes before what has matched in it. -/
def Outruns (data : Bytes) (asked direct : List SlotResult) : Prop :=
  ∀ (i j : Nat) c required x y rest rest',
    asked[i]? = some (some (.ok (.incomplete c required))) →
    direct[i]? = some (some (.ok (.finished x rest))) →
    asked[j]? = some (some (.ok (.finished y rest'))) →
    rest.length < rest'.length + data.length ∨ rest.length = rest'.length + data.length ∧ i < j

theorem Resumes.close_agrees (h : Resumes data asked resumed direct)
    (hahead : Outruns data asked direct) (fallback : Option Branch) (leftover : Bytes) :
    (close (nextFallback fallback leftover [] asked).1 (nextFallback fallback leftover [] asked).2
      data resumed).Agrees (close fallback leftover data direct) := by
  cases hl : longest 0 resumed with
  | some best =>
    obtain ⟨⟨i,x⟩,rest⟩ := best
    have hi := getElem?_winner hl
    obtain ⟨c,required,hrunning⟩ := h.running_of_resumed hi
    have hdirect := h.finished_iff.mpr (.inl hi)
    have hwins : longest 0 direct = some (⟨i,x⟩,rest) := by
      refine longest_eq_some hdirect fun j y rest' hj => ?_
      rcases h.finished_iff.mp hj with hresumed | ⟨rest₀,hasked,rfl⟩
      · have hleast := longest_least hl hresumed
        simp only at hleast
        omega
      · have hleast := hahead i j c required x y rest rest₀ hrunning hdirect hasked
        rw [List.length_append]
        omega
    simp only [close,hl,hwins]
    exact .finished
  | none =>
    have hasked {i : Nat} {x : Value} {rest : Bytes}
        (hi : direct[i]? = some (some (.ok (.finished x rest)))) :
        ∃ rest₀, asked[i]? = some (some (.ok (.finished x rest₀))) ∧ rest = rest₀ ++ data := by
      rcases h.finished_iff.mp hi with hi | hi
      · exact absurd hi (getElem?_ne_finished hl)
      · exact hi
    cases ha : longest 0 asked with
    | some best =>
      obtain ⟨⟨i,x⟩,rest⟩ := best
      have hi := h.finished_iff.mpr (.inr ⟨rest,getElem?_winner ha,rfl⟩)
      have hwins : longest 0 direct = some (⟨i,x⟩,rest ++ data) := by
        refine longest_eq_some hi fun j y rest' hj => ?_
        obtain ⟨rest₀,hj₀,rfl⟩ := hasked hj
        have hleast := longest_least ha hj₀
        simp only at hleast
        simp only [List.length_append]
        omega
      simp only [close,nextFallback,hl,ha,hwins]
      exact .finished
    | none =>
      have hnone : longest 0 direct = none := longest_eq_none 0 fun i x rest hi => by
        obtain ⟨rest₀,hi,_⟩ := hasked hi
        exact getElem?_ne_finished ha hi
      cases fallback with
      | some earlier =>
        simp only [close,nextFallback,hl,ha,hnone,Option.isSome_some,if_true,List.append_nil]
        exact .finished
      | none =>
        simp only [close,nextFallback,hl,ha,hnone]
        cases lastError resumed <;> cases lastError direct <;> exact .refused

theorem Resumes.settle_agrees (h : Resumes data asked resumed direct)
    (hahead : Outruns data asked direct) (fallback : Option Branch) (leftover : Bytes) :
    (settle (nextFallback fallback leftover [] asked).1 (nextFallback fallback leftover [] asked).2
      data resumed).Agrees (settle fallback leftover data direct) := by
  have hsame := h.findSome?_fault?
  obtain ⟨f,hf,hs⟩ | ⟨hf,hr,hs⟩ | ⟨hf,hr,hs⟩ := settle_cases fallback leftover data direct
  · rw [hs,settle_of_fault (hsame.trans hf)]
    exact .fault
  · rw [hs,settle_of_closed (hsame.trans hf) (h.closed_iff.mpr hr)]
    exact h.close_agrees hahead fallback leftover
  · rw [hs,settle_of_running (hsame.trans hf) (mt h.closed_iff.mp hr)]
    exact .incomplete

end Choice

theorem Grammar.resumes_advanceSlots {gs : List Grammar} {slots : List (Option Checkpoint)}
    (hslots : ∀ (i : Nat) g c, gs[i]? = some g → slots[i]? = some (some c) → g.Undisturbed c)
    (hfault : (advanceSlots gs slots []).findSome? Choice.fault? = none) (data : Bytes) :
    Choice.Resumes data (advanceSlots gs slots [])
      (advanceSlots gs ((advanceSlots gs slots []).map Choice.nextSlot) data)
      (advanceSlots gs slots data) := by
  induction gs generalizing slots with
  | nil => exact .nil
  | cons g gs ih =>
    cases slots with
    | nil => exact .nil
    | cons slot slots =>
      have hrest (hfault : (advanceSlots gs slots []).findSome? Choice.fault? = none) :=
        ih (fun i g c hg hc => hslots (i + 1) g c hg hc) hfault
      cases slot with
      | none => exact .empty (hrest hfault)
      | some c =>
        have hc : g.Undisturbed c := hslots 0 g c rfl rfl
        simp only [advanceSlots,Option.map_some,List.map_cons] at hfault ⊢
        rcases ha : g.advance c [] with (e | f) | (⟨x,rest⟩ | ⟨c',required⟩)
        · rw [ha] at hfault
          rw [← List.nil_append data,(g.advance_final c).parseError ha]
          exact .refused (hrest hfault)
        · rw [ha] at hfault
          cases hfault
        · rw [ha] at hfault
          have hdirect : g.advance c data = .ok (.finished x (rest ++ data)) :=
            (g.advance_final c).finished ha
          rw [hdirect]
          exact .matched (hrest hfault)
        · rw [ha] at hfault
          exact .running (hc c' required ha data) (hrest hfault)

namespace Repetition

variable {item : Grammar} {bounds : Bounds} {later : Bool} {outputs : List Value}
  {data rest : Bytes}
  {x : Value}

theorem stalls_self (later : Bool) (data : Bytes) : stalls later false data data = true := by
  cases later <;> simp [stalls]

theorem rest_eq_of_stalls (ha : item.advance item.initial data = .ok (.finished x rest))
    (h : stalls false false data rest = true) : rest = data := by
  obtain ⟨u,rfl,_⟩ := Grammar.derives_of_finished ha
  simp only [stalls,Bool.false_eq_true,if_false,Bool.not_false,Bool.true_and,beq_iff_eq,
    List.length_append] at h
  obtain rfl : u = [] := List.length_eq_zero_iff.mp (by omega)
  rfl

theorem Rounds.stalled (ha : item.advance item.initial data = .ok (.finished x data))
    (hdata : data ≠ []) (hmin : bounds.min ≤ (outputs ++ [x]).length) :
    Rounds item.toItem bounds later item.initial outputs false data
      (.ok (.finished (.list (outputs ++ [x])) data)) := by
  cases hceil : bounds.isCeiling (outputs ++ [x]).length with
  | true => exact .ceiling ha hceil
  | false =>
    have hm := Bounds.isCeiling_eq_false.mp hceil
    exact .stall ha hceil hdata (stalls_self later data)
      (Bounds.contains_iff.mpr ⟨hmin,fun m hmax => Nat.le_of_lt (hm m hmax)⟩)

theorem Rounds.stalled_short (ha : item.advance item.initial data = .ok (.finished x data))
    (hdata : data ≠ []) (hshort : (outputs ++ [x]).length < bounds.min) :
    Rounds item.toItem bounds later item.initial outputs false data
      (.error (.parse { reason := .emptyRepetition (outputs ++ [x]).length bounds.min })) :=
  .short ha (Bounds.isCeiling_of_lt hshort) hdata (stalls_self later data)
    (Bounds.contains_of_lt hshort)

theorem pause_of_matched (ha : item.advance item.initial [] = .ok (.finished x rest))
    (bounds : Bounds) (outputs : List Value) :
    ∃ required, pause item.toItem bounds outputs =
      .ok (.incomplete (.repetition item.initial outputs false) required) := by
  unfold pause
  split
  · exact ⟨_,rfl⟩
  · simp only [freshDemand,ha]
    exact ⟨_,rfl⟩

end Repetition

namespace Grammar

/-- An empty step between two items leaves no trace. Where the list may end, an item that does not
fail at once never fails; and no item matches nothing, unless it is the last one or even two are too
few. -/
def Traceless (item : Grammar) (bounds : Bounds) (outputs : List Value) : Prop :=
  ∀ outcome, item.advance item.initial [] = .ok outcome →
    (Repetition.mayEnd bounds outputs false = true →
        ∀ data e, item.advance item.initial data ≠ .error (.parse e)) ∧
      (bounds.isCeiling (outputs.length + 1 : Nat) = true ∨ outputs.length + 2 < bounds.min ∨
        ∀ data x, item.advance item.initial data ≠ .ok (.finished x data))

variable {item : Grammar} {bounds : Bounds} {outputs : List Value} {current c : Checkpoint}
  {inProgress : Bool} {x : Value} {required : Requirement} {data rest : Bytes}

theorem Traceless.short (h : item.Traceless bounds outputs) {outcome : Outcome}
    (hnil : item.advance item.initial [] = .ok outcome)
    (ha : item.advance item.initial data = .ok (.finished x data))
    (hceil : bounds.isCeiling (outputs ++ [x]).length = false) :
    outputs.length + 2 < bounds.min := by
  rw [List.length_append,List.length_singleton] at hceil
  rcases (h outcome hnil).2 with htop | hshort | hnone
  · cases hceil.symm.trans htop
  · exact hshort
  · exact absurd ha (hnone data x)

theorem asked_repetition (hmax : bounds.max ≠ some 0)
    (hnil : ∀ x rest, item.advance current [] = .ok (.finished x rest) → rest = [])
    (ha : (repetition item bounds).advance (.repetition current outputs inProgress) [] =
      .ok (.incomplete c required)) :
    (∃ inner, item.advance current [] = .ok (.incomplete inner required) ∧
        c = .repetition inner outputs true) ∨
      ∃ x, item.advance current [] = .ok (.finished x []) ∧
        bounds.isCeiling (outputs ++ [x]).length = false ∧
        c = .repetition item.initial (outputs ++ [x]) false := by
  have hrounds := (advance_repetition hmax).mp ha
  generalize hr : (Except.ok (.incomplete c required) : Attempt) = result at hrounds
  cases hrounds with
  | stop _ _ => cases hr
  | fail _ _ => cases hr
  | fault _ => cases hr
  | inside hi =>
    cases hr
    exact .inl ⟨_,hi,rfl⟩
  | ceiling _ _ => cases hr
  | between hi hceil =>
    obtain ⟨rfl,_⟩ := Repetition.pause_incomplete hr.symm
    exact .inr ⟨_,hi,hceil,rfl⟩
  | stall _ _ _ _ _ => cases hr
  | short _ _ _ _ _ => cases hr
  | next hi _ hrest _ _ => exact absurd (hnil _ _ hi) hrest

/-- Resumed or not, the item makes the same match. Where it matches nothing, a resumed one counts as
progress all the same, so another one is begun, and matches nothing too. -/
theorem matched_agrees {outcome : Outcome} (hmax : bounds.max ≠ some 0)
    (hfresh : inProgress = false → current = item.initial ∧ item.Traceless bounds outputs)
    (ha : item.advance current [] = .ok outcome)
    (hresumed : item.advance c data = .ok (.finished x rest))
    (hdirect : item.advance current data = .ok (.finished x rest)) :
    ((repetition item bounds).advance (.repetition c outputs true) data).Agrees
      ((repetition item bounds).advance (.repetition current outputs inProgress) data) := by
  cases hceil : bounds.isCeiling (outputs ++ [x]).length with
  | true =>
    rw [(advance_repetition hmax).mpr (.ceiling hresumed hceil),
      (advance_repetition hmax).mpr (.ceiling hdirect hceil)]
    exact .refl _
  | false =>
    by_cases hrest : rest = []
    · subst hrest
      rw [(advance_repetition hmax).mpr (.between hresumed hceil),
        (advance_repetition hmax).mpr (.between hdirect hceil)]
      exact .refl _
    cases hstall : Repetition.stalls false inProgress data rest with
    | false =>
      have hnext := Repetition.rounds_run item.toItem bounds (outputs ++ [x]) rest
      rw [(advance_repetition hmax).mpr (.next hresumed hceil hrest rfl hnext),
        (advance_repetition hmax).mpr (.next hdirect hceil hrest hstall hnext)]
      exact .refl _
    | true =>
      cases inProgress with
      | true => cases hstall
      | false =>
        obtain ⟨rfl,htraceless⟩ := hfresh rfl
        obtain rfl := Repetition.rest_eq_of_stalls hdirect hstall
        have hshort := htraceless.short ha hdirect hceil
        have hfirst : (outputs ++ [x]).length < bounds.min := by simp; omega
        have hsecond : (outputs ++ [x] ++ [x]).length < bounds.min := by simpa using hshort
        rw [(advance_repetition hmax).mpr
            (.next hresumed hceil hrest rfl (.stalled_short hdirect hrest hsecond)),
          (advance_repetition hmax).mpr (.stalled_short hdirect hrest hfirst)]
        exact .refused

theorem begun_agrees (hmax : bounds.max ≠ some 0) (hcurrent : item.Undisturbed current)
    (hfresh : inProgress = false → current = item.initial ∧ item.Traceless bounds outputs)
    (ha : item.advance current [] = .ok (.incomplete c required)) (data : Bytes) :
    ((repetition item bounds).advance (.repetition c outputs true) data).Agrees
      ((repetition item bounds).advance (.repetition current outputs inProgress) data) := by
  have hagrees := hcurrent c required ha data
  generalize hresumed : item.advance c data = resumed at hagrees
  generalize hdirect : item.advance current data = direct at hagrees
  cases hagrees with
  | @refused e e' =>
    -- Neither step may end the list here: one resumes an item, the other would have left a trace.
    have hbegun : Repetition.mayEnd bounds outputs inProgress = false := by
      cases inProgress with
      | true => rfl
      | false =>
        obtain ⟨rfl,htraceless⟩ := hfresh rfl
        rw [← Bool.not_eq_true]
        exact fun hmay => (htraceless _ ha).1 hmay data e' hdirect
    rw [(advance_repetition hmax).mpr (.fail hresumed rfl),
      (advance_repetition hmax).mpr (.fail hdirect hbegun)]
    exact .refused
  | fault =>
    rw [(advance_repetition hmax).mpr (.fault hresumed),
      (advance_repetition hmax).mpr (.fault hdirect)]
    exact .fault
  | incomplete =>
    rw [(advance_repetition hmax).mpr (.inside hresumed),
      (advance_repetition hmax).mpr (.inside hdirect)]
    exact .incomplete
  | finished => exact matched_agrees hmax hfresh ha hresumed hdirect

/-- Inside an item an empty step is one of the item. If that ends there, the next one has to wait
for input as the list does. -/
theorem undisturbed_inside (hcurrent : item.Undisturbed current)
    (hnil : ∀ x rest, item.advance current [] = .ok (.finished x rest) → rest = [])
    (hnext : ∀ x rest, item.advance current [] = .ok (.finished x rest) →
      bounds.isCeiling (outputs ++ [x]).length = true ∨
        ∃ c required, item.advance item.initial [] = .ok (.incomplete c required)) :
    (repetition item bounds).Undisturbed (.repetition current outputs true) := by
  intro asked required h data
  by_cases hmax : bounds.max = some 0
  · simp only [advance,Repetition.advance_of_max_zero hmax] at h
    cases h
  obtain ⟨c,ha,rfl⟩ | ⟨x,ha,hceil,rfl⟩ := asked_repetition hmax hnil h
  · refine begun_agrees hmax hcurrent ?_ ha data
    rintro ⟨⟩
  · obtain htop | ⟨c,required',hfresh⟩ := hnext x [] ha
    · cases hceil.symm.trans htop
    · by_cases hdata : data = []
      · subst hdata
        rw [h,(advance_repetition hmax).mpr (.inside hfresh)]
        exact .incomplete
      · -- What the next step does in its first round, one step does in its second.
        have hmatch : item.advance current data = .ok (.finished x data) :=
          (item.advance_final current).finished ha
        generalize hresult : (repetition item bounds).advance
          (.repetition item.initial (outputs ++ [x]) false) data = result
        have hrounds := (advance_repetition hmax).mp hresult
        rw [(advance_repetition hmax).mpr (.next hmatch hceil hdata rfl hrounds.as_later)]
        exact .refl _

theorem counted_agrees (hmax : bounds.max ≠ some 0)
    (ha : item.advance item.initial [] = .ok (.finished x []))
    (hshort : outputs.length + 2 < bounds.min) (data : Bytes) :
    ((repetition item bounds).advance (.repetition item.initial (outputs ++ [x]) false) data).Agrees
      ((repetition item bounds).advance (.repetition item.initial outputs false) data) := by
  have hfirst : (outputs ++ [x]).length < bounds.min := by simp; omega
  have hsecond : (outputs ++ [x] ++ [x]).length < bounds.min := by simpa using hshort
  by_cases hdata : data = []
  · subst hdata
    obtain ⟨_,hp⟩ := Repetition.pause_of_matched ha bounds (outputs ++ [x])
    obtain ⟨_,hp'⟩ := Repetition.pause_of_matched ha bounds (outputs ++ [x] ++ [x])
    rw [(advance_repetition hmax).mpr (.between ha (Bounds.isCeiling_of_lt hsecond)),
      (advance_repetition hmax).mpr (.between ha (Bounds.isCeiling_of_lt hfirst)),hp,hp']
    exact .incomplete
  · have hmatch : item.advance item.initial data = .ok (.finished x data) :=
      (item.advance_final item.initial).finished ha
    rw [(advance_repetition hmax).mpr (.stalled_short hmatch hdata hsecond),
      (advance_repetition hmax).mpr (.stalled_short hmatch hdata hfirst)]
    exact .refused

theorem undisturbed_of_traceless (hmax : bounds.max ≠ some 0)
    (hitem : item.Undisturbed item.initial)
    (htraceless : item.Traceless bounds outputs) :
    (repetition item bounds).Undisturbed (.repetition item.initial outputs false) := by
  intro asked required h data
  obtain ⟨c,ha,rfl⟩ | ⟨x,ha,hceil,rfl⟩ :=
    asked_repetition hmax (fun _ _ => rest_of_finished_nil) h
  · exact begun_agrees hmax hitem (fun _ => ⟨rfl,htraceless⟩) ha data
  · exact counted_agrees hmax ha (htraceless.short ha ha hceil) data

theorem not_agrees_of_counted_twice (hmax : bounds.max ≠ some 0) (hdata : data ≠ [])
    (ha : item.advance item.initial data = .ok (.finished x data)) :
    ¬Attempt.Agrees (.ok (.finished (.list (outputs ++ [x] ++ [x])) data))
      ((repetition item bounds).advance (.repetition item.initial outputs false) data) := by
  by_cases hshort : (outputs ++ [x]).length < bounds.min
  · rw [(advance_repetition hmax).mpr (.stalled_short ha hdata hshort)]
    nofun
  · rw [(advance_repetition hmax).mpr (.stalled ha hdata (Nat.le_of_not_lt hshort))]
    intro h
    have hsame := h.of_finished
    simp at hsame

theorem traceless_of_counted (hmax : bounds.max ≠ some 0)
    (ha : item.advance item.initial [] = .ok (.finished x []))
    (h : (repetition item bounds).Undisturbed (.repetition item.initial outputs false)) :
    item.Traceless bounds outputs := by
  intro _ _
  have hmatch (data : Bytes) : item.advance item.initial data = .ok (.finished x data) :=
    (item.advance_final item.initial).finished ha
  constructor
  · intro _ data e he
    cases (hmatch data).symm.trans he
  cases hceil : bounds.isCeiling (outputs.length + 1 : Nat) with
  | true => exact .inl rfl
  | false =>
    refine .inr (.inl (Nat.lt_of_not_le fun hmin => ?_))
    have hceil' : bounds.isCeiling (outputs ++ [x]).length = false := by simpa using hceil
    have hnonempty : ([0] : Bytes) ≠ [] := List.cons_ne_nil _ _
    obtain ⟨required,hp⟩ := Repetition.pause_of_matched ha bounds (outputs ++ [x])
    have hagrees := h _ _ (((advance_repetition hmax).mpr (.between ha hceil')).trans hp) [0]
    rw [(advance_repetition hmax).mpr
      (.stalled (hmatch [0]) hnonempty (by simpa using hmin))] at hagrees
    exact not_agrees_of_counted_twice hmax hnonempty (hmatch [0]) hagrees

theorem traceless_of_begun (hmax : bounds.max ≠ some 0) (hitem : item.Undisturbed item.initial)
    (ha : item.advance item.initial [] = .ok (.incomplete c required))
    (h : (repetition item bounds).Undisturbed (.repetition item.initial outputs false)) :
    item.Traceless bounds outputs := by
  have hasked := h _ _ ((advance_repetition hmax).mpr (.inside ha))
  refine fun _ _ => ⟨fun hmay data e he => ?_,?_⟩
  · -- The list ends where no item begins, and the item that the empty step has begun fails there.
    have hagrees := hitem c required ha data
    rw [he] at hagrees
    obtain ⟨e',he'⟩ := hagrees.of_refused
    have hlist := hasked data
    rw [(advance_repetition hmax).mpr (.fail he' rfl),
      (advance_repetition hmax).mpr (.stop he hmay)] at hlist
    cases hlist
  cases hceil : bounds.isCeiling (outputs.length + 1 : Nat) with
  | true => exact .inl rfl
  | false =>
    refine .inr ((Nat.lt_or_ge _ _).imp_right fun hmin data x hx => ?_)
    have hdata : data ≠ [] := by
      rintro rfl
      cases ha.symm.trans hx
    have hagrees := hitem c required ha data
    rw [hx] at hagrees
    have hlist := hasked data
    rw [(advance_repetition hmax).mpr (.next hagrees.of_finished (by simpa using hceil) hdata rfl
      (.stalled hx hdata (by simpa using hmin)))] at hlist
    exact not_agrees_of_counted_twice hmax hdata hx hlist

theorem traceless_of_undisturbed (hmax : bounds.max ≠ some 0)
    (hitem : item.Undisturbed item.initial)
    (h : (repetition item bounds).Undisturbed (.repetition item.initial outputs false)) :
    item.Traceless bounds outputs := by
  rintro (⟨x,rest⟩ | ⟨c,required⟩) ha
  · obtain rfl := rest_of_finished_nil ha
    exact traceless_of_counted hmax ha h _ ha
  · exact traceless_of_begun hmax hitem ha h _ ha

end Grammar

end GuidedDecoding
