import GuidedDecoding.Proofs.Completion
import GuidedDecoding.Proofs.Parts

set_option autoImplicit false

namespace GuidedDecoding

/-- Nothing but a parse error stops an advance. -/
def Faultless (advance : Bytes → Attempt) : Prop := ∀ data f, advance data ≠ .error (.fault f)

theorem Literal.scan_faultless (literal : Bytes) (matched consumed : Nat) (left : Bytes) :
    Faultless (Literal.scan literal matched consumed left) := by
  induction left generalizing matched consumed with
  | nil =>
    intro data f
    unfold scan
    split <;> rintro ⟨⟩
  | cons b left ih =>
    intro data f
    cases data with
    | nil => rintro ⟨⟩
    | cons x data =>
      by_cases hx : x = b
      · simp only [scan,hx,if_true]
        exact ih _ _ data f
      · simp [scan,hx]

theorem IntegerRange.advance_faultless (r : IntegerRange) (n : Numeral) :
    Faultless (r.advance n) := by
  intro data f
  unfold advance
  split <;> nofun

theorem Keep.proceed_faultless (keep : Keep) {second : Checkpoint → Bytes → Attempt}
    {c : Checkpoint}
    (hsecond : Faultless (second c)) (a : Value) : Faultless (keep.proceed second c a) := by
  intro data f
  unfold proceed
  split
  · rename_i e he
    rintro ⟨⟩
    exact hsecond data f he
  · nofun
  · nofun

namespace Choice

variable {fallback : Option Branch} {leftover data : Bytes} {results : List SlotResult}

theorem close_ne_fault (f : Fault) : close fallback leftover data results ≠ .error (.fault f) := by
  unfold close
  split
  · nofun
  · split
    · nofun
    · split <;> nofun

theorem fault_of_settle {f : Fault}
    (h : settle fallback leftover data results = .error (.fault f)) :
    results.findSome? fault? = some f := by
  obtain ⟨f',hf,hs⟩ | ⟨_,_,hs⟩ | ⟨_,_,hs⟩ := settle_cases fallback leftover data results
  · rw [hs] at h
    cases h
    exact hf
  · exact absurd (hs ▸ h) (close_ne_fault f)
  · rw [hs] at h
    cases h

theorem findSome?_fault?_eq_none (h : ∀ f, some (.error (.fault f)) ∉ results) :
    results.findSome? fault? = none := by
  rw [List.findSome?_eq_none_iff]
  rintro (_ | (_ | f) | _) hr
  · rfl
  · rfl
  · exact absurd hr (h f)
  · rfl

theorem settle_of_incomplete (fallback : Option Branch) (leftover data : Bytes)
    (hfault : results.findSome? fault? = none) {i : Nat} {c : Checkpoint} {required : Requirement}
    (hi : results[i]? = some (some (.ok (.incomplete c required)))) :
    ∃ fallback' leftover' required',
      settle fallback leftover data results =
        .ok (.incomplete (.choice (results.map nextSlot) fallback' leftover') required') := by
  have hrunning : results.filterMap requirement? ≠ [] :=
    List.ne_nil_of_mem (List.mem_filterMap.mpr ⟨_,List.mem_of_getElem? hi,rfl⟩)
  exact ⟨_,_,_,settle_of_running hfault hrunning⟩

theorem settle_of_finished (fallback : Option Branch) (leftover data : Bytes)
    (hfault : results.findSome? fault? = none) {i : Nat} {x : Value}
    (hi : results[i]? = some (some (.ok (.finished x [])))) :
    (∃ o, settle fallback leftover data results = .ok (.finished o [])) ∨
      ∃ fallback' leftover' required',
        settle fallback leftover data results =
          .ok (.incomplete (.choice (results.map nextSlot) fallback' leftover') required') := by
  by_cases hrunning : results.filterMap requirement? = []
  · rw [settle_of_closed hfault hrunning]
    unfold close
    cases hl : longest 0 results with
    | none => exact absurd hi (getElem?_ne_finished hl)
    | some best =>
      obtain ⟨best,rest⟩ := best
      have hrest := longest_least hl hi
      rw [List.length_nil] at hrest
      obtain rfl : rest = [] := List.length_eq_zero_iff.mp (by omega)
      exact .inl ⟨_,rfl⟩
  · exact .inr ⟨_,_,_,settle_of_running hfault hrunning⟩

end Choice

namespace Repetition

variable {item : Item} {bounds : Bounds} {later inProgress : Bool} {current : Checkpoint}
  {outputs : List Value} {data : Bytes} {x : Value}

theorem exists_pause (bounds : Bounds) (outputs : List Value)
    (hfresh : Faultless (item.advance item.initial)) :
    ∃ required, pause item bounds outputs =
      .ok (.incomplete (.repetition item.initial outputs false) required) := by
  unfold pause
  split
  · exact ⟨_,rfl⟩
  · unfold freshDemand
    split
    · exact ⟨_,rfl⟩
    · exact ⟨_,rfl⟩
    · exact ⟨_,rfl⟩
    · rename_i f hf
      exact absurd hf (hfresh [] f)

theorem ne_fault_of_rounds {result : Attempt}
    (h : Rounds item bounds later current outputs inProgress data result)
    (hcurrent : Faultless (item.advance current)) (hfresh : Faultless (item.advance item.initial))
    (f : Fault) : result ≠ .error (.fault f) := by
  induction h with
  | stop _ _ => nofun
  | fail _ _ => nofun
  | @fault _ _ _ _ data f' ha => exact absurd ha (hcurrent data f')
  | inside _ => nofun
  | ceiling _ _ => nofun
  | @between _ _ outputs _ _ x _ _ =>
    obtain ⟨required,hp⟩ := exists_pause bounds (outputs ++ [x]) hfresh
    rw [hp]
    nofun
  | stall _ _ _ _ _ => nofun
  | short _ _ _ _ _ => nofun
  | next _ _ _ _ _ ih => exact ih hfresh

theorem advance_of_item (item : Item) (hmax : bounds.max ≠ some 0)
    (hfresh : Faultless (item.advance item.initial))
    (ha : item.advance current data = .ok (.finished x [])) :
    (∃ o, advance item bounds current outputs inProgress data = .ok (.finished o [])) ∨
      bounds.isCeiling (outputs ++ [x]).length = false ∧
        ∃ required, advance item bounds current outputs inProgress data =
          .ok (.incomplete (.repetition item.initial (outputs ++ [x]) false) required) := by
  cases hceil : bounds.isCeiling (outputs ++ [x]).length with
  | true => exact .inl ⟨_,(rounds_iff hmax).mp (.ceiling ha hceil)⟩
  | false =>
    obtain ⟨required,hp⟩ := exists_pause bounds (outputs ++ [x]) hfresh
    exact .inr ⟨rfl,required,hp ▸ (rounds_iff hmax).mp (.between ha hceil)⟩

end Repetition

namespace Grammar

/-- No transform meets a fault on what its body can yield; it may reject it by a parse error. -/
inductive Tame : Grammar → Prop where
  | literal (bytes) : Tame (.literal bytes)
  | integer (range) : Tame (.integer range)
  | sequence {keep first second} :
      Tame first → Tame second → Tame (.sequence keep first second)
  | choice {first others} : (∀ g ∈ first :: others, Tame g) → Tame (.choice first others)
  | repetition {item bounds} : Tame item → Tame (.repetition item bounds)
  | mapped {body t} :
      Tame body → (∀ w x f, body.Derives w x → t.apply x ≠ .error (.fault f)) →
      Tame (.mapped body t)

/-- Every transform maps whatever its body can yield. -/
inductive Total : Grammar → Prop where
  | literal (bytes) : Total (.literal bytes)
  | integer (range) : Total (.integer range)
  | sequence {keep first second} :
      Total first → Total second → Total (.sequence keep first second)
  | choice {first others} : (∀ g ∈ first :: others, Total g) → Total (.choice first others)
  | repetition {item bounds} : Total item → Total (.repetition item bounds)
  | mapped {body t} :
      Total body → (∀ w x, body.Derives w x → ∃ o, t.apply x = .ok o) → Total (.mapped body t)

variable {g : Grammar} {c : Checkpoint} {w : Bytes}

theorem findSome?_fault?_advanceSlots {gs : List Grammar} {slots : List (Option Checkpoint)}
    {data : Bytes}
    (h : ∀ (i : Nat) g c, gs[i]? = some g → slots[i]? = some (some c) → Faultless (g.advance c)) :
    (advanceSlots gs slots data).findSome? Choice.fault? = none := by
  refine Choice.findSome?_fault?_eq_none fun f hf => ?_
  obtain ⟨i,hi⟩ := List.mem_iff_getElem?.mp hf
  obtain ⟨g,c,hg,hc,ha⟩ := getElem?_advanceSlots_some.mp hi
  exact h i g c hg hc data f ha

theorem Tame.faultless (hg : g.Tame) (h : g.Fed w c) : Faultless (g.advance c) := by
  induction hg generalizing w c with
  | literal bytes =>
    obtain ⟨matched,rfl,_⟩ := h.ready.literal
    exact Literal.scan_faultless _ _ _ _
  | integer range =>
    obtain ⟨n,rfl,_⟩ := h.ready.integer
    exact range.advance_faultless n
  | @sequence keep first second _ _ hfirst hsecond =>
    obtain ⟨inner,rfl,hinner⟩ | ⟨inner,a,v,rfl,hinner⟩ := h.sequence
    · intro data f
      simp only [advance]
      split
      · rename_i e he
        rintro ⟨⟩
        exact hfirst hinner data f he
      · rintro ⟨⟩
      · rename_i a rest _
        exact keep.proceed_faultless (hsecond .start) a rest f
    · exact keep.proceed_faultless (hsecond hinner) a
  | @choice first others _ ih =>
    obtain ⟨slots,fallback,leftover,rfl,hslots⟩ := h.choice
    intro data f hf
    rw [advance_choice] at hf
    have hsome := Choice.fault_of_settle hf
    rw [findSome?_fault?_advanceSlots fun i g c hg hc =>
      ih g (List.mem_of_getElem? hg) (hslots i g c hg hc)] at hsome
    cases hsome
  | @repetition item bounds _ ih =>
    obtain ⟨current,outputs,inProgress,v,rfl,hv⟩ := h.repetition
    intro data f hf
    by_cases hmax : bounds.max = some 0
    · simp only [advance,Repetition.advance_of_max_zero hmax] at hf
      cases hf
    · exact Repetition.ne_fault_of_rounds ((advance_repetition hmax).mp hf) (ih hv) (ih .start)
        f rfl
  | @mapped body t _ hmap ih =>
    intro data f
    simp only [advance]
    rcases ha : body.advance c data with e | (⟨x,rest⟩ | ⟨c',required⟩)
    · rintro ⟨⟩
      exact ih h.mapped data f ha
    · obtain ⟨u,_,hu⟩ := h.mapped.derives (h.mapped.ready.completes_of_finished ha)
      simp only [Transform.on]
      cases ho : t.apply x with
      | ok o => rintro ⟨⟩
      | error e =>
        rintro ⟨⟩
        exact hmap u x f hu ho
    · rintro ⟨⟩

theorem Total.tame (hg : g.Total) : g.Tame := by
  induction hg with
  | literal bytes => exact .literal bytes
  | integer range => exact .integer range
  | sequence _ _ hfirst hsecond => exact .sequence hfirst hsecond
  | choice _ ih => exact .choice ih
  | repetition _ ih => exact .repetition ih
  | mapped _ hmap ih =>
    refine .mapped ih fun w x f hx hfault => ?_
    obtain ⟨o,ho⟩ := hmap w x hx
    cases ho.symm.trans hfault

theorem Total.faultless (hg : g.Total) (h : g.Fed w c) : Faultless (g.advance c) :=
  hg.tame.faultless h

theorem Total.exists_outcome (hg : g.Total) : ∃ outcome, g.advance g.initial [] = .ok outcome := by
  induction hg with
  | literal bytes => cases bytes <;> exact ⟨_,rfl⟩
  | integer range => exact ⟨_,rfl⟩
  | @sequence keep first second _ _ hfirst hsecond =>
    obtain ⟨x | c₁,ha⟩ := hfirst
    · obtain rfl := rest_of_finished_nil ha
      obtain ⟨b | c₂,hb⟩ := hsecond
      · exact ⟨_,(advance_inFirst_of_finished keep second ha).trans (keep.proceed_of_finished x hb)⟩
      · exact ⟨_,(advance_inFirst_of_finished keep second ha).trans
          (keep.proceed_of_incomplete x hb)⟩
    · exact ⟨_,advance_inFirst_of_incomplete keep second ha⟩
  | @choice first others htotal ih =>
    have hfault : (advanceSlots (first :: others) (initialSlots (first :: others)) []).findSome?
        Choice.fault? = none := findSome?_fault?_advanceSlots fun i g c hg hc => by
      obtain rfl := eq_initial_of_initialSlots hg hc
      exact (htotal g (List.mem_of_getElem? hg)).faultless .start
    rw [initial_choice,advance_choice]
    obtain ⟨outcome,ha⟩ := ih first List.mem_cons_self
    have hslot : (advanceSlots (first :: others) (initialSlots (first :: others)) [])[0]? =
        some (some (.ok outcome)) := getElem?_advanceSlots_some.mpr ⟨first,_,rfl,rfl,ha⟩
    rcases outcome with ⟨x,rest⟩ | ⟨c,required⟩
    · obtain rfl := rest_of_finished_nil ha
      obtain ⟨o,ho⟩ | ⟨_,_,_,ho⟩ := Choice.settle_of_finished none [] [] hfault hslot
      · exact ⟨_,ho⟩
      · exact ⟨_,ho⟩
    · obtain ⟨_,_,_,ho⟩ := Choice.settle_of_incomplete none [] [] hfault hslot
      exact ⟨_,ho⟩
  | @repetition item bounds htotal ih =>
    by_cases hmax : bounds.max = some 0
    · exact ⟨_,Repetition.advance_of_max_zero hmax⟩
    · obtain ⟨⟨x,rest⟩ | ⟨c,required⟩,ha⟩ := ih
      · obtain rfl := rest_of_finished_nil ha
        obtain ⟨o,ho⟩ | ⟨_,required,ho⟩ :=
          Repetition.advance_of_item item.toItem hmax (htotal.faultless .start) ha
        · exact ⟨_,ho⟩
        · exact ⟨_,ho⟩
      · exact ⟨_,(advance_repetition hmax).mpr (.inside ha)⟩
  | @mapped body t _ hmap ih =>
    obtain ⟨⟨x,rest⟩ | ⟨c,required⟩,ha⟩ := ih
    · obtain ⟨u,_,hu⟩ := derives_of_finished ha
      obtain ⟨o,ho⟩ := hmap u x hu
      exact ⟨_,(congrArg t.on ha).trans (Transform.on_of_finished ho rest)⟩
    · exact ⟨_,congrArg t.on ha⟩

end Grammar

end GuidedDecoding
