import GuidedDecoding.Proofs.Asking
import GuidedDecoding.Proofs.Total

set_option autoImplicit false

namespace GuidedDecoding.Grammar

/-- Where an empty step does no harm. It must not begin an item that the list can do without, nor
end a part that leaves something over, and in a choice it must not end an alternative that a later
match of another one falls short of. -/
inductive Calm : Grammar → Checkpoint → Prop where
  | literal {bytes matched} : Calm (.literal bytes) (.literal matched)
  | integer {range n} : Calm (.integer range) (.integer n)
  | inFirst {keep first second c} :
      Calm first c → (∀ x rest, first.advance c [] = .ok (.finished x rest) → rest = []) →
      (∀ x rest, first.advance c [] = .ok (.finished x rest) → Calm second second.initial) →
      Calm (.sequence keep first second) (.inFirst c)
  | inSecond {keep first second c a} :
      Calm second c → Calm (.sequence keep first second) (.inSecond c a)
  | choice {first others slots fallback leftover} :
      (∀ (i : Nat) g c, (first :: others)[i]? = some g → slots[i]? = some (some c) → Calm g c) →
      (∀ data, Choice.Outruns data (advanceSlots (first :: others) slots [])
        (advanceSlots (first :: others) slots data)) →
      Calm (.choice first others) (.choice slots fallback leftover)
  | barred {item bounds current outputs inProgress} :
      bounds.max = some 0 → Calm (.repetition item bounds) (.repetition current outputs inProgress)
  | inside {item bounds current} {outputs : List Value} :
      Calm item current → (∀ x rest, item.advance current [] = .ok (.finished x rest) → rest = []) →
      (∀ x rest, item.advance current [] = .ok (.finished x rest) →
        bounds.isCeiling (outputs ++ [x]).length = true ∨
          ∃ c required, item.advance item.initial [] = .ok (.incomplete c required)) →
      Calm (.repetition item bounds) (.repetition current outputs true)
  | between {item bounds outputs} :
      Calm item item.initial → item.Traceless bounds outputs →
      Calm (.repetition item bounds) (.repetition item.initial outputs false)
  | mapped {body t c} : Calm body c → Calm (.mapped body t) c

theorem Calm.undisturbed {g : Grammar} {c : Checkpoint} (h : g.Calm c) : g.Undisturbed c := by
  induction h with
  | @literal bytes matched =>
    intro asked required h data
    obtain rfl := Literal.asked_eq h
    exact .refl _
  | @integer range n =>
    intro asked required h data
    have hstep : range.advance n [] = .ok (.incomplete asked required) := h
    obtain ⟨n',hr,rfl,_⟩ := IntegerRange.advance_incomplete hstep
    cases hr
    exact .refl _
  | @inFirst keep first second c _ hnil _ hfirst hsecond =>
    intro asked required h data
    obtain ⟨c₁,ha,rfl⟩ | ⟨a,rest,c₂,ha,hb,rfl⟩ := advance_inFirst_incomplete h
    · exact inFirst_agrees keep second (hfirst c₁ required ha data)
    · -- The first part ends in the empty step, and the second one begins in it.
      obtain rfl := hnil a rest ha
      have hmatch : first.advance c data = .ok (.finished a data) :=
        (first.advance_final c).finished ha
      simp only [advance,hmatch]
      exact keep.proceed_agrees a (hsecond a [] ha c₂ required hb data)
  | @inSecond keep first second c a _ ih =>
    intro asked required h data
    obtain ⟨c₂,hb,rfl⟩ := Keep.proceed_incomplete h
    exact keep.proceed_agrees a (ih c₂ required hb data)
  | @choice first others slots fallback leftover _ hahead ih =>
    intro asked required h data
    rw [advance_choice] at h
    obtain ⟨hfault,_,rfl,_⟩ := Choice.settle_incomplete h
    rw [advance_choice,advance_choice]
    exact (resumes_advanceSlots ih hfault data).settle_agrees (hahead data) fallback leftover
  | barred hmax =>
    intro asked required h
    simp only [advance,Repetition.advance_of_max_zero hmax] at h
    cases h
  | inside _ hnil hnext ih => exact undisturbed_inside ih hnil hnext
  | @between item bounds outputs _ htraceless ih =>
    by_cases hmax : bounds.max = some 0
    · intro asked required h
      simp only [advance,Repetition.advance_of_max_zero hmax] at h
      cases h
    · exact undisturbed_of_traceless hmax ih htraceless
  | @mapped body t c _ ih =>
    intro asked required h data
    exact t.on_agrees (ih asked required (Transform.on_incomplete h) data)

/-- Repetitions have a fixed count of items that consume something, and an alternative that matches
nothing does so at once. -/
inductive Placid : Grammar → Prop where
  | literal (bytes) : Placid (.literal bytes)
  | integer (range) : Placid (.integer range)
  | sequence {keep first second} :
      Placid first → Placid second → Placid (.sequence keep first second)
  | choice {first others} :
      (∀ g ∈ first :: others, Placid g) →
      (∀ g ∈ first :: others,
        (∀ o, ¬g.Derives [] o) ∨ ∃ o, g.advance g.initial [] = .ok (.finished o [])) →
      Placid (.choice first others)
  | repetition {item bounds} :
      Placid item → (∀ o, ¬item.Derives [] o) → bounds.max = some bounds.min →
      Placid (.repetition item bounds)
  | mapped {body t} : Placid body → Placid (.mapped body t)

theorem choice_pauses {first : Grammar} {others : List Grammar} {slots : List (Option Checkpoint)}
    {w : Bytes} (htotal : ∀ g ∈ first :: others, g.Total)
    (hslots : ∀ (i : Nat) (g : Grammar) (c : Checkpoint),
      (first :: others)[i]? = some g → slots[i]? = some (some c) → g.Fed w c)
    (fallback : Option Branch) (leftover : Bytes) {i : Nat} {g : Grammar} {c c' : Checkpoint}
    {data : Bytes} {required : Requirement} (hg : (first :: others)[i]? = some g)
    (hc : slots[i]? = some (some c)) (ha : g.advance c data = .ok (.incomplete c' required)) :
    ∃ c' required, (choice first others).advance (.choice slots fallback leftover) data =
      .ok (.incomplete c' required) := by
  have hfault : (advanceSlots (first :: others) slots data).findSome? Choice.fault? = none :=
    findSome?_fault?_advanceSlots fun i g c hg hc =>
      (htotal g (List.mem_of_getElem? hg)).faultless (hslots i g c hg hc)
  obtain ⟨_,_,_,hs⟩ := Choice.settle_of_incomplete fallback leftover data hfault
    (getElem?_advanceSlots_some.mpr ⟨g,c,hg,hc,ha⟩)
  rw [advance_choice]
  exact ⟨_,_,hs⟩

theorem Placid.pauses {g : Grammar} (hg : g.Placid) (htotal : g.Total) {w : Bytes} {c : Checkpoint}
    (h : g.Fed w c) (hc : g.Paused c) :
    ∃ c' required, g.advance c [] = .ok (.incomplete c' required) := by
  induction hg generalizing w c with
  | literal bytes =>
    cases hc with
    | @literal _ matched hm =>
      have hleft : bytes.drop matched ≠ [] := mt List.drop_eq_nil_iff.mp (Nat.not_le_of_lt hm)
      obtain ⟨b,left,hb⟩ := List.exists_cons_of_ne_nil hleft
      simp only [advance,Literal.advance,hb,Literal.scan]
      exact ⟨_,_,rfl⟩
  | integer range =>
    cases hc with
    | integer hn => exact ⟨_,_,rfl⟩
  | @sequence keep first second _ _ hfirst hsecond =>
    cases htotal with
    | sequence htotal₁ htotal₂ =>
      obtain ⟨inner,rfl,hinner⟩ | ⟨inner,a,v,rfl,hinner⟩ := h.sequence
      · cases hc with
        | inFirst hc =>
          obtain ⟨c',required,ha⟩ := hfirst htotal₁ hinner hc
          exact ⟨_,_,advance_inFirst_of_incomplete keep second ha⟩
      · cases hc with
        | inSecond hc =>
          obtain ⟨c',required,hb⟩ := hsecond htotal₂ hinner hc
          exact ⟨_,_,keep.proceed_of_incomplete a hb⟩
  | @choice first others _ _ ih =>
    cases htotal with
    | choice htotal =>
      obtain ⟨slots,fallback,leftover,rfl,hslots⟩ := h.choice
      cases hc with
      | choice _ hpaused _ _ _ =>
        obtain ⟨i,g,inner,hg,hinner⟩ := h.ready.exists_slot
        have hmem := List.mem_of_getElem? hg
        obtain ⟨c',required,ha⟩ :=
          ih g hmem (htotal g hmem) (hslots i g inner hg hinner) (hpaused i g inner hg hinner)
        exact choice_pauses htotal hslots fallback leftover hg hinner ha
  | @repetition item bounds _ hconsume _ ih =>
    cases htotal with
    | repetition htotal =>
      obtain ⟨current,outputs,inProgress,v,rfl,hv⟩ := h.repetition
      cases hc with
      | inside hc hm =>
        have hmax : bounds.max ≠ some 0 := fun hzero => absurd (hm 0 hzero) (Nat.not_lt_zero _)
        obtain ⟨c',required,ha⟩ := ih htotal hv hc
        exact ⟨_,_,(advance_repetition hmax).mpr (.inside ha)⟩
      | between hm =>
        have hmax : bounds.max ≠ some 0 := fun hzero => absurd (hm 0 hzero) (Nat.not_lt_zero _)
        obtain ⟨⟨x,rest⟩ | ⟨c',required⟩,ha⟩ := htotal.exists_outcome
        · obtain rfl := rest_of_finished_nil ha
          exact absurd ha (consumes_of_no_empty_word hconsume [] x)
        · exact ⟨_,_,(advance_repetition hmax).mpr (.inside ha)⟩
  | @mapped body t _ ih =>
    cases htotal with
    | mapped htotal _ =>
      cases hc with
      | mapped hc =>
        obtain ⟨c',required,ha⟩ := ih htotal h.mapped hc
        exact ⟨_,_,congrArg t.on ha⟩

theorem Placid.eq_initial {g : Grammar} (hg : g.Placid) (htotal : g.Total) {w rest : Bytes}
    {c : Checkpoint} {x : Value} (h : g.Fed w c) (ha : g.advance c [] = .ok (.finished x rest)) :
    c = g.initial := by
  rcases h.ready with rfl | hc
  · rfl
  · obtain ⟨c',required,ha'⟩ := hg.pauses htotal h hc
    cases ha.symm.trans ha'

theorem Placid.outruns {first : Grammar} {others : List Grammar}
    (hg : (Grammar.choice first others).Placid) (htotal : (Grammar.choice first others).Total)
    {w : Bytes} {slots : List (Option Checkpoint)} {fallback : Option Branch} {leftover : Bytes}
    (h : (Grammar.choice first others).Fed w (.choice slots fallback leftover)) (data : Bytes) :
    Choice.Outruns data (advanceSlots (first :: others) slots [])
      (advanceSlots (first :: others) slots data) := by
  intro i j c' required x y rest rest' hi hx hj
  obtain ⟨g,c,hgi,hci,ha⟩ := getElem?_advanceSlots_some.mp hi
  obtain ⟨g',d,hgi',hdi,hx⟩ := getElem?_advanceSlots_some.mp hx
  obtain rfl := Option.some.inj (hgi.symm.trans hgi')
  obtain rfl : c = d := Option.some.inj (Option.some.inj (hci.symm.trans hdi))
  obtain ⟨ended,d,hended,hd,hb⟩ := getElem?_advanceSlots_some.mp hj
  obtain ⟨_,_,_,heq,hslots⟩ := h.choice
  cases heq
  have hmem := List.mem_of_getElem? hended
  cases hg with
  | choice hplacid hempty =>
    cases htotal with
    | choice htotal =>
      have hfed := hslots j ended d hended hd
      rcases h.ready with hstart | hpaused
      · rw [initial_choice] at hstart
        cases hstart
        obtain rfl := eq_initial_of_initialSlots hgi hci
        obtain rfl := eq_initial_of_initialSlots hended hd
        obtain rfl := rest_of_finished_nil hb
        rcases hempty g (List.mem_of_getElem? hgi) with hnone | ⟨o,ho⟩
        · rw [List.length_nil,Nat.zero_add]
          exact .inl (rest_lt_of_finished (consumes_of_no_empty_word hnone) hx)
        · cases ha.symm.trans ho
      · cases hpaused with
        | choice _ hpaused _ _ _ =>
          obtain ⟨_,_,hb'⟩ :=
            (hplacid ended hmem).pauses (htotal ended hmem) hfed (hpaused j ended d hended hd)
          cases hb.symm.trans hb'

theorem Placid.calm {g : Grammar} (hg : g.Placid) (htotal : g.Total) {w : Bytes} {c : Checkpoint}
    (h : g.Fed w c) : g.Calm c := by
  induction hg generalizing w c with
  | literal bytes =>
    obtain ⟨matched,rfl,_⟩ := h.ready.literal
    exact .literal
  | integer range =>
    obtain ⟨n,rfl,_⟩ := h.ready.integer
    exact .integer
  | @sequence keep first second hplacid _ hfirst hsecond =>
    cases htotal with
    | sequence htotal₁ htotal₂ =>
      obtain ⟨inner,rfl,hinner⟩ | ⟨inner,a,v,rfl,hinner⟩ := h.sequence
      · refine .inFirst (hfirst htotal₁ hinner) (fun x rest ha => ?_)
          fun _ _ _ => hsecond htotal₂ .start
        obtain rfl := hplacid.eq_initial htotal₁ hinner ha
        exact rest_of_finished_nil ha
      · exact .inSecond (hsecond htotal₂ hinner)
  | @choice first others hplacid hempty ih =>
    cases htotal with
    | choice htotal =>
      obtain ⟨slots,fallback,leftover,rfl,hslots⟩ := h.choice
      refine .choice (fun i g c hg hc => ?_)
        (Placid.outruns (.choice hplacid hempty) (.choice htotal) h)
      have hmem := List.mem_of_getElem? hg
      exact ih g hmem (htotal g hmem) (hslots i g c hg hc)
  | @repetition item bounds hplacid hconsume hfixed ih =>
    cases htotal with
    | repetition htotal =>
      obtain ⟨current,outputs,inProgress,v,rfl,hv⟩ := h.repetition
      obtain ⟨_,_,_,heq,_,hbegun,hroom⟩ := h.ready.repetition
      cases heq
      rcases hroom with ⟨hmax,_,_⟩ | ⟨_,hm⟩
      · exact .barred hmax
      have hmatch := consumes_of_no_empty_word hconsume
      cases inProgress with
      | true =>
        -- An item that consumes something does not end in an empty step.
        have hnil (x : Value) (rest : Bytes) :
            item.advance current [] ≠ .ok (.finished x rest) := by
          intro ha
          obtain rfl := hplacid.eq_initial htotal hv ha
          obtain rfl := rest_of_finished_nil ha
          exact hmatch [] x ha
        exact .inside (ih htotal hv) (fun x rest ha => absurd ha (hnil x rest))
          fun x rest ha => absurd ha (hnil x rest)
      | false =>
        obtain rfl := hbegun rfl
        refine .between (ih htotal .start) fun _ _ => ⟨fun hmay => ?_,.inr (.inr hmatch)⟩
        rw [Repetition.mayEnd_of_lt (hm bounds.min hfixed)] at hmay
        cases hmay
  | @mapped body t _ ih =>
    cases htotal with
    | mapped htotal _ => exact .mapped (ih htotal h.mapped)

/-- Asking with no bytes disturbs no parse of a placid grammar, and none at a calm place. Between
two items of a repetition it disturbs nothing exactly where it leaves no trace. -/
theorem Fed.empty_step_harmless {g : Grammar} {w : Bytes} {c : Checkpoint} (h : g.Fed w c) :
    (g.Placid → g.Total → g.Undisturbed c) ∧ (g.Calm c → g.Undisturbed c) ∧
      ∀ item bounds outputs, g = .repetition item bounds →
        c = .repetition item.initial outputs false → bounds.max ≠ some 0 →
        item.Undisturbed item.initial → (g.Undisturbed c ↔ item.Traceless bounds outputs) := by
  refine ⟨fun hplacid htotal => (hplacid.calm htotal h).undisturbed,Calm.undisturbed,?_⟩
  rintro item bounds outputs rfl rfl hmax hitem
  exact ⟨traceless_of_undisturbed hmax hitem,undisturbed_of_traceless hmax hitem⟩

theorem empty_step_harmless_words :
    (sequence .both (.literal (utf8 "ab"))
        (.choice (.literal (utf8 "x")) [.literal []])).Undisturbed
        (.inFirst (.literal 1)) ∧
      (repetition (.literal (utf8 "ab")) ⟨0,none,nofun⟩).Undisturbed
        (.repetition (.literal 1) [] true) ∧
      (repetition (.literal (utf8 "ab")) ⟨2,none,nofun⟩).Undisturbed
        (.repetition (.literal 0) [.none] false) := by
  refine ⟨?_,?_,?_⟩
  · have hfed : (sequence .both (.literal (utf8 "ab"))
        (.choice (.literal (utf8 "x")) [.literal []])).Fed ([] ++ utf8 "a") _ := .feed .start rfl
    refine (Fed.empty_step_harmless hfed).1 ?_ ?_
    · refine .sequence (.literal _) (.choice ?_ ?_)
      · exact List.forall_mem_cons.mpr ⟨.literal _,List.forall_mem_singleton.mpr (.literal _)⟩
      · exact List.forall_mem_cons.mpr ⟨.inl (no_empty_word_literal (by decide)),
          List.forall_mem_singleton.mpr (.inr ⟨_,rfl⟩)⟩
    · refine .sequence (.literal _) (.choice ?_)
      exact List.forall_mem_cons.mpr ⟨.literal _,List.forall_mem_singleton.mpr (.literal _)⟩
  · have hfed : (repetition (.literal (utf8 "ab")) ⟨0,none,nofun⟩).Fed ([] ++ utf8 "a") _ :=
      .feed .start rfl
    refine (Fed.empty_step_harmless hfed).2.1 (.inside .literal ?_ ?_)
    · rintro x rest ⟨⟩
    · rintro x rest ⟨⟩
  · have hfed : (repetition (.literal (utf8 "ab")) ⟨2,none,nofun⟩).Fed ([] ++ utf8 "ab") _ :=
      .feed .start rfl
    refine ((Fed.empty_step_harmless hfed).2.2 _ _ _ rfl rfl nofun Calm.literal.undisturbed).mpr ?_
    have hitem : ∀ o, ¬(literal (utf8 "ab")).Derives [] o := no_empty_word_literal (by decide)
    exact fun _ _ => ⟨nofun,.inr (.inr (consumes_of_no_empty_word hitem))⟩

/-- A list may end before it begins, but no longer once it has been asked whether it may. -/
theorem empty_step_before_list :
    ∃ asked required e,
      (repetition (.literal (utf8 "ab")) ⟨0,none,nofun⟩).advance
          (.repetition (.literal 0) [] false) [] = .ok (.incomplete asked required) ∧
        (repetition (.literal (utf8 "ab")) ⟨0,none,nofun⟩).advance
          (.repetition (.literal 0) [] false) (utf8 "x") = .ok (.finished (.list []) (utf8 "x")) ∧
        (repetition (.literal (utf8 "ab")) ⟨0,none,nofun⟩).advance asked (utf8 "x") =
          .error (.parse e) ∧
        ¬(repetition (.literal (utf8 "ab")) ⟨0,none,nofun⟩).Undisturbed
          (.repetition (.literal 0) [] false) := by
  refine ⟨_,_,_,rfl,rfl,rfl,fun h => ?_⟩
  cases h _ _ rfl (utf8 "x")

end GuidedDecoding.Grammar
