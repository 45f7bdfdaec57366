import GuidedDecoding.Proofs.Agreement
import GuidedDecoding.Proofs.Completion
import GuidedDecoding.Proofs.Finality

/-!
Whether input that conflicts with a demand is refused. After a step it is, unless a repetition that
has yet to reach its minimum asks a fresh item what it demands and the item may begin in another
way; before any step it is, unless a repetition that may be left out stands at the front.
-/

set_option autoImplicit false

namespace GuidedDecoding

def Refuses (advance : Bytes → Attempt) (required : Requirement) : Prop :=
  ∀ data, required.compatible data = false → ∃ e, advance data = .error (.parse e)

theorem refuses_empty (advance : Bytes → Attempt) : Refuses advance .empty := by
  intro data h
  rw [Requirement.compatible_empty] at h
  cases h

theorem Refuses.of_lead {advance : Bytes → Attempt} {r s : Requirement} (h : Refuses advance s)
    (hlead : r.bytes <+: s.bytes) : Refuses advance r :=
  fun data hdata => h data (Requirement.incompatible_of_lead hlead hdata)

theorem Literal.scan_refuses (literal : Bytes) (matched consumed : Nat) (left : Bytes) :
    Refuses (Literal.scan literal matched consumed left) (.borrowed left) := by
  intro data h
  induction left generalizing matched consumed data with
  | nil => exact absurd List.nil_prefix (Requirement.incompatible_iff.mp h).1
  | cons b left ih =>
    cases data with
    | nil => exact absurd List.nil_prefix (Requirement.incompatible_iff.mp h).2
    | cons x data =>
      by_cases hx : x = b
      · subst hx
        have htail : (Requirement.borrowed left).compatible data = false := by
          obtain ⟨hlead,hdata⟩ := Requirement.incompatible_iff.mp h
          exact Requirement.incompatible_iff.mpr
            ⟨fun hp => hlead (List.cons_prefix_cons.mpr ⟨rfl,hp⟩),
              fun hp => hdata (List.cons_prefix_cons.mpr ⟨rfl,hp⟩)⟩
        simpa only [scan,if_true] using ih (matched + 1) (consumed + 1) data htail
      · simp [scan,hx]

theorem IntegerRange.advance_refuses {r : IntegerRange} {n : Numeral}
    (hsign : r.requiresSign n = true) :
    Refuses (r.advance n) (.borrowed [Numeral.minusSign]) := by
  intro data h
  obtain ⟨hlead,hdata⟩ := Requirement.incompatible_iff.mp h
  cases data with
  | nil => exact absurd List.nil_prefix hdata
  | cons b data =>
    have hb : b ≠ Numeral.minusSign := by
      rintro rfl
      exact hlead (List.cons_prefix_cons.mpr ⟨rfl,List.nil_prefix⟩)
    simp only [requiresSign,Bool.and_eq_true,beq_iff_eq,Bool.not_eq_true',Option.isNone_iff_eq_none]
      at hsign
    obtain ⟨⟨hdigits,hneg⟩,hnone⟩ := hsign
    have htakes : r.takesSign n b = false := by simp [takesSign,hb]
    have hclose : ∃ e, r.close n 0 (b :: data) = .error e := by
      unfold close
      rw [if_neg (by omega)]
      exact ⟨_,rfl⟩
    obtain ⟨e,hclose⟩ := hclose
    have hread : r.read n 0 (b :: data) = .error e := by
      simp only [read,htakes,Bool.false_eq_true,if_false,hclose]
      cases hd : Numeral.digit? b with
      | none => rfl
      | some d =>
        have hviable : r.viable (n.push d) = false := by
          simp [viable,Numeral.push,hneg,hnone]
        simp only [hviable,Bool.not_false,if_true]
        rfl
    exact ⟨e,by simp only [advance,hread]⟩

theorem IntegerRange.demand_refuses (r : IntegerRange) (n : Numeral) :
    Refuses (r.advance n)
      (if r.requiresSign n then .borrowed [Numeral.minusSign] else .empty) := by
  split
  · rename_i hsign
    exact advance_refuses hsign
  · exact refuses_empty _

namespace Choice

variable {leftover data : Bytes} {results : List SlotResult}

theorem demand_of_fallback (b : Branch) (required : List Requirement) :
    demand (some b) required = .empty := by
  unfold demand
  split <;> rfl

theorem mem_requirements {c : Checkpoint} {required : Requirement}
    (h : some (.ok (.incomplete c required)) ∈ results) :
    required ∈ results.filterMap requirement? :=
  List.mem_filterMap.mpr ⟨_,h,rfl⟩

theorem lead_of_demand {r : Requirement} {required : List Requirement} (h : r ∈ required) :
    (demand none required).bytes <+: r.bytes := by
  unfold demand
  split
  · obtain rfl := List.mem_singleton.mp h
    exact List.prefix_rfl
  · exact Requirement.lead_of_commonPrefix h

theorem settle_refused
    (h : ∀ attempt, some attempt ∈ results → ∃ e, attempt = .error (.parse e)) :
    ∃ e, settle none leftover data results = .error (.parse e) := by
  have hclosed : Closed results := by
    intro attempt hr
    obtain ⟨e,rfl⟩ := h attempt hr
    exact Attempt.decided_parseError e
  have hnone : longest 0 results = none := longest_eq_none 0 fun i o rest hr => by
    obtain ⟨e,he⟩ := h _ (List.mem_of_getElem? hr)
    cases he
  obtain ⟨hf,hr⟩ := closed_iff.mp hclosed
  rw [settle_of_closed hf hr,close,hnone]
  cases lastError results with
  | none => exact ⟨_,rfl⟩
  | some e => exact ⟨_,rfl⟩

end Choice

namespace Grammar

/-- No repetition that may be left out stands at the front, so what a fresh parse demands is what
its input starts with. -/
inductive Firm : Grammar → Prop where
  | literal (bytes) : Firm (.literal bytes)
  | integer (range) : Firm (.integer range)
  | sequence {keep first second} :
      Firm first → (∀ o, first.advance first.initial [] = .ok (.finished o []) → Firm second) →
      Firm (.sequence keep first second)
  | choice {first others} : (∀ g ∈ first :: others, Firm g) → Firm (.choice first others)
  | repetition {item bounds} : 0 < bounds.min → Firm item → Firm (.repetition item bounds)
  | barred {item bounds} : bounds.max = some 0 → Firm (.repetition item bounds)
  | mapped {body t} : Firm body → Firm (.mapped body t)

/-- Every repetition that demands a further item after the first has firm items. -/
inductive Steady : Grammar → Prop where
  | literal (bytes) : Steady (.literal bytes)
  | integer (range) : Steady (.integer range)
  | sequence {keep first second} :
      Steady first → Steady second → Steady (.sequence keep first second)
  | choice {first others} : (∀ g ∈ first :: others, Steady g) → Steady (.choice first others)
  | repetition {item bounds} :
      Steady item → (2 ≤ bounds.min → Firm item) → Steady (.repetition item bounds)
  | mapped {body t} : Steady body → Steady (.mapped body t)

theorem fail_of_refused {item : Grammar} {bounds : Bounds} {current : Checkpoint}
    {outputs : List Value} {inProgress : Bool} {data : Bytes} {e : ParseError}
    (hm : ∀ m ∈ bounds.max, outputs.length < m)
    (hend : Repetition.mayEnd bounds outputs inProgress = false)
    (ha : item.advance current data = .error (.parse e)) :
    (Grammar.repetition item bounds).advance (.repetition current outputs inProgress) data =
      .error (.parse e) := by
  have hmax : bounds.max ≠ some 0 := fun hzero => absurd (hm 0 hzero) (Nat.not_lt_zero _)
  exact (advance_repetition hmax).mpr (.fail ha hend)

theorem proceed_refused {keep : Keep} {second : Grammar} {c : Checkpoint} {a : Value} {data : Bytes}
    {e : ParseError} (h : second.advance c data = .error (.parse e)) :
    keep.proceed second.advance c a data = .error (.parse e) := by
  simp only [Keep.proceed,h]

theorem on_refused {t : Transform} {attempt : Attempt} {e : ParseError}
    (h : attempt = .error (.parse e)) : t.on attempt = .error (.parse e) := by
  rw [h]
  rfl

theorem refuses_of_freshDemand {item : Grammar} {required : Requirement}
    (hitem : ∀ {c required}, item.advance item.initial [] = .ok (.incomplete c required) →
      Refuses (item.advance item.initial) required)
    (h : Repetition.freshDemand item.toItem = .ok required) :
    Refuses (item.advance item.initial) required := by
  unfold Repetition.freshDemand at h
  split at h
  · rename_i ha
    cases h
    exact hitem ha
  · cases h
    exact refuses_empty _
  · cases h
    exact refuses_empty _
  · cases h

theorem Firm.refuses {g : Grammar} (hg : g.Firm) {c : Checkpoint} {required : Requirement}
    (h : g.advance g.initial [] = .ok (.incomplete c required)) :
    Refuses (g.advance g.initial) required := by
  induction hg generalizing c required with
  | literal bytes =>
    cases bytes with
    | nil => cases h
    | cons b bytes =>
      cases h
      exact Literal.scan_refuses _ 0 0 (b :: bytes)
  | integer range =>
    cases h
    exact range.demand_refuses .start
  | @sequence keep first second _ _ hfirst hsecond =>
    intro data hdata
    obtain ⟨c₁,ha,_⟩ | ⟨a,rest,c₂,ha,hb,_⟩ := advance_inFirst_incomplete h
    · obtain ⟨e,he⟩ := hfirst ha data hdata
      exact ⟨e,by simp only [initial,advance,he]⟩
    · obtain rfl := rest_of_finished_nil ha
      obtain ⟨e,he⟩ := hsecond a ha hb data hdata
      have hfinished : first.advance first.initial ([] ++ data) = .ok (.finished a ([] ++ data)) :=
        (first.advance_final first.initial).finished ha
      rw [List.nil_append] at hfinished
      exact ⟨e,by simp only [initial,advance,hfinished]; exact proceed_refused he⟩
  | @choice first others _ ih =>
    rw [initial_choice,advance_choice] at h
    obtain ⟨hfault,_,_,rfl⟩ := Choice.settle_incomplete h
    cases hb : (Choice.nextFallback none [] []
        (advanceSlots (first :: others) (initialSlots (first :: others)) [])).1 with
    | some b =>
      rw [Choice.demand_of_fallback]
      exact refuses_empty _
    | none =>
      have hunmatched := Choice.longest_of_nextFallback hb
      intro data hdata
      rw [initial_choice,advance_choice]
      refine Choice.settle_refused fun attempt hr => ?_
      obtain ⟨i,hr⟩ := List.mem_iff_getElem?.mp hr
      obtain ⟨g,c,hg,hc,rfl⟩ := getElem?_advanceSlots_some.mp hr
      obtain rfl := eq_initial_of_initialSlots hg hc
      -- What the alternative makes of no input decides what it makes of `data`.
      have hempty := getElem?_advanceSlots_some.mpr
        ⟨g,g.initial,hg,hc,(rfl : g.advance g.initial [] = _)⟩
      rcases ha : g.advance g.initial [] with (e | f) | (⟨x,rest⟩ | ⟨c₁,required⟩)
      · have hfinal : g.advance g.initial ([] ++ data) = .error (.parse e) :=
          (g.advance_final g.initial).parseError ha
        exact ⟨e,hfinal⟩
      · rw [ha] at hempty
        have hf := List.findSome?_eq_none_iff.mp hfault _ (List.mem_of_getElem? hempty)
        cases hf
      · rw [ha] at hempty
        exact absurd hempty (Choice.getElem?_ne_finished hunmatched)
      · rw [ha] at hempty
        have hmem := Choice.mem_requirements (List.mem_of_getElem? hempty)
        exact ((ih g (List.mem_of_getElem? hg) ha).of_lead (Choice.lead_of_demand hmem)) data hdata
  | @repetition item bounds hmin _ ih =>
    have hm : ∀ m ∈ bounds.max, ([] : List Value).length < m := fun m hm =>
      Nat.lt_of_lt_of_le hmin (bounds.min_le_max m hm)
    have hmax : bounds.max ≠ some 0 := fun hzero => absurd (hm 0 hzero) (Nat.not_lt_zero _)
    have hend : Repetition.mayEnd bounds [] false = false :=
      Repetition.mayEnd_of_lt hmin
    suffices hitem : Refuses (item.advance item.initial) required by
      intro data hdata
      obtain ⟨e,he⟩ := hitem data hdata
      exact ⟨e,fail_of_refused hm hend he⟩
    have hrounds := (advance_repetition hmax).mp h
    generalize hr : (Except.ok (Outcome.incomplete c required) : Attempt) = result at hrounds
    cases hrounds with
    | stop _ _ => cases hr
    | fail _ _ => cases hr
    | fault _ => cases hr
    | inside ha =>
      cases hr
      exact ih ha
    | ceiling _ _ => cases hr
    | between _ _ =>
      obtain ⟨_,⟨_,rfl⟩ | ⟨_,hdemand⟩⟩ := Repetition.pause_incomplete hr.symm
      · exact refuses_empty _
      · exact refuses_of_freshDemand ih hdemand
    | stall _ _ _ _ _ => cases hr
    | short _ _ _ _ _ => cases hr
    | next ha _ hrest _ _ => exact absurd (rest_of_finished_nil ha) hrest
  | barred hmax =>
    simp only [initial,advance,Repetition.advance_of_max_zero hmax] at h
    cases h
  | mapped _ ih =>
    intro data hdata
    obtain ⟨e,he⟩ := ih (Transform.on_incomplete h) data hdata
    exact ⟨e,on_refused he⟩

theorem Steady.refuses {g : Grammar} (hg : g.Steady) {c c' : Checkpoint} {data : Bytes}
    {required : Requirement} (hc : g.Ready c)
    (h : g.advance c data = .ok (.incomplete c' required)) : Refuses (g.advance c') required := by
  induction hg generalizing c c' data required with
  | literal bytes =>
    obtain ⟨matched,rfl,hm⟩ := hc.literal
    obtain ⟨more,_,hmore,_,rfl,rfl⟩ := Literal.advance_incomplete hm h
    have hscan := Literal.scan_refuses bytes (matched + data.length) 0 more
    exact hmore ▸ hscan
  | integer range =>
    obtain ⟨n,rfl,_⟩ := hc.integer
    obtain ⟨n',_,rfl,rfl⟩ := IntegerRange.advance_incomplete h
    exact range.demand_refuses n'
  | @sequence keep first second _ _ hfirst hsecond =>
    have hproceed {c₂ c₃ : Checkpoint} {a : Value} {rest : Bytes} (hc₂ : second.Ready c₂)
        (hb : second.advance c₂ rest = .ok (.incomplete c₃ required)) :
        Refuses ((Grammar.sequence keep first second).advance (.inSecond c₃ a)) required := by
      intro more hmore
      obtain ⟨e,he⟩ := hsecond hc₂ hb more hmore
      exact ⟨e,proceed_refused he⟩
    obtain ⟨inner,rfl,hinner⟩ | ⟨inner,a,rfl,hinner⟩ := hc.sequence
    · obtain ⟨c₁,ha,rfl⟩ | ⟨a,rest,c₂,_,hb,rfl⟩ := advance_inFirst_incomplete h
      · intro more hmore
        obtain ⟨e,he⟩ := hfirst hinner ha more hmore
        exact ⟨e,by simp only [advance,he]⟩
      · exact hproceed second.ready_initial hb
    · obtain ⟨c₂,hb,rfl⟩ := Keep.proceed_incomplete h
      exact hproceed hinner.ready hb
  | @choice first others _ ih =>
    obtain ⟨slots,fallback,leftover,rfl,_,hslots,_,_⟩ := hc.choice
    rw [advance_choice] at h
    obtain ⟨_,_,rfl,rfl⟩ := Choice.settle_incomplete h
    cases hb : (Choice.nextFallback fallback leftover data
        (advanceSlots (first :: others) slots data)).1 with
    | some b =>
      rw [Choice.demand_of_fallback]
      exact refuses_empty _
    | none =>
      intro more hmore
      rw [advance_choice]
      refine Choice.settle_refused fun attempt hr => ?_
      obtain ⟨i,hr⟩ := List.mem_iff_getElem?.mp hr
      obtain ⟨g,c₁,hg,hc₁,rfl⟩ := getElem?_advanceSlots_some.mp hr
      obtain ⟨c₀,required,hc₀,ha⟩ := incomplete_of_nextSlot hg hc₁
      have hmem := Choice.mem_requirements
        (List.mem_of_getElem? (getElem?_advanceSlots_some.mpr ⟨g,c₀,hg,hc₀,ha⟩))
      exact ((ih g (List.mem_of_getElem? hg) (hslots i g c₀ hg hc₀) ha).of_lead
        (Choice.lead_of_demand hmem)) more hmore
  | @repetition item bounds _ hfirm ih =>
    cases hc.pausesAt h with
    | inside hcurrent ha hm =>
      intro more hmore
      obtain ⟨e,he⟩ := ih hcurrent ha more hmore
      exact ⟨e,fail_of_refused hm rfl he⟩
    | enough _ _ => exact refuses_empty _
    | short hpos hshort hm hdemand =>
      intro more hmore
      have hitems : 2 ≤ bounds.min := Nat.lt_of_le_of_lt hpos hshort
      have hfresh := refuses_of_freshDemand (hfirm hitems).refuses hdemand
      obtain ⟨e,he⟩ := hfresh more hmore
      exact ⟨e,fail_of_refused hm (Repetition.mayEnd_of_lt hshort) he⟩
  | mapped _ ih =>
    intro more hmore
    obtain ⟨e,he⟩ := ih hc.mapped (Transform.on_incomplete h) more hmore
    exact ⟨e,on_refused he⟩

/-- No repetition in it may be left out: each demands an item, or admits none. -/
inductive Obligatory : Grammar → Prop where
  | literal (bytes) : Obligatory (.literal bytes)
  | integer (range) : Obligatory (.integer range)
  | sequence {keep first second} :
      Obligatory first → Obligatory second → Obligatory (.sequence keep first second)
  | choice {first others} :
      (∀ g ∈ first :: others, Obligatory g) → Obligatory (.choice first others)
  | repetition {item bounds} :
      (bounds.min = 0 → bounds.max = some 0) → Obligatory item →
      Obligatory (.repetition item bounds)
  | mapped {body t} : Obligatory body → Obligatory (.mapped body t)

/-- No repetition that may be left out occurs inside the item of another one. -/
inductive Shallow : Grammar → Prop where
  | literal (bytes) : Shallow (.literal bytes)
  | integer (range) : Shallow (.integer range)
  | sequence {keep first second} :
      Shallow first → Shallow second → Shallow (.sequence keep first second)
  | choice {first others} : (∀ g ∈ first :: others, Shallow g) → Shallow (.choice first others)
  | repetition {item bounds} : Obligatory item → Shallow (.repetition item bounds)
  | mapped {body t} : Shallow body → Shallow (.mapped body t)

theorem Obligatory.firm {g : Grammar} (hg : g.Obligatory) : g.Firm := by
  induction hg with
  | literal bytes => exact .literal bytes
  | integer range => exact .integer range
  | sequence _ _ hfirst hsecond => exact .sequence hfirst fun _ _ => hsecond
  | choice _ ih => exact .choice ih
  | @repetition item bounds hbarred _ ih =>
    rcases Nat.eq_zero_or_pos bounds.min with hzero | hpos
    · exact .barred (hbarred hzero)
    · exact .repetition hpos ih
  | mapped _ ih => exact .mapped ih

theorem Obligatory.shallow {g : Grammar} (hg : g.Obligatory) : g.Shallow := by
  induction hg with
  | literal bytes => exact .literal bytes
  | integer range => exact .integer range
  | sequence _ _ hfirst hsecond => exact .sequence hfirst hsecond
  | choice _ ih => exact .choice ih
  | repetition _ hitem _ => exact .repetition hitem
  | mapped _ ih => exact .mapped ih

theorem Shallow.steady {g : Grammar} (hg : g.Shallow) : g.Steady := by
  induction g with
  | literal bytes => exact .literal bytes
  | integer range => exact .integer range
  | sequence keep first second hfirst hsecond =>
    cases hg with
    | sequence hg₁ hg₂ => exact .sequence (hfirst hg₁) (hsecond hg₂)
  | choice first others ih =>
    cases hg with
    | choice hgs => exact .choice fun g hmem => ih g hmem (hgs g hmem)
  | repetition item bounds ih =>
    cases hg with
    | repetition hitem => exact .repetition (ih hitem.shallow) fun _ => hitem.firm
  | mapped body t ih =>
    cases hg with
    | mapped hg => exact .mapped (ih hg)

/-- What a step demands is necessary wherever no repetition inside the item of another one may be
left out: input that is taken agrees with the demand, and input that conflicts with it is a parse
error. -/
theorem Fed.demand_necessary {g : Grammar} {w data : Bytes} {c c' : Checkpoint}
    {required : Requirement} (hg : g.Shallow) (h : g.Fed w c)
    (ha : g.advance c data = .ok (.incomplete c' required)) (more : Bytes) :
    (∀ outcome, g.advance c' more = .ok outcome → required.compatible more = true) ∧
      (required.compatible more = false → ∃ e, g.advance c' more = .error (.parse e)) := by
  have hrefuses := hg.steady.refuses h.ready ha more
  refine ⟨fun outcome houtcome => ?_,hrefuses⟩
  cases hcompatible : required.compatible more with
  | true => rfl
  | false =>
    obtain ⟨e,he⟩ := hrefuses hcompatible
    cases he.symm.trans houtcome

theorem demand_necessary_words :
    ∃ e, (repetition (.choice (.literal (utf8 "abc")) [.literal (utf8 "abd")])
        ⟨3,none,nofun⟩).advance
      (.repetition (.choice [some (.literal 0),some (.literal 0)] none []) [.branch 0 .none] false)
      (utf8 "ax") = .error (.parse e) := by
  have hitem : (choice (.literal (utf8 "abc")) [.literal (utf8 "abd")]).Obligatory := by
    refine .choice fun g hg => ?_
    simp only [List.mem_cons,List.not_mem_nil,or_false] at hg
    rcases hg with rfl | rfl <;> exact .literal _
  have hstep : (repetition (.choice (.literal (utf8 "abc")) [.literal (utf8 "abd")])
      ⟨3,none,nofun⟩).advance
        (repetition (.choice (.literal (utf8 "abc")) [.literal (utf8 "abd")])
          ⟨3,none,nofun⟩).initial
        (utf8 "abc") = .ok (.incomplete (.repetition (.choice [some (.literal 0),some (.literal 0)]
          none []) [.branch 0 .none] false) (.owned (utf8 "ab"))) := by rfl
  exact (Fed.demand_necessary (.repetition hitem) .start hstep (utf8 "ax")).2 (by decide)

end Grammar

end GuidedDecoding
