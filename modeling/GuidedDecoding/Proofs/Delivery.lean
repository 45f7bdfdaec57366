import GuidedDecoding.Proofs.Extension
import GuidedDecoding.Proofs.Filtering
import GuidedDecoding.Proofs.Increments
import GuidedDecoding.Proofs.Total

/-!
Whether a demand can be met. What a parse demands it also takes, cut into any pieces: after each
piece the rest of the demand is demanded, and once all of it has been taken the parse goes on, or
has ended with nothing left over. The demand before any step is one of an advance over no bytes,
which the checkpoint it is met from has not seen.
-/

set_option autoImplicit false

namespace GuidedDecoding

/-- The attempt goes on and demands what starts with `more`; it may have ended only if that is
nothing, and has taken all its input then. -/
def Attempt.Expects (more : Bytes) : Attempt → Prop
  | .ok (.finished _ rest) => more = [] ∧ rest = []
  | .ok (.incomplete _ required) => more <+: required.bytes
  | .error _ => False

/-- Whatever the demand starts with is taken, and the rest of the demand is demanded next. -/
def Delivers (advance : Bytes → Attempt) (demand : Bytes) : Prop :=
  ∀ lead more, demand = lead ++ more → lead ≠ [] → (advance lead).Expects more

theorem delivers_nil (advance : Bytes → Attempt) : Delivers advance [] := by
  intro lead more h hne
  exact absurd (List.append_eq_nil_iff.mp h.symm).1 hne

namespace Attempt

variable {more : Bytes} {attempt : Attempt}

theorem Expects.of_lead {less : Bytes} (h : attempt.Expects more) (hlead : less <+: more) :
    attempt.Expects less := by
  rcases attempt with f | (⟨x,rest⟩ | ⟨c,required⟩)
  · exact h
  · obtain ⟨rfl,rfl⟩ := h
    exact ⟨List.prefix_nil.mp hlead,rfl⟩
  · exact hlead.trans h

theorem Expects.cases (h : attempt.Expects more) :
    (∃ x, attempt = .ok (.finished x []) ∧ more = []) ∨
      ∃ c required, attempt = .ok (.incomplete c required) ∧ more <+: required.bytes := by
  rcases attempt with f | (⟨x,rest⟩ | ⟨c,required⟩)
  · exact absurd h id
  · obtain ⟨rfl,rfl⟩ := h
    exact .inl ⟨x,rfl,rfl⟩
  · exact .inr ⟨c,required,rfl,h⟩

theorem expects_of_incomplete {c : Checkpoint} {required : Requirement}
    (h : attempt = .ok (.incomplete c required)) : attempt.Expects [] :=
  h ▸ List.nil_prefix

theorem expects_of_finished {o : Value} (h : attempt = .ok (.finished o [])) :
    attempt.Expects [] :=
  h ▸ ⟨rfl,rfl⟩

end Attempt

theorem Delivers.of_lead {advance : Bytes → Attempt} {demand lead : Bytes}
    (h : Delivers advance demand) (hlead : lead <+: demand) : Delivers advance lead := by
  rintro front more rfl hne
  obtain ⟨behind,rfl⟩ := hlead
  exact (h front (more ++ behind) (List.append_assoc _ _ _) hne).of_lead (List.prefix_append _ _)

theorem Literal.scan_delivers {literal left : Bytes} {matched consumed : Nat}
    (hleft : matched + left.length = literal.length) :
    Delivers (scan literal matched consumed left) left := by
  rintro lead more rfl -
  have hscan := scan_append literal matched consumed lead more []
  rw [List.append_nil] at hscan
  rw [hscan]
  cases more with
  | nil =>
    have hmatched : matched + lead.length = literal.length := by simpa using hleft
    rw [scan,if_pos hmatched]
    exact ⟨rfl,rfl⟩
  | cons b more => exact List.prefix_rfl

theorem IntegerRange.demand_delivers (r : IntegerRange) (n : Numeral) :
    Delivers (r.advance n)
      (if r.requiresSign n then Requirement.borrowed [Numeral.minusSign] else .empty).bytes := by
  split
  · rename_i hsign
    simp only [requiresSign,Bool.and_eq_true,beq_iff_eq,Bool.not_eq_true',Option.isNone_iff_eq_none]
      at hsign
    obtain ⟨⟨hdigits,hneg⟩,hnone⟩ := hsign
    intro lead more h hne
    -- The sign is a single byte, so there is no taking part of it.
    obtain ⟨rfl,rfl⟩ : lead = [Numeral.minusSign] ∧ more = [] := by
      cases lead with
      | nil => exact absurd rfl hne
      | cons b lead =>
        obtain ⟨rfl,htail⟩ := List.cons.inj h
        obtain ⟨rfl,rfl⟩ := List.append_eq_nil_iff.mp htail.symm
        exact ⟨rfl,rfl⟩
    obtain ⟨required,ha⟩ := advance_minusSign hdigits hneg (isSome_magnitudes_of_none hnone)
    exact Attempt.expects_of_incomplete ha
  · exact delivers_nil _

theorem Keep.proceed_expects (keep : Keep) {second : Checkpoint → Bytes → Attempt} {c : Checkpoint}
    {data more : Bytes} (a : Value) (h : (second c data).Expects more) :
    (keep.proceed second c a data).Expects more := by
  obtain ⟨b,hb,rfl⟩ | ⟨c',required,hb,hmore⟩ := h.cases
  · exact Attempt.expects_of_finished (keep.proceed_of_finished a hb)
  · rw [keep.proceed_of_incomplete a hb]
    exact hmore

theorem Transform.on_expects {t : Transform} {attempt : Attempt} {more : Bytes}
    (hmap : ∀ x rest, attempt = .ok (.finished x rest) → ∃ o, t.apply x = .ok o)
    (h : attempt.Expects more) : (t.on attempt).Expects more := by
  obtain ⟨x,rfl,rfl⟩ | ⟨c,required,rfl,hmore⟩ := h.cases
  · obtain ⟨o,ho⟩ := hmap x [] rfl
    exact Attempt.expects_of_finished (on_of_finished ho [])
  · exact hmore

namespace Choice

variable {leftover data more : Bytes} {results : List SlotResult}

theorem lead_demand {required : List Requirement} (hne : required ≠ [])
    (h : ∀ r ∈ required, more <+: r.bytes) : more <+: (demand none required).bytes := by
  unfold demand
  split
  · exact h _ (List.mem_singleton.mpr rfl)
  · exact (Requirement.prefix_commonPrefix_iff hne).mpr h

theorem settle_expects (h : ∀ attempt, some attempt ∈ results → attempt.Expects more)
    (hrunning : ∃ attempt, some attempt ∈ results) :
    (settle none leftover data results).Expects more := by
  have hfault : results.findSome? fault? = none :=
    findSome?_fault?_eq_none fun f hf => absurd (h _ hf) id
  by_cases hmatch : ∃ (i : Nat) (x : Value) (rest : Bytes),
      results[i]? = some (some (.ok (.finished x rest)))
  · obtain ⟨i,x,rest,hi⟩ := hmatch
    obtain ⟨rfl,rfl⟩ := h _ (List.mem_of_getElem? hi)
    obtain ⟨o,ho⟩ | ⟨_,_,_,ho⟩ := settle_of_finished none leftover data hfault hi
    · exact Attempt.expects_of_finished ho
    · exact Attempt.expects_of_incomplete ho
  · have hlongest : longest 0 results = none :=
      longest_eq_none 0 fun i x rest hi => hmatch ⟨i,x,rest,hi⟩
    obtain ⟨attempt,hattempt⟩ := hrunning
    obtain ⟨x,rfl,_⟩ | ⟨c,required,rfl,_⟩ := (h _ hattempt).cases
    · obtain ⟨i,hi⟩ := List.mem_iff_getElem?.mp hattempt
      exact absurd ⟨i,x,[],hi⟩ hmatch
    · have hne := List.ne_nil_of_mem (mem_requirements hattempt)
      rw [settle_of_running hfault hne,nextFallback,hlongest]
      refine lead_demand hne fun r hr => ?_
      obtain ⟨result,hresult,hr⟩ := List.mem_filterMap.mp hr
      unfold requirement? at hr
      split at hr
      · cases hr
        exact h _ hresult
      · cases hr

end Choice

theorem Repetition.advance_expects {item : Item} {bounds : Bounds} {current : Checkpoint}
    {outputs : List Value} {inProgress : Bool} {data more : Bytes} (hmax : bounds.max ≠ some 0)
    (hfresh : Faultless (item.advance item.initial))
    (h : (item.advance current data).Expects more) :
    (advance item bounds current outputs inProgress data).Expects more := by
  obtain ⟨x,ha,rfl⟩ | ⟨c,required,ha,hmore⟩ := h.cases
  · obtain ⟨o,ho⟩ | ⟨_,required,ho⟩ := advance_of_item item hmax hfresh ha
    · exact Attempt.expects_of_finished ho
    · exact Attempt.expects_of_incomplete ho
  · rw [(rounds_iff hmax).mp (.inside ha)]
    exact hmore

namespace Grammar

theorem advance_inFirst_expects {keep : Keep} {first second : Grammar} {inner : Checkpoint}
    {data more : Bytes} (hstart : ∃ outcome, second.advance second.initial [] = .ok outcome)
    (h : (first.advance inner data).Expects more) :
    ((sequence keep first second).advance (.inFirst inner) data).Expects more := by
  obtain ⟨a,ha,rfl⟩ | ⟨c₁,required,ha,hmore⟩ := h.cases
  · -- The first part has taken the whole demand, and the second begins on nothing.
    rw [advance_inFirst_of_finished keep second ha]
    obtain ⟨⟨b,rest⟩ | ⟨c₂,required⟩,hb⟩ := hstart
    · obtain rfl := rest_of_finished_nil hb
      exact Attempt.expects_of_finished (keep.proceed_of_finished a hb)
    · exact Attempt.expects_of_incomplete (keep.proceed_of_incomplete a hb)
  · rw [advance_inFirst_of_incomplete keep second ha]
    exact hmore

/-- `required` is what a parse demands that stands at `c`: what the step that led there has
reported, or before any step what an advance over no bytes reports. -/
inductive Asks (g : Grammar) : Checkpoint → Requirement → Prop where
  | opening {c required} :
      g.advance g.initial [] = .ok (.incomplete c required) → Asks g g.initial required
  | step {c₀ c data required} :
      g.Ready c₀ → g.advance c₀ data = .ok (.incomplete c required) → Asks g c required

namespace Asks

variable {g : Grammar} {c : Checkpoint} {required : Requirement}

theorem literal {bytes : Bytes} (h : (Grammar.literal bytes).Asks c required) :
    ∃ matched, c = .literal matched ∧ matched ≤ bytes.length ∧
      required.bytes = bytes.drop matched := by
  cases h with
  | opening ha =>
    obtain ⟨more,hdrop,_,_,_,rfl⟩ := Literal.advance_incomplete (Nat.zero_le _) ha
    exact ⟨0,rfl,Nat.zero_le _,by simpa [Requirement.borrowed] using hdrop.symm⟩
  | step hc ha =>
    obtain ⟨matched,rfl,hm⟩ := hc.literal
    obtain ⟨more,_,hmore,hne,rfl,rfl⟩ := Literal.advance_incomplete hm ha
    refine ⟨_,rfl,Nat.le_of_not_lt fun hlt => hne ?_,hmore.symm⟩
    rw [← hmore,List.drop_eq_nil_of_le (Nat.le_of_lt hlt)]

theorem integer {range : IntegerRange} (h : (Grammar.integer range).Asks c required) :
    ∃ n, c = .integer n ∧ required =
      if range.requiresSign n then .borrowed [Numeral.minusSign] else .empty := by
  cases h with
  | opening ha =>
    cases ha
    exact ⟨.start,rfl,rfl⟩
  | step hc ha =>
    obtain ⟨n,rfl,_⟩ := hc.integer
    obtain ⟨n',_,rfl,rfl⟩ := IntegerRange.advance_incomplete ha
    exact ⟨n',rfl,rfl⟩

theorem sequence {keep : Keep} {first second : Grammar}
    (h : (Grammar.sequence keep first second).Asks c required) :
    (∃ inner, c = .inFirst inner ∧ first.Asks inner required) ∨
      (∃ inner a, c = .inSecond inner a ∧ second.Asks inner required) ∨
      ∃ a, c = .inFirst first.initial ∧ first.advance first.initial [] = .ok (.finished a []) ∧
        second.Asks second.initial required := by
  cases h with
  | opening ha =>
    obtain ⟨c₁,ha,_⟩ | ⟨a,rest,c₂,ha,hb,_⟩ := advance_inFirst_incomplete ha
    · exact .inl ⟨_,rfl,.opening ha⟩
    · obtain rfl := rest_of_finished_nil ha
      exact .inr (.inr ⟨a,rfl,ha,.opening hb⟩)
  | step hc ha =>
    obtain ⟨inner,rfl,hinner⟩ | ⟨inner,a,rfl,hinner⟩ := hc.sequence
    · obtain ⟨c₁,hf,rfl⟩ | ⟨a,rest,c₂,_,hb,rfl⟩ := advance_inFirst_incomplete ha
      · exact .inl ⟨c₁,rfl,.step hinner hf⟩
      · exact .inr (.inl ⟨c₂,a,rfl,.step second.ready_initial hb⟩)
    · obtain ⟨c₂,hb,rfl⟩ := Keep.proceed_incomplete ha
      exact .inr (.inl ⟨c₂,a,rfl,.step hinner.ready hb⟩)

theorem choice {first : Grammar} {others : List Grammar}
    (hstart : ∀ g ∈ first :: others, ∃ outcome, g.advance g.initial [] = .ok outcome)
    (hne : required.bytes ≠ []) (h : (Grammar.choice first others).Asks c required) :
    ∃ slots leftover, c = .choice slots none leftover ∧ (∃ inner, some inner ∈ slots) ∧
      slots.length = (first :: others).length ∧
      ∀ (i : Nat) (g : Grammar) (inner : Checkpoint), (first :: others)[i]? = some g →
        slots[i]? = some (some inner) →
        ∃ r, g.Asks inner r ∧ required.bytes <+: r.bytes := by
  have hunmatched {fallback : Option Branch} {leftover data : Bytes}
      {results : List Choice.SlotResult}
      (hdemand : required = Choice.demand (Choice.nextFallback fallback leftover data results).1
        (results.filterMap Choice.requirement?)) :
      (Choice.nextFallback fallback leftover data results).1 = none := by
    cases hb : (Choice.nextFallback fallback leftover data results).1 with
    | none => rfl
    | some b =>
      rw [hdemand,hb,Choice.demand_of_fallback] at hne
      exact absurd rfl hne
  have hlead {results : List Choice.SlotResult} {i : Nat} {inner : Checkpoint} {r : Requirement}
      (hr : results[i]? = some (some (.ok (.incomplete inner r)))) :
      (Choice.demand none (results.filterMap Choice.requirement?)).bytes <+: r.bytes :=
    Choice.lead_of_demand (Choice.mem_requirements (List.mem_of_getElem? hr))
  cases h with
  | opening ha =>
    rw [initial_choice,advance_choice] at ha
    obtain ⟨_,_,_,hdemand⟩ := Choice.settle_incomplete ha
    have hnone := hunmatched hdemand
    rw [hnone] at hdemand
    refine ⟨_,_,initial_choice first others,⟨first.initial,List.mem_cons_self⟩,
      length_initialSlots _,fun i g inner hg hinner => ?_⟩
    obtain rfl := eq_initial_of_initialSlots hg hinner
    -- No alternative has ended on nothing, since that would be a match.
    obtain ⟨⟨x,rest⟩ | ⟨c₁,r⟩,ha⟩ := hstart g (List.mem_of_getElem? hg)
    · exact absurd (getElem?_advanceSlots_some.mpr ⟨g,_,hg,hinner,ha⟩)
        (Choice.getElem?_ne_finished (Choice.longest_of_nextFallback hnone))
    · have hslot := getElem?_advanceSlots_some.mpr ⟨g,_,hg,hinner,ha⟩
      exact ⟨r,.opening ha,hdemand ▸ hlead hslot⟩
  | step hc ha =>
    obtain ⟨slots,fallback,leftover,rfl,hlength,hslots,_,_⟩ := hc.choice
    rw [advance_choice] at ha
    obtain ⟨_,hrunning,rfl,hdemand⟩ := Choice.settle_incomplete ha
    have hnone := hunmatched hdemand
    rw [hnone] at hdemand ⊢
    refine ⟨_,_,rfl,Choice.exists_running hrunning,?_,fun i g inner hg hinner => ?_⟩
    · rw [List.length_map,length_advanceSlots _ hlength]
    · obtain ⟨c₀,r,hc₀,ha⟩ := incomplete_of_nextSlot hg hinner
      have hslot := getElem?_advanceSlots_some.mpr ⟨g,c₀,hg,hc₀,ha⟩
      exact ⟨r,.step (hslots i g c₀ hg hc₀) ha,hdemand ▸ hlead hslot⟩

theorem of_freshDemand {item : Grammar} (hne : required.bytes ≠ [])
    (h : Repetition.freshDemand item.toItem = .ok required) : item.Asks item.initial required := by
  unfold Repetition.freshDemand at h
  split at h
  · rename_i ha
    cases h
    exact .opening ha
  · cases h
    exact absurd rfl hne
  · cases h
    exact absurd rfl hne
  · cases h

theorem repetition {item : Grammar} {bounds : Bounds} (hne : required.bytes ≠ [])
    (h : (Grammar.repetition item bounds).Asks c required) :
    ∃ current outputs inProgress, c = .repetition current outputs inProgress ∧
      bounds.max ≠ some 0 ∧ item.Asks current required := by
  have hroom {outputs : List Value} (hm : ∀ m ∈ bounds.max, outputs.length < m) :
      bounds.max ≠ some 0 := fun hzero => absurd (hm 0 hzero) (Nat.not_lt_zero _)
  cases h with
  | opening ha =>
    obtain ⟨_,_,_,hc,_,_,hmax,_,hrounds⟩ := (ready_initial _).rounds ha
    cases hc
    refine ⟨_,_,_,rfl,hmax,?_⟩
    generalize hr : (Except.ok (Outcome.incomplete _ required) : Attempt) = result at hrounds
    cases hrounds with
    | stop _ _ => cases hr
    | fail _ _ => cases hr
    | fault _ => cases hr
    | inside ha =>
      cases hr
      exact .opening ha
    | ceiling _ _ => cases hr
    | between _ _ =>
      obtain ⟨_,⟨_,rfl⟩ | ⟨_,hdemand⟩⟩ := Repetition.pause_incomplete hr.symm
      · exact absurd rfl hne
      · exact of_freshDemand hne hdemand
    | stall _ _ _ _ _ => cases hr
    | short _ _ _ _ _ => cases hr
    | next ha _ hrest _ _ => exact absurd (rest_of_finished_nil ha) hrest
  | step hc ha =>
    cases hc.pausesAt ha with
    | inside hcurrent ha hm => exact ⟨_,_,_,rfl,hroom hm,.step hcurrent ha⟩
    | enough _ _ => exact absurd rfl hne
    | short _ _ hm hdemand => exact ⟨_,_,_,rfl,hroom hm,of_freshDemand hne hdemand⟩

theorem mapped {body : Grammar} {t : Transform} (h : (Grammar.mapped body t).Asks c required) :
    body.Asks c required := by
  cases h with
  | opening ha => exact .opening (Transform.on_incomplete ha)
  | step hc ha => exact .step hc.mapped (Transform.on_incomplete ha)

theorem delivers {w : Bytes} (hg : g.Total) (hfed : g.Fed w c) (h : g.Asks c required) :
    Delivers (g.advance c) required.bytes := by
  induction hg generalizing w c required with
  | literal bytes =>
    obtain ⟨matched,rfl,hm,hrequired⟩ := h.literal
    rw [hrequired]
    exact Literal.scan_delivers (by rw [List.length_drop]; omega)
  | integer range =>
    obtain ⟨n,rfl,rfl⟩ := h.integer
    exact range.demand_delivers n
  | @sequence keep first second _ htotal hfirst hsecond =>
    intro lead more hsplit hne
    obtain ⟨inner,rfl,hinner⟩ | ⟨inner,a,rfl,hinner⟩ | ⟨a,rfl,ha,hstart⟩ := h.sequence
    · obtain ⟨_,hc,hv⟩ | ⟨_,_,_,hc,_⟩ := hfed.sequence <;> cases hc
      exact advance_inFirst_expects htotal.exists_outcome (hfirst hv hinner lead more hsplit hne)
    · obtain ⟨_,hc,_⟩ | ⟨_,_,v,hc,hv⟩ := hfed.sequence <;> cases hc
      exact keep.proceed_expects a (hsecond hv hinner lead more hsplit hne)
    · have hpassed : first.advance first.initial ([] ++ lead) = .ok (.finished a ([] ++ lead)) :=
        (first.advance_final first.initial).finished ha
      rw [List.nil_append] at hpassed
      rw [advance_inFirst_of_finished keep second hpassed]
      exact keep.proceed_expects a (hsecond .start hstart lead more hsplit hne)
  | @choice first others htotal ih =>
    intro lead more hsplit hne
    have hdemand : required.bytes ≠ [] := hsplit ▸ List.append_ne_nil_of_left_ne_nil hne more
    obtain ⟨slots,leftover,rfl,⟨inner,hinner⟩,hlength,hslots⟩ :=
      h.choice (fun g hg => (htotal g hg).exists_outcome) hdemand
    obtain ⟨_,_,_,hc,hfeds⟩ := hfed.choice
    cases hc
    rw [advance_choice]
    refine Choice.settle_expects (fun attempt hr => ?_) ?_
    · obtain ⟨i,hr⟩ := List.mem_iff_getElem?.mp hr
      obtain ⟨g,c,hg,hc,rfl⟩ := getElem?_advanceSlots_some.mp hr
      obtain ⟨r,hasks,hlead⟩ := hslots i g c hg hc
      exact (ih g (List.mem_of_getElem? hg) (hfeds i g c hg hc) hasks).of_lead hlead
        lead more hsplit hne
    · obtain ⟨i,hi⟩ := List.mem_iff_getElem?.mp hinner
      have hlt := (List.getElem?_eq_some_iff.mp hi).1
      exact ⟨_,List.mem_of_getElem? (getElem?_advanceSlots_some.mpr
        ⟨_,inner,List.getElem?_eq_getElem (hlength ▸ hlt),hi,rfl⟩)⟩
  | @repetition item bounds htotal ih =>
    intro lead more hsplit hne
    have hdemand : required.bytes ≠ [] := hsplit ▸ List.append_ne_nil_of_left_ne_nil hne more
    obtain ⟨current,outputs,inProgress,rfl,hmax,hasks⟩ := h.repetition hdemand
    obtain ⟨_,_,_,v,hc,hv⟩ := hfed.repetition
    cases hc
    exact Repetition.advance_expects hmax (htotal.faultless .start)
      (ih hv hasks lead more hsplit hne)
  | @mapped body t _ hmap ih =>
    intro lead more hsplit hne
    refine Transform.on_expects (fun x rest ha => ?_) (ih hfed.mapped h.mapped lead more hsplit hne)
    obtain ⟨u,_,hu⟩ := hfed.mapped.derives (hfed.mapped.ready.completes_of_finished ha)
    exact hmap u x hu

end Asks

end Grammar

namespace Session

variable {g : Grammar} {s : Session} {w : Bytes}

def feedAll (s : Session) : List Bytes → Except Failure Session
  | [] => .ok s
  | piece :: pieces =>
    match s.feed (.bytes piece) with
    | .error e => .error e
    | .ok (_,next) => next.feedAll pieces

theorem Demanded.asks {n : Nat} {c : Checkpoint} {required : Requirement} {canStop : Bool}
    (h : Demanded g n c required canStop) (hne : required.bytes ≠ []) : g.Asks c required := by
  cases h with
  | opening ha => exact .opening ha
  | matched _ => exact absurd rfl hne
  | rejected _ => exact absurd rfl hne
  | step hc ha => exact .step hc ha

theorem Reached.feed_lead (h : Reached g w s) (htotal : g.Total) (hs : s.isFinished = false)
    {chunk : Chunk} {lead more : Bytes} (hview : chunk.toView = .ok lead)
    (hsplit : s.required.bytes = lead ++ more) (hne : lead ≠ []) :
    ∃ o s', s.feed chunk = .ok (o,s') ∧ Reached g (w ++ lead) s' ∧
      (s'.isFinished = true ∧ s'.remaining = [] ∧ more = [] ∨
        s'.isFinished = false ∧ more <+: s'.required.bytes) := by
  obtain ⟨c,required,canStop,hp⟩ := phase_of_not_finished hs
  have hrunning := h.running
  have hrequired : s.required = required := by simp only [Session.required,hp]
  rw [hrequired] at hsplit
  have hdemand : required.bytes ≠ [] := hsplit ▸ List.append_ne_nil_of_left_ne_nil hne more
  have hexpects := ((hrunning.demanded hp).asks hdemand).delivers htotal (hrunning.fed hp)
    lead more hsplit hne
  have hfeed {o : Outcome} (ha : g.advance c lead = .ok o) : s.feed chunk = .ok (o,s.commit o) := by
    simp only [Session.feed,hp,Grammar.advanceChunk,hview,hrunning.grammar,ha]
    rfl
  obtain ⟨x,ha,hmore⟩ | ⟨c',required',ha,hmore⟩ := hexpects.cases
  · exact ⟨_,_,hfeed ha,h.feed hview (hfeed ha),.inl ⟨rfl,rfl,hmore⟩⟩
  · exact ⟨_,_,hfeed ha,h.feed hview (hfeed ha),.inr ⟨rfl,hmore⟩⟩

theorem Reached.feedAll_lead (h : Reached g w s) (htotal : g.Total) (hs : s.isFinished = false)
    {pieces : List Bytes} (hpieces : ∀ piece ∈ pieces, piece ≠ [])
    (hlead : pieces.flatten <+: s.required.bytes) :
    ∃ s', s.feedAll pieces = .ok s' ∧ Reached g (w ++ pieces.flatten) s' ∧
      (s'.isFinished = true → s'.remaining = []) := by
  induction pieces generalizing w s with
  | nil =>
    refine ⟨s,rfl,by simpa using h,fun hfinished => ?_⟩
    rw [hs] at hfinished
    cases hfinished
  | cons piece pieces ih =>
    have hothers : ∀ other ∈ pieces, other ≠ [] := fun other hother =>
      hpieces other (List.mem_cons_of_mem _ hother)
    obtain ⟨behind,hsplit⟩ := hlead
    rw [List.flatten_cons,List.append_assoc] at hsplit
    obtain ⟨o,s₁,hfeed,hreached,⟨_,hremaining,hmore⟩ | ⟨hrunning,hmore⟩⟩ :=
      h.feed_lead htotal hs (rfl : (Chunk.bytes piece).toView = .ok piece) hsplit.symm
        (hpieces piece List.mem_cons_self)
    · have hnone : pieces = [] := by
        cases pieces with
        | nil => rfl
        | cons other pieces =>
          have hother := (List.append_eq_nil_iff.mp hmore).1
          rw [List.flatten_cons,List.append_eq_nil_iff] at hother
          exact absurd hother.1 (hothers other List.mem_cons_self)
      subst hnone
      refine ⟨s₁,?_,by simpa using hreached,fun _ => hremaining⟩
      simp only [feedAll,hfeed]
    · obtain ⟨s',hall,hreached',hremaining⟩ :=
        ih hreached hrunning hothers ((List.prefix_append _ _).trans hmore)
      refine ⟨s',?_,?_,hremaining⟩
      · simp only [feedAll,hfeed]
        exact hall
      · rw [List.flatten_cons,← List.append_assoc]
        exact hreached'

/-- The demand of a session can always be met. Whatever it starts with can be fed: the session then
goes on with the rest of it as its demand, and if that was all of it, may end with nothing left
over. So the whole of it can be fed in any pieces. -/
theorem Reached.demand_deliverable (h : Reached g w s) (htotal : g.Total)
    (hs : s.isFinished = false) :
    (∀ chunk lead, chunk.toView = .ok lead → lead ≠ [] → lead <+: s.required.bytes →
      ∃ o s', s.feed chunk = .ok (o,s') ∧ (s'.isFinished = true → s'.remaining = []) ∧
        (lead ≠ s.required.bytes → s'.isFinished = false ∧
          s.required.bytes.drop lead.length <+: s'.required.bytes)) ∧
      ∀ pieces : List Bytes, (∀ piece ∈ pieces, piece ≠ []) → pieces.flatten = s.required.bytes →
        ∃ s', s.feedAll pieces = .ok s' ∧ (s'.isFinished = true → s'.remaining = []) := by
  constructor
  · rintro chunk lead hview hne ⟨more,hsplit⟩
    obtain ⟨o,s',hfeed,_,hnext⟩ := h.feed_lead htotal hs hview hsplit.symm hne
    refine ⟨o,s',hfeed,?_,fun hproper => ?_⟩
    · rintro hfinished
      rcases hnext with ⟨_,hremaining,_⟩ | ⟨hrunning,_⟩
      · exact hremaining
      · rw [hrunning] at hfinished
        cases hfinished
    · rcases hnext with ⟨_,_,rfl⟩ | ⟨hrunning,hmore⟩
      · exact absurd (by rw [← hsplit,List.append_nil]) hproper
      · rw [← hsplit,List.drop_left]
        exact ⟨hrunning,hmore⟩
  · intro pieces hpieces hflatten
    obtain ⟨s',hall,_,hremaining⟩ :=
      h.feedAll_lead htotal hs hpieces (hflatten ▸ List.prefix_rfl)
    exact ⟨s',hall,hremaining⟩

theorem demand_deliverable_words :
    ∃ s o s', Reached (.repetition (.choice (.literal (utf8 "abc")) [.literal (utf8 "abd")])
        ⟨2,none,nofun⟩) [] s ∧
      s.feed (.bytes (utf8 "a")) = .ok (o,s') ∧ s'.isFinished = false ∧
      utf8 "b" <+: s'.required.bytes ∧ ∃ s'', s.feedAll [utf8 "a",utf8 "b"] = .ok s'' := by
  have hreached : Reached (.repetition (.choice (.literal (utf8 "abc")) [.literal (utf8 "abd")])
      ⟨2,none,nofun⟩) [] _ := .start rfl
  have htotal : (Grammar.repetition (.choice (.literal (utf8 "abc")) [.literal (utf8 "abd")])
      ⟨2,none,nofun⟩).Total := by
    refine .repetition (.choice fun g hg => ?_)
    simp only [List.mem_cons,List.not_mem_nil,or_false] at hg
    rcases hg with rfl | rfl <;> exact .literal _
  obtain ⟨hstep,hpieces⟩ := hreached.demand_deliverable htotal rfl
  obtain ⟨o,s',hfeed,_,hrest⟩ := hstep (.bytes (utf8 "a")) (utf8 "a") rfl (by decide) ⟨utf8 "b",rfl⟩
  obtain ⟨hrunning,hmore⟩ := hrest (by decide)
  obtain ⟨s'',hall,_⟩ := hpieces [utf8 "a",utf8 "b"] (by decide) rfl
  exact ⟨_,o,s',hreached,hfeed,hrunning,hmore,s'',hall⟩

end Session

end GuidedDecoding
