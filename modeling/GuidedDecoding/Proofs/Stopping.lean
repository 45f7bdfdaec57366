import GuidedDecoding.Proofs.Completion

/-!
Grammars in which a parse that demands nothing may end. A pause demands nothing for many reasons,
and in most grammars some of them leave a match unfinished: a number demands no digit, and
alternatives that part demand nothing in common. Candid grammars have no such pause.
-/

set_option autoImplicit false

namespace GuidedDecoding

namespace Grammar

/-- No input at all decides nothing. -/
def Awaits (g : Grammar) : Prop :=
  ∃ c required, g.advance g.initial [] = .ok (.incomplete c required)

/-- Every pause demands something. A repetition of a fixed count never pauses where it may end. -/
inductive Insistent : Grammar → Prop where
  | literal (bytes) : Insistent (.literal bytes)
  | sequence {keep first second} :
      Insistent first → Insistent second → Insistent (.sequence keep first second)
  | repetition {item bounds} :
      Insistent item → item.Awaits → bounds.max = some bounds.min →
      Insistent (.repetition item bounds)
  | mapped {body t} : Insistent body → Insistent (.mapped body t)

/-- Every pause that demands nothing is at the end of a match. -/
inductive Candid : Grammar → Prop where
  | insistent {g} : Insistent g → Candid g
  | sequence {keep first second} :
      Candid first → Candid second → (Insistent first ∨ ∃ o, Derives second [] o) →
      Candid (.sequence keep first second)
  | repetition {item bounds} :
      Candid item → (bounds.min ≤ 1 ∨ Insistent item ∧ item.Awaits ∨ ∃ o, Derives item [] o) →
      Candid (.repetition item bounds)
  | mapped {body t} : Candid body → (∀ x, ∃ o, t.apply x = .ok o) → Candid (.mapped body t)

variable {item : Grammar} {bounds : Bounds} {outputs : List Value} {required : Requirement}

theorem freshDemand_of_awaits (h : item.Awaits)
    (hd : Repetition.freshDemand item.toItem = .ok required) :
    ∃ c, item.advance item.initial [] = .ok (.incomplete c required) := by
  obtain ⟨c,required',ha⟩ := h
  simp only [Repetition.freshDemand,ha,Except.ok.injEq] at hd
  exact ⟨c,hd ▸ ha⟩

theorem Insistent.demand {g : Grammar} (hg : g.Insistent) {c c' : Checkpoint} {data : Bytes}
    (hc : g.Ready c) (h : g.advance c data = .ok (.incomplete c' required)) :
    required.bytes ≠ [] := by
  induction hg generalizing c c' data required with
  | literal bytes =>
    obtain ⟨matched,rfl,hm⟩ := hc.literal
    obtain ⟨more,_,_,hne,_,rfl⟩ := Literal.advance_incomplete hm h
    exact hne
  | @sequence keep first second _ _ hfirst hsecond =>
    obtain ⟨inner,rfl,hinner⟩ | ⟨inner,a,rfl,hinner⟩ := hc.sequence
    · obtain ⟨c₁,ha,_⟩ | ⟨a,rest,c₂,_,hb,_⟩ := advance_inFirst_incomplete h
      · exact hfirst hinner ha
      · exact hsecond second.ready_initial hb
    · obtain ⟨c₂,hb,_⟩ := Keep.proceed_incomplete h
      exact hsecond hinner.ready hb
  | @repetition item bounds _ hawaits hfixed ih =>
    cases hc.pausesAt h with
    | inside hcurrent ha _ => exact ih hcurrent ha
    | enough hmin hm =>
      have hlt := hm bounds.min hfixed
      omega
    | short _ _ _ hdemand =>
      obtain ⟨c,ha⟩ := freshDemand_of_awaits hawaits hdemand
      exact ih item.ready_initial ha
  | mapped _ ih => exact ih hc.mapped (Transform.on_incomplete h)

theorem Completes.fill {current : Checkpoint} {inProgress : Bool} {x : Value}
    (hx : item.Completes current [] x []) (hm : ∀ m ∈ bounds.max, outputs.length < m)
    (henough : bounds.min ≤ outputs.length + 1 ∨ ∃ y, item.Derives [] y) :
    ∃ o, (Grammar.repetition item bounds).Completes (.repetition current outputs inProgress) []
      o [] := by
  rcases henough with hmin | ⟨y,hy⟩
  · refine ⟨_,hx.last (Bounds.contains_iff.mpr ?_)⟩
    rw [List.length_append,List.length_singleton]
    exact ⟨hmin,hm⟩
  · obtain ⟨n,hn⟩ : ∃ n, n = bounds.min - (outputs.length + 1) := ⟨_,rfl⟩
    have hwords : ∀ word ∈ List.replicate n (([] : Bytes),y), item.Derives word.1 word.2 := by
      intro word hword
      obtain ⟨_,rfl⟩ := List.mem_replicate.mp hword
      exact hy
    have hnothing : (List.replicate n (([] : Bytes),y)).flatMap Prod.fst = [] := by simp
    have hx' : item.Completes current [] x
        ((List.replicate n (([] : Bytes),y)).flatMap Prod.fst ++ []) := by
      rw [hnothing]
      exact hx
    refine ⟨_,.item hx' hwords (Bounds.contains_iff.mpr ?_)⟩
    rw [List.length_append,List.length_cons,List.length_map,List.length_replicate]
    refine ⟨by omega,fun m hmax => ?_⟩
    have hlt := hm m hmax
    have hle := bounds.min_le_max m hmax
    omega

theorem Candid.ends {g : Grammar} (hg : g.Candid) {c c' : Checkpoint} {data : Bytes}
    (hc : g.Ready c) (h : g.advance c data = .ok (.incomplete c' required))
    (hempty : required.bytes = []) : ∃ o, g.Completes c' [] o [] := by
  induction hg generalizing c c' data required with
  | insistent hg => exact absurd hempty (hg.demand hc h)
  | @sequence keep first second _ _ hsplit hfirst hsecond =>
    obtain ⟨inner,rfl,hinner⟩ | ⟨inner,a,rfl,hinner⟩ := hc.sequence
    · obtain ⟨c₁,ha,rfl⟩ | ⟨a,rest,c₂,_,hb,rfl⟩ := advance_inFirst_incomplete h
      · rcases hsplit with hinsistent | ⟨b,hb⟩
        · exact absurd hempty (hinsistent.demand hinner ha)
        · obtain ⟨a,ha⟩ := hfirst hinner ha hempty
          exact ⟨_,.inFirst ha hb⟩
      · obtain ⟨b,hb⟩ := hsecond second.ready_initial hb hempty
        exact ⟨_,.inSecond hb⟩
    · obtain ⟨c₂,hb,rfl⟩ := Keep.proceed_incomplete h
      obtain ⟨b,hb⟩ := hsecond hinner.ready hb hempty
      exact ⟨_,.inSecond hb⟩
  | @repetition item bounds _ henough ih =>
    cases hc.pausesAt h with
    | inside hcurrent ha hm =>
      obtain ⟨x,hx⟩ := ih hcurrent ha hempty
      rcases henough with hmin | ⟨hinsistent,_⟩ | hitem
      · exact hx.fill hm (.inl (Nat.le_trans hmin (Nat.le_add_left _ _)))
      · exact absurd hempty (hinsistent.demand hcurrent ha)
      · exact hx.fill hm (.inr hitem)
    | enough hmin hm =>
      exact ⟨_,.enough (Bounds.contains_iff.mpr ⟨hmin,fun m hmax => Nat.le_of_lt (hm m hmax)⟩)⟩
    | short hpos hshort hm hdemand =>
      rcases henough with hmin | ⟨hinsistent,hawaits⟩ | ⟨y,hy⟩
      · omega
      · obtain ⟨c,ha⟩ := freshDemand_of_awaits hawaits hdemand
        exact absurd hempty (hinsistent.demand item.ready_initial ha)
      · have hy' : item.Completes item.initial ([] ++ []) y [] := hy.completes
        exact hy'.fill hm (.inr ⟨y,hy⟩)
  | mapped _ htotal ih =>
    obtain ⟨x,hx⟩ := ih hc.mapped (Transform.on_incomplete h) hempty
    obtain ⟨o,ho⟩ := htotal x
    exact ⟨o,.mapped hx ho⟩

end Grammar

end GuidedDecoding
