import GuidedDecoding.Proofs.Cases
import GuidedDecoding.Proofs.Numerals
import GuidedDecoding.Proofs.Rounds

set_option autoImplicit false

namespace GuidedDecoding

namespace Grammar

/-- A checkpoint at which an advance has run out of input. -/
inductive Paused : Grammar → Checkpoint → Prop where
  | literal {bytes matched} :
      matched < bytes.length → Paused (.literal bytes) (.literal matched)
  | integer {range n} : range.Open n → Paused (.integer range) (.integer n)
  | inFirst {keep first second c} :
      Paused first c → Paused (.sequence keep first second) (.inFirst c)
  | inSecond {keep first second c a} :
      Paused second c → Paused (.sequence keep first second) (.inSecond c a)
  /-- Something runs, nothing is left over without a match, and an alternative that has matched no
  longer runs. -/
  | choice {first others leftover} {slots : List (Option Checkpoint)} {fallback : Option Branch} :
      slots.length = (first :: others).length →
      (∀ (i : Nat) g c, (first :: others)[i]? = some g → slots[i]? = some (some c) → Paused g c) →
      (∃ c, some c ∈ slots) →
      (fallback = none → leftover = []) →
      (∀ b ∈ fallback, slots[b.index]? = some none) →
      Paused (.choice first others) (.choice slots fallback leftover)
  | inside {item bounds c outputs} :
      Paused item c → (∀ m ∈ bounds.max, outputs.length < m) →
      Paused (.repetition item bounds) (.repetition c outputs true)
  | between {item bounds outputs} :
      (∀ m ∈ bounds.max, outputs.length < m) →
      Paused (.repetition item bounds) (.repetition item.initial outputs false)
  | mapped {body t c} : Paused body c → Paused (.mapped body t) c

/-- A checkpoint that a parse can continue from. -/
def Ready (g : Grammar) (c : Checkpoint) : Prop := c = g.initial ∨ g.Paused c

theorem ready_initial (g : Grammar) : g.Ready g.initial := .inl rfl

theorem Paused.ready {g : Grammar} {c : Checkpoint} (h : g.Paused c) : g.Ready c := .inr h

theorem getElem?_initialSlots {gs : List Grammar} {i : Nat} {slot : Option Checkpoint} :
    (initialSlots gs)[i]? = some slot ↔ ∃ g, gs[i]? = some g ∧ slot = some g.initial := by
  rw [initialSlots_eq_map,List.getElem?_map,Option.map_eq_some_iff]
  constructor
  · rintro ⟨g,hg,rfl⟩
    exact ⟨g,hg,rfl⟩
  · rintro ⟨g,hg,rfl⟩
    exact ⟨g,hg,rfl⟩

theorem eq_initial_of_initialSlots {gs : List Grammar} {i : Nat} {g : Grammar} {c : Checkpoint}
    (hg : gs[i]? = some g) (hc : (initialSlots gs)[i]? = some (some c)) : c = g.initial := by
  obtain ⟨g',hg',hc⟩ := getElem?_initialSlots.mp hc
  obtain rfl := Option.some.inj (hg.symm.trans hg')
  exact Option.some.inj hc

theorem length_initialSlots (gs : List Grammar) : (initialSlots gs).length = gs.length := by
  rw [initialSlots_eq_map,List.length_map]

theorem initial_choice (first : Grammar) (others : List Grammar) :
    (choice first others).initial = .choice (initialSlots (first :: others)) none [] := rfl

namespace Ready

variable {c : Checkpoint}

theorem literal {bytes : Bytes} (h : (Grammar.literal bytes).Ready c) :
    ∃ matched, c = .literal matched ∧ matched ≤ bytes.length := by
  rcases h with rfl | h
  · exact ⟨0,rfl,Nat.zero_le _⟩
  · cases h with
    | literal hm => exact ⟨_,rfl,Nat.le_of_lt hm⟩

theorem integer {range : IntegerRange} (h : (Grammar.integer range).Ready c) :
    ∃ n, c = .integer n ∧ range.Open n := by
  rcases h with rfl | h
  · exact ⟨.start,rfl,range.open_start⟩
  · cases h with
    | integer h => exact ⟨_,rfl,h⟩

theorem sequence {keep : Keep} {first second : Grammar}
    (h : (Grammar.sequence keep first second).Ready c) :
    (∃ inner, c = .inFirst inner ∧ first.Ready inner) ∨
      ∃ inner a, c = .inSecond inner a ∧ second.Paused inner := by
  rcases h with rfl | h
  · exact .inl ⟨_,rfl,first.ready_initial⟩
  · cases h with
    | inFirst h => exact .inl ⟨_,rfl,h.ready⟩
    | inSecond h => exact .inr ⟨_,_,rfl,h⟩

theorem choice {first : Grammar} {others : List Grammar}
    (h : (Grammar.choice first others).Ready c) :
    ∃ slots fallback leftover, c = .choice slots fallback leftover ∧
      slots.length = (first :: others).length ∧
      (∀ (i : Nat) (g : Grammar) c,
        (first :: others)[i]? = some g → slots[i]? = some (some c) → g.Ready c) ∧
      (fallback = none → leftover = []) ∧ ∀ b ∈ fallback, slots[b.index]? = some none := by
  rcases h with rfl | h
  · refine ⟨_,_,_,initial_choice first others,length_initialSlots _,?_,fun _ => rfl,nofun⟩
    intro i g c hg hc
    obtain rfl := eq_initial_of_initialSlots hg hc
    exact g.ready_initial
  · cases h with
    | choice hlength hslots _ hleftover hindex =>
      exact ⟨_,_,_,rfl,hlength,fun i g c hg hc => (hslots i g c hg hc).ready,hleftover,hindex⟩

theorem exists_slot {first : Grammar} {others : List Grammar} {slots : List (Option Checkpoint)}
    {fallback : Option Branch} {leftover : Bytes}
    (h : (Grammar.choice first others).Ready (.choice slots fallback leftover)) :
    ∃ (i : Nat) (g : Grammar) (inner : Checkpoint),
      (first :: others)[i]? = some g ∧ slots[i]? = some (some inner) := by
  rcases h with h | h
  · rw [initial_choice] at h
    cases h
    exact ⟨0,first,first.initial,rfl,rfl⟩
  · cases h with
    | choice hlength _ hrunning _ _ =>
      obtain ⟨inner,hinner⟩ := hrunning
      obtain ⟨i,hi⟩ := List.mem_iff_getElem?.mp hinner
      have hlt := (List.getElem?_eq_some_iff.mp hi).1
      exact ⟨i,_,inner,List.getElem?_eq_getElem (hlength ▸ hlt),hi⟩

theorem repetition {item : Grammar} {bounds : Bounds}
    (h : (Grammar.repetition item bounds).Ready c) :
    ∃ current outputs inProgress, c = .repetition current outputs inProgress ∧
      item.Ready current ∧ (inProgress = false → current = item.initial) ∧
      (bounds.max = some 0 ∧ outputs = [] ∧ inProgress = false ∨
        bounds.max ≠ some 0 ∧ ∀ m ∈ bounds.max, outputs.length < m) := by
  have hroom (outputs : List Value) (hm : ∀ m ∈ bounds.max, outputs.length < m) :
      bounds.max ≠ some 0 := fun hzero => absurd (hm 0 hzero) (Nat.not_lt_zero _)
  rcases h with rfl | h
  · refine ⟨_,_,_,rfl,item.ready_initial,fun _ => rfl,?_⟩
    by_cases hzero : bounds.max = some 0
    · exact .inl ⟨hzero,rfl,rfl⟩
    · refine .inr ⟨hzero,fun m hm => Nat.pos_of_ne_zero ?_⟩
      rintro rfl
      exact hzero hm
  · cases h with
    | inside h hm => exact ⟨_,_,_,rfl,h.ready,nofun,.inr ⟨hroom _ hm,hm⟩⟩
    | between hm => exact ⟨_,_,_,rfl,item.ready_initial,fun _ => rfl,.inr ⟨hroom _ hm,hm⟩⟩

theorem rounds {item : Grammar} {bounds : Bounds} {c' : Checkpoint} {data : Bytes}
    {required : Requirement} (hc : (Grammar.repetition item bounds).Ready c)
    (h : (Grammar.repetition item bounds).advance c data = .ok (.incomplete c' required)) :
    ∃ current outputs inProgress, c = .repetition current outputs inProgress ∧
      item.Ready current ∧ (inProgress = false → current = item.initial) ∧
      bounds.max ≠ some 0 ∧ (∀ m ∈ bounds.max, outputs.length < m) ∧
      Repetition.Rounds item.toItem bounds false current outputs inProgress data
        (.ok (.incomplete c' required)) := by
  obtain ⟨current,outputs,inProgress,rfl,hcurrent,hbegun,⟨hmax,_,_⟩ | ⟨hmax,hm⟩⟩ := hc.repetition
  · simp only [advance,Repetition.advance_of_max_zero hmax] at h
    cases h
  · exact ⟨current,outputs,inProgress,rfl,hcurrent,hbegun,hmax,hm,(advance_repetition hmax).mp h⟩

theorem mapped {body : Grammar} {t : Transform} (h : (Grammar.mapped body t).Ready c) :
    body.Ready c := by
  rcases h with rfl | h
  · exact body.ready_initial
  · cases h with
    | mapped h => exact h.ready

end Ready

/-- How a repetition pauses: inside an item, or after one, where another item is demanded if the
count is still short of the minimum and nothing if it is not. -/
inductive PausesAt (item : Grammar) (bounds : Bounds) : Checkpoint → Requirement → Prop where
  | inside {current c data outputs required} :
      item.Ready current → item.advance current data = .ok (.incomplete c required) →
      (∀ m ∈ bounds.max, outputs.length < m) →
      PausesAt item bounds (.repetition c outputs true) required
  | enough {outputs} :
      bounds.min ≤ outputs.length → (∀ m ∈ bounds.max, outputs.length < m) →
      PausesAt item bounds (.repetition item.initial outputs false) .empty
  | short {outputs required} :
      0 < outputs.length → outputs.length < bounds.min → (∀ m ∈ bounds.max, outputs.length < m) →
      Repetition.freshDemand item.toItem = .ok required →
      PausesAt item bounds (.repetition item.initial outputs false) required

theorem pausesAt_of_rounds {item : Grammar} {bounds : Bounds} {later inProgress : Bool}
    {current c : Checkpoint} {outputs : List Value} {data : Bytes} {result : Attempt}
    {required : Requirement}
    (h : Repetition.Rounds item.toItem bounds later current outputs inProgress data result)
    (hcurrent : item.Ready current) (hm : ∀ m ∈ bounds.max, outputs.length < m)
    (hresult : result = .ok (.incomplete c required)) : PausesAt item bounds c required := by
  induction h with
  | stop _ _ => cases hresult
  | fail _ _ => cases hresult
  | fault _ => cases hresult
  | inside ha =>
    cases hresult
    exact .inside hcurrent ha hm
  | ceiling _ _ => cases hresult
  | @between _ _ outputs _ _ x _ hceil =>
    have hm' := Bounds.isCeiling_eq_false.mp hceil
    obtain ⟨rfl,⟨hcount,rfl⟩ | ⟨hcount,hdemand⟩⟩ := Repetition.pause_incomplete hresult
    · exact .enough (Bounds.contains_iff.mp hcount).1 hm'
    · refine .short (by simp) (Nat.lt_of_not_le fun hmin => ?_) hm' hdemand
      have hlegal : bounds.contains (outputs ++ [x]).length = true :=
        Bounds.contains_iff.mpr ⟨hmin,fun m hmax => Nat.le_of_lt (hm' m hmax)⟩
      rw [hlegal] at hcount
      cases hcount
  | stall _ _ _ _ _ => cases hresult
  | short _ _ _ _ _ => cases hresult
  | next _ hceil _ _ _ ih =>
    exact ih item.ready_initial (Bounds.isCeiling_eq_false.mp hceil) hresult

theorem Ready.pausesAt {item : Grammar} {bounds : Bounds} {c c' : Checkpoint} {data : Bytes}
    {required : Requirement} (hc : (Grammar.repetition item bounds).Ready c)
    (h : (Grammar.repetition item bounds).advance c data = .ok (.incomplete c' required)) :
    PausesAt item bounds c' required := by
  obtain ⟨current,outputs,inProgress,rfl,hcurrent,_,_,hm,hrounds⟩ := hc.rounds h
  exact pausesAt_of_rounds hrounds hcurrent hm rfl

theorem Ready.paused {g : Grammar} {c c' : Checkpoint} {data : Bytes} {required : Requirement}
    (hc : g.Ready c) (h : g.advance c data = .ok (.incomplete c' required)) : g.Paused c' := by
  induction g generalizing c c' data required with
  | literal bytes =>
    obtain ⟨matched,rfl,hm⟩ := hc.literal
    obtain ⟨more,_,hmore,hne,rfl,_⟩ := Literal.advance_incomplete hm h
    have hpos := List.length_pos_iff.mpr (hmore ▸ hne)
    rw [List.length_drop] at hpos
    exact .literal (by omega)
  | integer range =>
    obtain ⟨n,rfl,hn⟩ := hc.integer
    obtain ⟨n',hr,rfl,_⟩ := IntegerRange.advance_incomplete h
    exact .integer (hn.read hr).1
  | sequence keep first second hfirst hsecond =>
    obtain ⟨inner,rfl,hinner⟩ | ⟨inner,a,rfl,hinner⟩ := hc.sequence
    · obtain ⟨c₁,ha,rfl⟩ | ⟨a,rest,c₂,_,hb,rfl⟩ := advance_inFirst_incomplete h
      · exact .inFirst (hfirst hinner ha)
      · exact .inSecond (hsecond second.ready_initial hb)
    · obtain ⟨c₂,hb,rfl⟩ := Keep.proceed_incomplete h
      exact .inSecond (hsecond hinner.ready hb)
  | choice first others ih =>
    obtain ⟨slots,fallback,leftover,rfl,hlength,hslots,_,hindex⟩ := hc.choice
    rw [advance_choice] at h
    obtain ⟨_,hrunning,rfl,_⟩ := Choice.settle_incomplete h
    refine .choice ?_ ?_ ?_ ?_ ?_
    · rw [List.length_map,length_advanceSlots data hlength]
    · intro i g c' hg hc'
      obtain ⟨c,required',hc,ha⟩ := incomplete_of_nextSlot hg hc'
      exact ih g (List.mem_of_getElem? hg) (hslots i g c hg hc) ha
    · exact Choice.exists_running hrunning
    · exact Choice.nextFallback_leftover
    · intro b hb
      rcases Choice.nextFallback_eq hb with hr | ⟨hb,_⟩
      · rw [List.getElem?_map,hr]
        rfl
      · obtain ⟨g,hg⟩ : ∃ g, (first :: others)[b.index]? = some g := by
          have := (List.getElem?_eq_some_iff.mp (hindex b hb)).1
          exact ⟨_,List.getElem?_eq_getElem (hlength ▸ this)⟩
        have hr : (advanceSlots (first :: others) slots data)[b.index]? = some none :=
          getElem?_advanceSlots.mpr ⟨g,none,hg,hindex b hb,rfl⟩
        rw [List.getElem?_map,hr]
        rfl
  | repetition item bounds ih =>
    cases hc.pausesAt h with
    | inside hcurrent ha hm => exact .inside (ih hcurrent ha) hm
    | enough _ hm => exact .between hm
    | short _ _ hm _ => exact .between hm
  | mapped body transform ih => exact .mapped (ih hc.mapped (Transform.on_incomplete h))

/-- `c` is where a parse of `g` stands after the bytes `w`, fed in any pieces. -/
inductive Fed (g : Grammar) : Bytes → Checkpoint → Prop where
  | start : Fed g [] g.initial
  | feed {w data c c' required} :
      Fed g w c → g.advance c data = .ok (.incomplete c' required) → Fed g (w ++ data) c'

theorem Fed.ready {g : Grammar} {w : Bytes} {c : Checkpoint} (h : g.Fed w c) : g.Ready c := by
  induction h with
  | start => exact g.ready_initial
  | feed _ ha ih => exact (ih.paused ha).ready

theorem Fed.integer {range : IntegerRange} {w : Bytes} {c : Checkpoint}
    (h : (Grammar.integer range).Fed w c) :
    ∃ n, c = .integer n ∧ range.Open n ∧ n.written = w := by
  induction h with
  | start => exact ⟨.start,rfl,range.open_start,rfl⟩
  | feed _ ha ih =>
    obtain ⟨n,rfl,hn,rfl⟩ := ih
    obtain ⟨n',hread,rfl,_⟩ := IntegerRange.advance_incomplete ha
    obtain ⟨hopen,hwritten⟩ := hn.read hread
    exact ⟨n',rfl,hopen,hwritten⟩

end Grammar

end GuidedDecoding
