import GuidedDecoding.Proofs.Forward
import GuidedDecoding.Proofs.Splits

/-!
A choice against its alternatives, each of them alone over the same chunks. The choice holds their
checkpoints and the best of their matches so far, where a match of a later chunk counts as better
than every earlier one. So its match is the longest of those that the latest chunk to end any has
ended, which need not be the longest of all: an alternative may end late with bytes of earlier
chunks unread. Where none does, the winner is the same however the input is split.
-/

set_option autoImplicit false

namespace GuidedDecoding

namespace Standing

/-- Alternative `i` leaves the fewest bytes unread of all that have matched, and is the first of
several. -/
structure Longest (standings : List Standing) (i : Nat) (x : Value) (rest : Bytes) : Prop where
  finished : ∃ since, standings[i]? = some (.finished x rest since)
  least : ∀ {j y rest' since'}, standings[j]? = some (.finished y rest' since') →
    rest.length < rest'.length ∨ rest.length = rest'.length ∧ i ≤ j

/-- No match has ended later than that of alternative `i`, and of those that end with it, it leaves
the fewest bytes unread and is the first of several. -/
structure Latest (standings : List Standing) (i : Nat) (x : Value) (rest : Bytes) (since : Nat) :
    Prop where
  finished : standings[i]? = some (.finished x rest since)
  least : ∀ {j y rest' since'}, standings[j]? = some (.finished y rest' since') →
    since < since' ∨
      since = since' ∧ (rest.length < rest'.length ∨ rest.length = rest'.length ∧ i ≤ j)

theorem Latest.longest {standings : List Standing} {i since : Nat} {x : Value} {rest : Bytes}
    (h : Latest standings i x rest since)
    (hearlier : ∀ {j y rest' since'}, standings[j]? = some (.finished y rest' since') →
      since < since' → rest.length < rest'.length ∨ rest.length = rest'.length ∧ i ≤ j) :
    Longest standings i x rest := by
  refine ⟨⟨since,h.finished⟩,fun hj => ?_⟩
  rcases h.least hj with hlater | ⟨_,hleast⟩
  · exact hearlier hj hlater
  · exact hleast

theorem Longest.unique {standings : List Standing} {i i' : Nat} {x x' : Value} {rest rest' : Bytes}
    (h : Longest standings i x rest) (h' : Longest standings i' x' rest') :
    i = i' ∧ x = x' ∧ rest = rest' := by
  obtain ⟨since,hi⟩ := h.finished
  obtain ⟨since',hi'⟩ := h'.finished
  have hle := h.least hi'
  have hge := h'.least hi
  obtain rfl : i = i' := by omega
  cases Option.some.inj (hi.symm.trans hi')
  exact ⟨rfl,rfl,rfl⟩

theorem nextSlot_advance (g : Grammar) (s : Standing) (data : Bytes) :
    Choice.nextSlot (s.checkpoint?.map fun c => g.advance c data) =
      (s.feed g data).checkpoint? := by
  cases s with
  | running c =>
    simp only [checkpoint?,Option.map_some,feed]
    rcases g.advance c data with f | (⟨o,rest⟩ | ⟨c',required⟩) <;> rfl
  | finished o rest since => rfl
  | failed f => rfl

end Standing

namespace Choice

variable {fallback : Option Branch} {leftover data : Bytes} {results : List SlotResult}

theorem nextFallback_of_close {o : Value} {rest : Bytes}
    (h : close fallback leftover data results = .ok (.finished o rest)) :
    ∃ b : Branch, o = b.toValue ∧ nextFallback fallback leftover data results = (some b,rest) := by
  unfold close at h
  unfold nextFallback
  split at h
  · rename_i best rest' hbest
    cases h
    exact ⟨best,rfl,rfl⟩
  · rename_i hnone
    split at h
    · rename_i b
      cases h
      exact ⟨b,rfl,rfl⟩
    · split at h <;> cases h

theorem nextFallback_of_close_error {e : ParseError}
    (h : close fallback leftover data results = .error (.parse e)) :
    (nextFallback fallback leftover data results).1 = none := by
  unfold close at h
  unfold nextFallback
  split at h
  · cases h
  · rename_i hnone
    cases fallback with
    | some b => cases h
    | none => rfl

end Choice

namespace Grammar

/-- Where several parses stand that have been fed the same chunks. -/
def standings (gs : List Grammar) (chunks : List Bytes) : List Standing :=
  gs.map fun g => g.standing chunks

variable {gs : List Grammar} {chunks : List Bytes} {data : Bytes}

theorem getElem?_standings {i : Nat} {s : Standing} :
    (standings gs chunks)[i]? = some s ↔ ∃ g, gs[i]? = some g ∧ g.standing chunks = s := by
  rw [standings,List.getElem?_map,Option.map_eq_some_iff]

theorem getElem?_standings_snoc {j since : Nat} {y : Value} {rest : Bytes} :
    (standings gs (chunks ++ [data]))[j]? = some (.finished y rest since) ↔
      (∃ g c, gs[j]? = some g ∧ g.standing chunks = .running c ∧
          g.advance c data = .ok (.finished y rest)) ∧ since = 0 ∨
        ∃ rest' since', (standings gs chunks)[j]? = some (.finished y rest' since') ∧
          rest = rest' ++ data ∧ since = since' + 1 := by
  rw [getElem?_standings]
  constructor
  · rintro ⟨g,hg,hs⟩
    rw [standing_snoc] at hs
    obtain ⟨c,hc,ha,rfl⟩ | ⟨rest',since',hold,rfl,rfl⟩ := Standing.feed_finished hs
    · exact .inl ⟨⟨g,c,hg,hc,ha⟩,rfl⟩
    · exact .inr ⟨rest',since',getElem?_standings.mpr ⟨g,hg,hold⟩,rfl,rfl⟩
  · rintro (⟨⟨g,c,hg,hc,ha⟩,rfl⟩ | ⟨rest',since',hs,rfl,rfl⟩)
    · exact ⟨g,hg,by rw [standing_snoc,hc,Standing.feed,ha]; rfl⟩
    · obtain ⟨g,hg,hs⟩ := getElem?_standings.mp hs
      exact ⟨g,hg,by rw [standing_snoc,hs]; rfl⟩

theorem advanceSlots_standings (gs : List Grammar) (chunks : List Bytes) (data : Bytes) :
    advanceSlots gs ((standings gs chunks).map Standing.checkpoint?) data =
      gs.map fun g => (g.standing chunks).checkpoint?.map fun c => g.advance c data := by
  induction gs with
  | nil => rfl
  | cons g gs ih =>
    simp only [standings,List.map_cons,advanceSlots] at ih ⊢
    rw [ih]

/-- The choice of `gs` holds the checkpoints of those that run, and as its fallback the latest
match. -/
structure Abreast (gs : List Grammar) (chunks : List Bytes) (slots : List (Option Checkpoint))
    (fallback : Option Branch) (leftover : Bytes) : Prop where
  slots : slots = (standings gs chunks).map Standing.checkpoint?
  best : ∀ b ∈ fallback,
    ∃ since, Standing.Latest (standings gs chunks) b.index b.value leftover since
  unmatched : fallback = none →
    ∀ {j : Nat} {y rest since}, (standings gs chunks)[j]? ≠ some (Standing.finished y rest since)

variable {slots : List (Option Checkpoint)} {fallback : Option Branch} {leftover : Bytes}

theorem Abreast.getElem?_results (h : Abreast gs chunks slots fallback leftover) {i : Nat}
    {attempt : Attempt} :
    (advanceSlots gs slots data)[i]? = some (some attempt) ↔
      ∃ g c, gs[i]? = some g ∧ g.standing chunks = .running c ∧ g.advance c data = attempt := by
  rw [h.slots,advanceSlots_standings,List.getElem?_map,Option.map_eq_some_iff]
  constructor
  · rintro ⟨g,hg,hr⟩
    obtain ⟨c,hc,ha⟩ := Option.map_eq_some_iff.mp hr
    exact ⟨g,c,hg,Standing.checkpoint?_eq_some.mp hc,ha⟩
  · rintro ⟨g,c,hg,hc,ha⟩
    exact ⟨g,hg,Option.map_eq_some_iff.mpr ⟨c,Standing.checkpoint?_eq_some.mpr hc,ha⟩⟩

theorem Abreast.finished_snoc (h : Abreast gs chunks slots fallback leftover) {j since : Nat}
    {y : Value} {rest : Bytes} :
    (standings gs (chunks ++ [data]))[j]? = some (.finished y rest since) ↔
      (advanceSlots gs slots data)[j]? = some (some (.ok (.finished y rest))) ∧ since = 0 ∨
        ∃ rest' since', (standings gs chunks)[j]? = some (.finished y rest' since') ∧
          rest = rest' ++ data ∧ since = since' + 1 := by
  rw [h.getElem?_results]
  exact getElem?_standings_snoc

theorem Abreast.not_running_snoc (h : Abreast gs chunks slots fallback leftover)
    (hclosed : (advanceSlots gs slots data).filterMap Choice.requirement? = []) (j : Nat)
    (c : Checkpoint) : (standings gs (chunks ++ [data]))[j]? ≠ some (.running c) := by
  intro hj
  obtain ⟨g,hg,hs⟩ := getElem?_standings.mp hj
  rw [standing_snoc] at hs
  obtain ⟨c₀,required,hrun,ha⟩ := Standing.feed_running hs
  have hslot := h.getElem?_results.mpr ⟨g,c₀,hg,hrun,ha⟩
  have hrequired : required ∈ (advanceSlots gs slots data).filterMap Choice.requirement? :=
    List.mem_filterMap.mpr ⟨_,List.mem_of_getElem? hslot,rfl⟩
  rw [hclosed] at hrequired
  cases hrequired

theorem Abreast.isSome_fallback (h : Abreast gs chunks slots fallback leftover) :
    fallback.isSome = true ↔
      ∃ x rest since, Standing.finished x rest since ∈ standings gs chunks := by
  cases hb : fallback with
  | some b =>
    obtain ⟨since,hlatest⟩ := h.best b hb
    exact ⟨fun _ => ⟨_,_,_,List.mem_of_getElem? hlatest.finished⟩,fun _ => rfl⟩
  | none =>
    refine ⟨nofun,fun ⟨x,rest,since,hs⟩ => ?_⟩
    obtain ⟨j,hj⟩ := List.mem_iff_getElem?.mp hs
    exact absurd hj (h.unmatched hb)

theorem Abreast.nextFallback (h : Abreast gs chunks slots fallback leftover) {b : Option Branch}
    {rest : Bytes}
    (hb : Choice.nextFallback fallback leftover data (advanceSlots gs slots data) = (b,rest)) :
    (∀ best ∈ b, ∃ since,
        Standing.Latest (standings gs (chunks ++ [data])) best.index best.value rest since) ∧
      (b = none → ∀ {j : Nat} {y rest since},
        (standings gs (chunks ++ [data]))[j]? ≠ some (Standing.finished y rest since)) := by
  unfold Choice.nextFallback at hb
  cases hl : Choice.longest 0 (advanceSlots gs slots data) with
  | some best =>
    obtain ⟨best,rest'⟩ := best
    simp only [hl,Prod.mk.injEq] at hb
    obtain ⟨rfl,rfl⟩ := hb
    refine ⟨fun best' hbest => ?_,nofun⟩
    obtain rfl := Option.some.inj hbest
    refine ⟨0,h.finished_snoc.mpr (.inl ⟨Choice.getElem?_winner hl,rfl⟩),fun hj => ?_⟩
    rcases h.finished_snoc.mp hj with ⟨hr,rfl⟩ | ⟨_,_,_,_,rfl⟩
    · have := Choice.longest_least hl hr
      omega
    · exact .inl (Nat.succ_pos _)
  | none =>
    simp only [hl,Prod.mk.injEq] at hb
    obtain ⟨rfl,rfl⟩ := hb
    constructor
    · rintro best hbest
      obtain rfl : fallback = some best := hbest
      obtain ⟨since,hlatest⟩ := h.best best rfl
      refine ⟨since + 1,h.finished_snoc.mpr (.inr ⟨_,_,hlatest.finished,by simp,rfl⟩),fun hj => ?_⟩
      rcases h.finished_snoc.mp hj with ⟨hr,_⟩ | ⟨_,_,hs,rfl,rfl⟩
      · exact absurd hr (Choice.getElem?_ne_finished hl)
      · have := hlatest.least hs
        simp only [Option.isSome_some,if_true,List.length_append]
        omega
    · rintro hnone j y rest since hj
      rcases h.finished_snoc.mp hj with ⟨hr,_⟩ | ⟨_,_,hs,_,_⟩
      · exact Choice.getElem?_ne_finished hl hr
      · exact h.unmatched hnone hs

theorem abreast_of_standing {first : Grammar} {others : List Grammar} {c : Checkpoint}
    (h : (choice first others).standing chunks = .running c) :
    ∃ slots fallback leftover, c = .choice slots fallback leftover ∧
      Abreast (first :: others) chunks slots fallback leftover := by
  induction chunks using List.reverseRecOn generalizing c with
  | nil =>
    cases h
    refine ⟨_,_,_,initial_choice first others,?_,nofun,fun _ => ?_⟩
    · rw [initialSlots_eq_map,standings,List.map_map]
      rfl
    · intro j y rest since hj
      obtain ⟨g,_,hs⟩ := getElem?_standings.mp hj
      cases hs
  | append_singleton chunks data ih =>
    rw [standing_snoc] at h
    obtain ⟨c₀,required,hs,ha⟩ := Standing.feed_running h
    obtain ⟨slots,fallback,leftover,rfl,habreast⟩ := ih hs
    rw [advance_choice] at ha
    obtain ⟨_,_,rfl,_⟩ := Choice.settle_incomplete ha
    obtain ⟨hbest,hunmatched⟩ := habreast.nextFallback rfl
    refine ⟨_,_,_,rfl,?_,hbest,hunmatched⟩
    rw [habreast.slots,advanceSlots_standings,standings,List.map_map,List.map_map]
    refine List.map_congr_left fun g _ => ?_
    rw [Function.comp_apply,Function.comp_apply,standing_snoc,Standing.nextSlot_advance]

variable {first : Grammar} {others : List Grammar}

theorem exists_running_of_standing {c : Checkpoint}
    (h : (choice first others).standing chunks = .running c) :
    ∃ (j : Nat) (inner : Checkpoint),
      (standings (first :: others) chunks)[j]? = some (Standing.running inner) := by
  obtain ⟨slots,fallback,leftover,rfl,habreast⟩ := abreast_of_standing h
  obtain ⟨j,g,inner,_,hj⟩ := (fed_of_standing h).ready.exists_slot
  rw [habreast.slots,List.getElem?_map,Option.map_eq_some_iff] at hj
  obtain ⟨s,hs,hinner⟩ := hj
  obtain rfl := Standing.checkpoint?_eq_some.mp hinner
  exact ⟨j,inner,hs⟩

theorem latest_of_standing {o : Value} {rest : Bytes} {late : Nat}
    (h : (choice first others).standing chunks = .finished o rest late) :
    (∀ (j : Nat) (c : Checkpoint),
        (standings (first :: others) chunks)[j]? ≠ some (Standing.running c)) ∧
      ∃ i x since, o = .branch i x ∧
        Standing.Latest (standings (first :: others) chunks) i x rest since := by
  induction chunks using List.reverseRecOn generalizing rest late with
  | nil => cases h
  | append_singleton chunks data ih =>
    rw [standing_snoc] at h
    obtain ⟨c,hs,ha,_⟩ | ⟨rest',late',hs,rfl,_⟩ := Standing.feed_finished h
    · obtain ⟨slots,fallback,leftover,rfl,habreast⟩ := abreast_of_standing hs
      rw [advance_choice] at ha
      obtain ⟨_,hclosed,hclose⟩ := Choice.settle_closed ha (by simp) (by simp)
      obtain ⟨b,rfl,hb⟩ := Choice.nextFallback_of_close hclose
      obtain ⟨since,hlatest⟩ := (habreast.nextFallback hb).1 b rfl
      exact ⟨habreast.not_running_snoc hclosed,b.index,b.value,since,rfl,hlatest⟩
    · obtain ⟨hended,i,x,since,rfl,hlatest⟩ := ih hs
      refine ⟨fun j c hj => ?_,i,x,since + 1,rfl,?_,fun hj => ?_⟩
      · obtain ⟨g,hg,hs⟩ := getElem?_standings.mp hj
        rw [standing_snoc] at hs
        obtain ⟨c₀,_,hrun,_⟩ := Standing.feed_running hs
        exact hended j c₀ (getElem?_standings.mpr ⟨g,hg,hrun⟩)
      · exact getElem?_standings_snoc.mpr (.inr ⟨_,_,hlatest.finished,rfl,rfl⟩)
      · rcases getElem?_standings_snoc.mp hj with ⟨⟨g,c,hg,hrun,_⟩,_⟩ | ⟨_,_,hold,rfl,rfl⟩
        · exact absurd (getElem?_standings.mpr ⟨g,hg,hrun⟩) (hended _ c)
        · have := hlatest.least hold
          rw [List.length_append,List.length_append]
          omega

theorem failed_of_standing (htame : (choice first others).Tame) {f : Failure}
    (h : (choice first others).standing chunks = .failed f) {j : Nat} {s : Standing}
    (hj : (standings (first :: others) chunks)[j]? = some s) : ∃ f', s = .failed f' := by
  induction chunks using List.reverseRecOn generalizing s with
  | nil => cases h
  | append_singleton chunks data ih =>
    rw [standing_snoc] at h
    obtain ⟨c,hs,ha⟩ | hs := Standing.feed_failed h
    · obtain ⟨slots,fallback,leftover,rfl,habreast⟩ := abreast_of_standing hs
      cases f with
      | fault f => exact absurd ha (htame.faultless (fed_of_standing hs) data f)
      | parse e =>
        rw [advance_choice] at ha
        obtain ⟨_,hclosed,hclose⟩ := Choice.settle_closed ha (by simp) (by simp)
        cases s with
        | running c => exact absurd hj (habreast.not_running_snoc hclosed j c)
        | finished y rest since =>
          have hnone := Choice.nextFallback_of_close_error hclose
          exact absurd hj ((habreast.nextFallback (Prod.ext hnone rfl)).2 rfl)
        | failed f => exact ⟨f,rfl⟩
    · obtain ⟨g,hg,rfl⟩ := getElem?_standings.mp hj
      obtain ⟨f',hf⟩ := ih hs (getElem?_standings.mpr ⟨g,hg,rfl⟩)
      exact ⟨f',by rw [standing_snoc,hf]; rfl⟩

theorem Tame.parseError_of_standing {g : Grammar} (hg : g.Tame) {f : Failure}
    (h : g.standing chunks = .failed f) : ∃ e, f = .parse e := by
  induction chunks using List.reverseRecOn with
  | nil => cases h
  | append_singleton chunks data ih =>
    rw [standing_snoc] at h
    obtain ⟨c,hs,ha⟩ | hs := Standing.feed_failed h
    · cases f with
      | parse e => exact ⟨e,rfl⟩
      | fault f => exact absurd ha (hg.faultless (fed_of_standing hs) data f)
    · exact ih hs

theorem parseErrors_of_standing (htame : (choice first others).Tame) {f : Failure}
    (h : (choice first others).standing chunks = .failed f) :
    ∀ s ∈ standings (first :: others) chunks, ∃ e, s = .failed (.parse e) := by
  intro s hs
  obtain ⟨j,hj⟩ := List.mem_iff_getElem?.mp hs
  obtain ⟨f',rfl⟩ := failed_of_standing htame h hj
  obtain ⟨g,hg,hstanding⟩ := getElem?_standings.mp hj
  cases htame with
  | choice halternatives =>
    obtain ⟨e,rfl⟩ :=
      (halternatives g (List.mem_of_getElem? hg)).parseError_of_standing hstanding
    exact ⟨e,rfl⟩

/-- A match that ends later leaves no more than an earlier one, of whatever grammar, unless its
parse has gone back. -/
theorem Forward.rest_le_of_later {strict : Prop} {g h : Grammar} (hg : g.Forward strict)
    {x y : Value} {rest rest' : Bytes} {since since' : Nat}
    (hs : g.standing chunks = .finished x rest since)
    (hs' : h.standing chunks = .finished y rest' since') (hlater : since < since') :
    rest.length ≤ rest'.length ∧ (strict → rest.length < rest'.length) := by
  induction chunks using List.reverseRecOn generalizing rest rest' since since' with
  | nil => cases hs
  | append_singleton chunks data ih =>
    rw [standing_snoc] at hs hs'
    -- The earlier match has `data` behind it, and the later one has too or leaves no more of it.
    obtain ⟨_,_,_,rfl⟩ | ⟨old',before',hold',rfl,rfl⟩ := Standing.feed_finished hs'
    · omega
    · obtain ⟨c,hc,ha,rfl⟩ | ⟨old,before,hold,rfl,rfl⟩ := Standing.feed_finished hs
      · have hne : chunks ≠ [] := by
          rintro rfl
          cases hold'
        have hrest := hg.rest_le (fed_of_standing hc) (paused_of_standing hne hc) ha
        rw [List.length_append]
        exact ⟨by omega,fun hstrict => by have := hrest.2 hstrict; omega⟩
      · have hrest := ih hold hold' (by omega)
        rw [List.length_append,List.length_append]
        exact ⟨by omega,fun hstrict => by have := hrest.2 hstrict; omega⟩

theorem longest_of_forward (hforward : ∀ g ∈ gs, g.Forward True) {i since : Nat} {x : Value}
    {rest : Bytes} (h : Standing.Latest (standings gs chunks) i x rest since) :
    Standing.Longest (standings gs chunks) i x rest := by
  obtain ⟨g,hg,hs⟩ := getElem?_standings.mp h.finished
  refine h.longest fun hj hlater => ?_
  obtain ⟨g',_,hs'⟩ := getElem?_standings.mp hj
  exact .inl (((hforward g (List.mem_of_getElem? hg)).rest_le_of_later hs hs' hlater).2 trivial)

section Splits

variable {chunks' : List Bytes}

theorem alike_standings (hsplit : ∀ g ∈ gs, g.SplitInvariant) (hne : chunks ≠ [])
    (hne' : chunks' ≠ []) (hflatten : chunks.flatten = chunks'.flatten) {j : Nat} {s : Standing}
    (hj : (standings gs chunks)[j]? = some s) :
    ∃ s', (standings gs chunks')[j]? = some s' ∧ s.Alike s' := by
  obtain ⟨g,hg,rfl⟩ := getElem?_standings.mp hj
  exact ⟨_,getElem?_standings.mpr ⟨g,hg,rfl⟩,
    hsplit g (List.mem_of_getElem? hg) chunks chunks' hne hne' hflatten⟩

theorem longest_of_split (hsplit : ∀ g ∈ gs, g.SplitInvariant) (hne : chunks ≠ [])
    (hne' : chunks' ≠ []) (hflatten : chunks.flatten = chunks'.flatten) {i : Nat} {x : Value}
    {rest : Bytes} (h : Standing.Longest (standings gs chunks) i x rest) :
    Standing.Longest (standings gs chunks') i x rest := by
  constructor
  · obtain ⟨since,hi⟩ := h.finished
    obtain ⟨s,hs,halike⟩ := alike_standings hsplit hne hne' hflatten hi
    cases halike with
    | @finished _ _ _ since' => exact ⟨since',hs⟩
  · intro j y rest' since' hj
    obtain ⟨s,hs,halike⟩ := alike_standings hsplit hne' hne hflatten.symm hj
    cases halike with
    | finished => exact h.least hs

theorem finished_of_split (hforward : ∀ g ∈ first :: others, g.Forward True)
    (hsplit : ∀ g ∈ first :: others, g.SplitInvariant)
    (hflatten : chunks.flatten = chunks'.flatten) {o o' : Value} {rest rest' : Bytes}
    {late late' : Nat} (h : (choice first others).standing chunks = .finished o rest late)
    (h' : (choice first others).standing chunks' = .finished o' rest' late') :
    o = o' ∧ rest = rest' := by
  have hne : chunks ≠ [] := by
    rintro rfl
    cases h
  have hne' : chunks' ≠ [] := by
    rintro rfl
    cases h'
  obtain ⟨_,i,x,since,rfl,hlatest⟩ := latest_of_standing h
  obtain ⟨_,i',x',since',rfl,hlatest'⟩ := latest_of_standing h'
  have hlongest := longest_of_split hsplit hne hne' hflatten (longest_of_forward hforward hlatest)
  obtain ⟨rfl,rfl,rfl⟩ := hlongest.unique (longest_of_forward hforward hlatest')
  exact ⟨rfl,rfl⟩

theorem running_of_split (htotal : (choice first others).Total)
    (hsplit : ∀ g ∈ first :: others, g.SplitInvariant) (hne : chunks ≠ []) (hne' : chunks' ≠ [])
    (hflatten : chunks.flatten = chunks'.flatten) {c : Checkpoint}
    (h : (choice first others).standing chunks = .running c) :
    ∃ c', (choice first others).standing chunks' = .running c' := by
  obtain ⟨j,inner,hj⟩ := exists_running_of_standing h
  obtain ⟨s,hs,halike⟩ := alike_standings hsplit hne hne' hflatten hj
  cases halike with
  | @running _ inner' =>
    cases h' : (choice first others).standing chunks' with
    | running c' => exact ⟨c',rfl⟩
    | finished o rest late => exact absurd hs ((latest_of_standing h').1 j inner')
    | failed f =>
      obtain ⟨_,hf⟩ := failed_of_standing htotal.tame h' hs
      cases hf

theorem not_failed_of_split (htotal : (choice first others).Total)
    (hsplit : ∀ g ∈ first :: others, g.SplitInvariant) (hne : chunks ≠ []) (hne' : chunks' ≠ [])
    (hflatten : chunks.flatten = chunks'.flatten) {o : Value} {rest : Bytes} {late : Nat}
    {f : Failure} (h : (choice first others).standing chunks = .finished o rest late) :
    (choice first others).standing chunks' ≠ .failed f := by
  intro h'
  obtain ⟨_,i,x,since,_,hlatest⟩ := latest_of_standing h
  obtain ⟨s,hs,halike⟩ := alike_standings hsplit hne hne' hflatten hlatest.finished
  obtain ⟨_,rfl⟩ := failed_of_standing htotal.tame h' hs
  cases halike

theorem SplitInvariant.choice (htotal : (Grammar.choice first others).Total)
    (hforward : ∀ g ∈ first :: others, g.Forward True)
    (hsplit : ∀ g ∈ first :: others, g.SplitInvariant) :
    (Grammar.choice first others).SplitInvariant := by
  intro chunks chunks' hne hne' hflatten
  cases h : (Grammar.choice first others).standing chunks with
  | running c =>
    obtain ⟨c',h'⟩ := running_of_split htotal hsplit hne hne' hflatten h
    rw [h']
    exact .running
  | finished o rest late =>
    cases h' : (Grammar.choice first others).standing chunks' with
    | running c' =>
      obtain ⟨c,h''⟩ := running_of_split htotal hsplit hne' hne hflatten.symm h'
      cases h.symm.trans h''
    | finished o' rest' late' =>
      obtain ⟨rfl,rfl⟩ := finished_of_split hforward hsplit hflatten h h'
      exact .finished
    | failed f => exact absurd h' (not_failed_of_split htotal hsplit hne hne' hflatten h)
  | failed f =>
    cases h' : (Grammar.choice first others).standing chunks' with
    | running c' =>
      obtain ⟨c,h''⟩ := running_of_split htotal hsplit hne' hne hflatten.symm h'
      cases h.symm.trans h''
    | finished o' rest' late' =>
      exact absurd h (not_failed_of_split htotal hsplit hne' hne hflatten.symm h')
    | failed f' => exact .failed

/-- Without repetitions, and where every match takes a byte of the step that ends it, the split of
the input shows in nothing but the pauses, however deep choices are nested. -/
theorem splitInvariant_of_forward {g : Grammar} (hforward : g.Forward True)
    (hrepeat : g.RepeatFree) (htotal : g.Total) : g.SplitInvariant := by
  induction hforward with
  | literal bytes => exact splitInvariant_of_choiceFree (.literal bytes) hrepeat htotal
  | @integer range _ => exact splitInvariant_of_choiceFree (.integer range) hrepeat htotal
  | sequence _ _ hfirst hsecond =>
    cases hrepeat with
    | sequence hrepeat₁ hrepeat₂ =>
      cases htotal with
      | sequence htotal₁ htotal₂ =>
        exact (hfirst hrepeat₁ htotal₁).sequence (hsecond hrepeat₂ htotal₂)
  | choice hforward _ ih =>
    cases hrepeat with
    | choice hrepeats =>
      cases htotal with
      | choice htotals =>
        exact .choice (.choice htotals) hforward fun g hg => ih g hg (hrepeats g hg) (htotals g hg)
  | repetition _ _ _ => cases hrepeat
  | mapped _ ih =>
    cases hrepeat with
    | mapped hrepeat =>
      cases htotal with
      | mapped htotal _ => exact (ih hrepeat htotal).mapped

end Splits

/-- Which match a choice ends with: the longest of those that the latest chunk to end any has ended,
the first of several. It is the longest and first of all exactly if no earlier match would come
before it. None does if every alternative takes a byte of the step that ends it, and if they just do
not go back, none is longer. In the first case the split of the input does not change which one it
is, unless it changes what an alternative matches on its own. -/
theorem match_of_choice {o : Value} {rest : Bytes} {late : Nat}
    (h : (choice first others).standing chunks = .finished o rest late) :
    ∃ i x since, o = .branch i x ∧
      Standing.Latest (standings (first :: others) chunks) i x rest since ∧
      (Standing.Longest (standings (first :: others) chunks) i x rest ↔
        ∀ (j : Nat) (y : Value) (rest' : Bytes) (since' : Nat),
          (standings (first :: others) chunks)[j]? = some (.finished y rest' since') →
          since < since' → rest.length < rest'.length ∨ rest.length = rest'.length ∧ i ≤ j) ∧
      ((∀ g ∈ first :: others, g.Forward True) →
        Standing.Longest (standings (first :: others) chunks) i x rest ∧
        ((∀ g ∈ first :: others, g.SplitInvariant) →
          ∀ (chunks' : List Bytes) (o' : Value) (rest' : Bytes) (late' : Nat),
          chunks.flatten = chunks'.flatten →
          (choice first others).standing chunks' = .finished o' rest' late' →
            o = o' ∧ rest = rest')) ∧
      ((∀ g ∈ first :: others, g.Forward False) →
        ∀ (j : Nat) (y : Value) (rest' : Bytes) (since' : Nat),
        (standings (first :: others) chunks)[j]? = some (.finished y rest' since') →
          rest.length ≤ rest'.length) := by
  obtain ⟨_,i,x,since,rfl,hlatest⟩ := latest_of_standing h
  obtain ⟨g,hg,hs⟩ := getElem?_standings.mp hlatest.finished
  have hmem := List.mem_of_getElem? hg
  refine ⟨i,x,since,rfl,hlatest,?_,fun hforward => ⟨longest_of_forward hforward hlatest,?_⟩,?_⟩
  · constructor
    · exact fun hlongest j y rest' since' hj _ => hlongest.least hj
    · exact fun hearlier => hlatest.longest fun hj hlater => hearlier _ _ _ _ hj hlater
  · intro hsplit chunks' o' rest' late' hflatten h'
    exact finished_of_split hforward hsplit hflatten h h'
  · intro hforward j y rest' since' hj
    rcases hlatest.least hj with hlater | ⟨_,hleast⟩
    · obtain ⟨g',_,hs'⟩ := getElem?_standings.mp hj
      exact ((hforward g hmem).rest_le_of_later hs hs' hlater).1
    · omega

theorem match_of_choice_words :
    Standing.Longest (standings [.literal (utf8 "ab"),
        .choice (.literal (utf8 "abc")) [.literal (utf8 "b")]] [utf8 "ab",utf8 "cx"])
      1 (.branch 0 .none) (utf8 "x") ∧
    ∀ chunks o rest late, [utf8 "ab",utf8 "cx"].flatten = chunks.flatten →
      (choice (.literal (utf8 "ab")) [.choice (.literal (utf8 "abc"))
        [.literal (utf8 "b")]]).standing chunks = .finished o rest late →
      .branch 1 (.branch 0 .none) = o ∧ utf8 "x" = rest := by
  have hpair {P : Grammar → Prop} {a b : Grammar} (ha : P a) (hb : P b) : ∀ g ∈ [a,b], P g :=
    List.forall_mem_cons.mpr ⟨ha,List.forall_mem_singleton.mpr hb⟩
  have hapart : Apart [.literal (utf8 "abc"),.literal (utf8 "b")] :=
    (apart_literals (by decide) : Apart ([utf8 "abc",utf8 "b"].map .literal))
  have hforward : ∀ g ∈ [Grammar.literal (utf8 "ab"),.choice (.literal (utf8 "abc"))
      [.literal (utf8 "b")]], g.Forward True :=
    hpair (.literal _) (.choice (hpair (.literal _) (.literal _)) hapart)
  obtain ⟨i,x,since,ho,_,_,hwinner,_⟩ := match_of_choice
    (rfl : (choice (.literal (utf8 "ab")) [.choice (.literal (utf8 "abc"))
      [.literal (utf8 "b")]]).standing [utf8 "ab",utf8 "cx"] =
        .finished (.branch 1 (.branch 0 .none)) (utf8 "x") 0)
  cases ho
  obtain ⟨hlongest,hsplit⟩ := hwinner hforward
  refine ⟨hlongest,hsplit fun g hg => splitInvariant_of_forward (hforward g hg) ?_ ?_⟩
  · exact hpair (.literal _) (.choice (hpair (.literal _) (.literal _))) g hg
  · exact hpair (.literal _) (.choice (hpair (.literal _) (.literal _))) g hg

/-- Fed in two chunks, a choice ends with a match that leaves two bytes unread, although an earlier
one leaves only the last of them; fed at once, it ends with that. -/
theorem shorter_match_of_choice :
    (choice (.choice (.literal (utf8 "a")) [.literal (utf8 "abcd")])
        [.literal (utf8 "ab")]).standing [utf8 "ab",utf8 "x"] =
      .finished (.branch 0 (.branch 0 .none)) (utf8 "bx") 0 ∧
    (literal (utf8 "ab")).standing [utf8 "ab",utf8 "x"] = .finished .none (utf8 "x") 1 ∧
    ¬Standing.Longest (standings [.choice (.literal (utf8 "a")) [.literal (utf8 "abcd")],
        .literal (utf8 "ab")] [utf8 "ab",utf8 "x"]) 0 (.branch 0 .none) (utf8 "bx") ∧
    (choice (.choice (.literal (utf8 "a")) [.literal (utf8 "abcd")])
        [.literal (utf8 "ab")]).standing [utf8 "abx"] =
      .finished (.branch 1 .none) (utf8 "x") 0 := by
  refine ⟨rfl,rfl,fun hlongest => ?_,rfl⟩
  have hleast := hlongest.least (rfl : (standings [.choice (.literal (utf8 "a"))
    [.literal (utf8 "abcd")],.literal (utf8 "ab")] [utf8 "ab",utf8 "x"])[1]? =
      some (.finished .none (utf8 "x") 1))
  revert hleast
  decide

/-- A choice against its alternatives, each of them alone over the same chunks, after a step over
`data`. While some alternative runs the choice does: it holds the checkpoints of those that run, and
if some have ended, the match of one of them with all that has come after it. The choice ends with
such a match as soon as nothing runs, and fails if every alternative has. -/
theorem advance_lockstep {c : Checkpoint} (htame : (choice first others).Tame)
    (h : (choice first others).standing chunks = .running c) (data : Bytes) :
    (∀ c' required, (choice first others).advance c data = .ok (.incomplete c' required) →
      ∃ slots fallback leftover, c' = .choice slots fallback leftover ∧
        slots = (standings (first :: others) (chunks ++ [data])).map Standing.checkpoint? ∧
        (∃ inner, some inner ∈ slots) ∧
        (fallback.isSome = true ↔ ∃ x rest since,
          Standing.finished x rest since ∈ standings (first :: others) (chunks ++ [data])) ∧
        ∀ b ∈ fallback, ∃ since, (standings (first :: others) (chunks ++ [data]))[b.index]? =
          some (.finished b.value leftover since)) ∧
      (∀ o rest, (choice first others).advance c data = .ok (.finished o rest) →
        ∃ i x since, o = .branch i x ∧
          (standings (first :: others) (chunks ++ [data]))[i]? = some (.finished x rest since)) ∧
      ((∃ o rest, (choice first others).advance c data = .ok (.finished o rest)) ↔
        (∀ inner, .running inner ∉ standings (first :: others) (chunks ++ [data])) ∧
          ∃ x rest since,
            Standing.finished x rest since ∈ standings (first :: others) (chunks ++ [data])) ∧
      ((∃ e, (choice first others).advance c data = .error (.parse e)) ↔
        ∀ s ∈ standings (first :: others) (chunks ++ [data]), ∃ e, s = .failed (.parse e)) := by
  have hstep : (choice first others).standing (chunks ++ [data]) =
      Standing.ofAttempt ((choice first others).advance c data) := by
    rw [standing_snoc,h,Standing.feed]
  rcases ha : (choice first others).advance c data with (e | f) | (⟨o,rest⟩ | ⟨c',required⟩)
  · rw [ha] at hstep
    have hfailed := parseErrors_of_standing htame hstep
    refine ⟨?_,?_,⟨?_,?_⟩,⟨fun _ => hfailed,fun _ => ⟨e,rfl⟩⟩⟩
    · rintro _ _ ⟨⟩
    · rintro _ _ ⟨⟩
    · rintro ⟨_,_,⟨⟩⟩
    · rintro ⟨_,x,rest,since,hs⟩
      obtain ⟨_,hs⟩ := hfailed _ hs
      cases hs
  · exact absurd ha (htame.faultless (fed_of_standing h) data f)
  · rw [ha] at hstep
    obtain ⟨hended,i,x,since,rfl,hlatest⟩ := latest_of_standing hstep
    have hmem := List.mem_of_getElem? hlatest.finished
    refine ⟨?_,?_,⟨fun _ => ⟨fun inner hs => ?_,x,rest,since,hmem⟩,fun _ => ⟨_,_,rfl⟩⟩,
      ⟨?_,fun hfailed => ?_⟩⟩
    · rintro _ _ ⟨⟩
    · rintro _ _ ⟨⟩
      exact ⟨i,x,since,rfl,hlatest.finished⟩
    · obtain ⟨j,hj⟩ := List.mem_iff_getElem?.mp hs
      exact hended j inner hj
    · rintro ⟨_,⟨⟩⟩
    · obtain ⟨_,hs⟩ := hfailed _ hmem
      cases hs
  · rw [ha] at hstep
    obtain ⟨slots,fallback,leftover,rfl,habreast⟩ := abreast_of_standing hstep
    obtain ⟨j,inner,hj⟩ := exists_running_of_standing hstep
    have hmem := List.mem_of_getElem? hj
    refine ⟨?_,?_,⟨?_,fun hended => absurd hmem (hended.1 inner)⟩,⟨?_,fun hfailed => ?_⟩⟩
    · rintro _ _ ⟨⟩
      refine ⟨slots,fallback,leftover,rfl,habreast.slots,⟨inner,?_⟩,?_,fun b hb => ?_⟩
      · rw [habreast.slots]
        exact List.mem_map.mpr ⟨_,hmem,rfl⟩
      · exact habreast.isSome_fallback
      · obtain ⟨since,hlatest⟩ := habreast.best b hb
        exact ⟨since,hlatest.finished⟩
    · rintro _ _ ⟨⟩
    · rintro ⟨_,_,⟨⟩⟩
    · rintro ⟨_,⟨⟩⟩
    · obtain ⟨_,hs⟩ := hfailed _ hmem
      cases hs

theorem advance_lockstep_fallback :
    ∃ i x since, Value.branch 0 .none = .branch i x ∧
      (standings [.literal (utf8 "ab"),.literal (utf8 "abcd"),.mapped (.literal (utf8 "abc"))
          ⟨"refuse",fun _ => .error (.parse { reason := .stated "refused" })⟩]
        ([utf8 "ab"] ++ [utf8 "cx"]))[i]? = some (.finished x (utf8 "cx") since) := by
  have htame : (choice (.literal (utf8 "ab")) [.literal (utf8 "abcd"),
      .mapped (.literal (utf8 "abc"))
        ⟨"refuse",fun _ => .error (.parse { reason := .stated "refused" })⟩]).Tame := by
    refine .choice fun g hg => ?_
    simp only [List.mem_cons,List.not_mem_nil,or_false] at hg
    rcases hg with rfl | rfl | rfl
    · exact .literal _
    · exact .literal _
    · exact .mapped (.literal _) fun _ _ _ _ => nofun
  have hpaused : (choice (.literal (utf8 "ab")) [.literal (utf8 "abcd"),.mapped
      (.literal (utf8 "abc")) ⟨"refuse",fun _ => .error (.parse { reason := .stated "refused" })⟩]
        ).standing [utf8 "ab"] = .running (.choice
          [none,some (.literal 2),some (.literal 2)] (some ⟨0,.none⟩) []) := rfl
  exact (advance_lockstep htame hpaused (utf8 "cx")).2.1 _ _ rfl

end Grammar

end GuidedDecoding
