import GuidedDecoding.Proofs.Forward
import GuidedDecoding.Proofs.Increments
import Mathlib.Algebra.Group.Nat.Defs
import Mathlib.Data.Nat.Log

/-!
An advance comes to an end. Here the engine runs its loops as they stand, with nothing that bounds
them, and is cut off if one of them takes more than so many passes. None takes more than there are
bytes to read, those included that the checkpoint holds back, and digits in the widest range. What
the engine has come to by then is the result of `advance`.
-/

set_option autoImplicit false

namespace GuidedDecoding

/-- The loop behind `reachable`, cut off after `clock` passes. -/
def searchWithin (lead low high : Nat) : (clock scale : Nat) → Option Bool
  | 0, _ => none
  | clock + 1, scale =>
    if lead * scale ≤ high then
      if low ≤ lead * scale + scale - 1 then some true
      else searchWithin lead low high clock (scale * 10)
    else some false

theorem searchWithin_eq {lead high scale clock : Nat} (low : Nat) (hlead : 0 < lead)
    (hscale : 0 < scale) (hclock : high < scale * 10 ^ clock) :
    searchWithin lead low high (clock + 1) scale = some (reachableFrom lead low high scale) := by
  have hle : scale ≤ lead * scale := Nat.le_mul_of_pos_left scale hlead
  rw [searchWithin,reachableFrom]
  by_cases hhigh : lead * scale ≤ high
  · have hpos : 0 < lead * scale ∧ lead * scale ≤ high := ⟨Nat.mul_pos hlead hscale,hhigh⟩
    simp only [hhigh,hpos,and_self,dif_pos,if_true]
    by_cases hlow : low ≤ lead * scale + scale - 1
    · simp only [hlow,if_true,decide_true,Bool.true_or]
    · simp only [hlow,if_false,decide_false,Bool.false_or]
      cases clock with
      | zero =>
        rw [Nat.pow_zero,Nat.mul_one] at hclock
        omega
      | succ clock =>
        refine searchWithin_eq low hlead (by omega) ?_
        rwa [Nat.pow_succ,Nat.mul_comm (10 ^ clock),← Nat.mul_assoc] at hclock
  · rw [if_neg hhigh,dif_neg fun h => hhigh h.2]

/-- The search stops when it runs out of digits. -/
theorem searchWithin_of_digits {lead high scale digits clock : Nat} (low : Nat) (hlead : 0 < lead)
    (hscale : 0 < scale) (hhigh : high < 10 ^ digits) (hclock : digits < clock) :
    searchWithin lead low high clock scale = some (reachableFrom lead low high scale) := by
  obtain ⟨clock,rfl⟩ : ∃ k, clock = k + 1 := ⟨clock - 1,by omega⟩
  have hpow : 10 ^ digits ≤ 10 ^ clock := Nat.pow_le_pow_right (by decide) (by omega)
  exact searchWithin_eq low hlead hscale
    (Nat.lt_of_lt_of_le hhigh (hpow.trans (Nat.le_mul_of_pos_left _ hscale)))

namespace IntegerRange

variable {r : IntegerRange} {clock : Nat}

def width (r : IntegerRange) : Nat := Nat.log 10 (max r.least.natAbs r.greatest.natAbs) + 1

def viableWithin (r : IntegerRange) (clock : Nat) (n : Numeral) : Option Bool :=
  match r.magnitudes n.negative with
  | none => some false
  | some (low,high) =>
    if n.digits = 0 then some true
    else if n.magnitude = 0 then some (low == 0)
    else searchWithin n.magnitude low high clock 1

def extendableWithin (r : IntegerRange) (clock : Nat) (n : Numeral) : Option Bool :=
  match r.magnitudes n.negative with
  | none => some false
  | some (low,high) =>
    if n.magnitude = 0 then some false else searchWithin n.magnitude low high clock 10

def readWithin (r : IntegerRange) (clock : Nat) (n : Numeral) (position : Nat) :
    Bytes → Option (Except ParseError (Numeral ⊕ Int × Bytes))
  | [] => some (.ok (.inl n))
  | b :: rest =>
    if r.takesSign n b then readWithin r clock { n with negative := true } (position + 1) rest
    else
      match Numeral.digit? b with
      | none => some ((r.close n position (b :: rest)).map .inr)
      | some d => do
        let next := n.push d
        if !(← r.viableWithin clock next) then return (r.close n position (b :: rest)).map .inr
        else if ← r.extendableWithin clock next then readWithin r clock next (position + 1) rest
        else return .ok (.inr (next.value,rest))

def advanceWithin (r : IntegerRange) (clock : Nat) (n : Numeral) (data : Bytes) : Option Attempt :=
  (r.readWithin clock n 0 data).map fun
    | .error e => .error (.parse e)
    | .ok (.inr (value,rest)) => .ok (.finished (.int value) rest)
    | .ok (.inl n') =>
      .ok (.incomplete (.integer n')
        (if r.requiresSign n' then .borrowed [Numeral.minusSign] else .empty))

theorem magnitude_lt {negative : Bool} {low high : Nat}
    (h : r.magnitudes negative = some (low,high)) : high < 10 ^ r.width := by
  have hle : high ≤ max r.least.natAbs r.greatest.natAbs := by
    cases negative <;>
      · simp only [magnitudes,if_true,Bool.false_eq_true,if_false,Option.ite_none_right_eq_some,
          Option.some.injEq,Prod.mk.injEq] at h
        omega
  exact Nat.lt_of_le_of_lt hle (Nat.lt_pow_succ_log_self (by decide) _)

theorem searchWithin_magnitudes {negative : Bool} {low high lead scale : Nat}
    (hclock : r.width < clock) (hm : r.magnitudes negative = some (low,high)) (hlead : 0 < lead)
    (hscale : 0 < scale) :
    searchWithin lead low high clock scale = some (reachableFrom lead low high scale) :=
  searchWithin_of_digits low hlead hscale (magnitude_lt hm) hclock

theorem viableWithin_eq (hclock : r.width < clock) (n : Numeral) :
    r.viableWithin clock n = some (r.viable n) := by
  unfold viableWithin viable
  cases hm : r.magnitudes n.negative with
  | none => rfl
  | some magnitudes =>
    by_cases hdigits : n.digits = 0
    · simp [hdigits]
    by_cases hzero : n.magnitude = 0
    · simp [hdigits,hzero]
    have hsearch := searchWithin_magnitudes hclock hm (Nat.pos_of_ne_zero hzero) Nat.one_pos
    simp [hdigits,hzero,hsearch,reachable,Nat.pow_eq]

theorem extendableWithin_eq (hclock : r.width < clock) (n : Numeral) :
    r.extendableWithin clock n = some (r.extendable n) := by
  unfold extendableWithin extendable
  cases hm : r.magnitudes n.negative with
  | none => rfl
  | some magnitudes =>
    by_cases hzero : n.magnitude = 0
    · simp [hzero]
    have hsearch := searchWithin_magnitudes hclock hm (Nat.pos_of_ne_zero hzero)
      (by decide : 0 < 10)
    simp [hzero,hsearch,reachable,Nat.pow_eq]

theorem readWithin_eq (hclock : r.width < clock) (n : Numeral) (position : Nat) (data : Bytes) :
    r.readWithin clock n position data = some (r.read n position data) := by
  fun_induction IntegerRange.read r n position data with
  | case1 n position => rfl
  | case2 n position b data hs ih => simp only [readWithin,hs,if_true,ih]
  | case3 n position b data hs hd => simp [readWithin,hs,hd]
  | case4 n position b data hs d hd next hv =>
    simp_all [readWithin,viableWithin_eq hclock,next]
  | case5 n position b data hs d hd next hv he ih =>
    simp_all [readWithin,viableWithin_eq hclock,extendableWithin_eq hclock,next]
  | case6 n position b data hs d hd next hv he =>
    simp_all [readWithin,viableWithin_eq hclock,extendableWithin_eq hclock,next]

theorem rest_le_of_read {n : Numeral} {position : Nat} {data rest : Bytes} {k : Int}
    (h : r.read n position data = .ok (.inr (k,rest))) : rest.length ≤ data.length := by
  revert h
  fun_induction IntegerRange.read r n position data with
  | case1 n position => rintro ⟨⟩
  | case2 n position b data hs ih => exact fun h => Nat.le_succ_of_le (ih h)
  | case3 n position b data hs hd => exact fun h => Nat.le_of_eq (congrArg _ (close_map_ok h).2)
  | case4 n position b data hs d hd next hv =>
    exact fun h => Nat.le_of_eq (congrArg _ (close_map_ok h).2)
  | case5 n position b data hs d hd next hv he ih => exact fun h => Nat.le_succ_of_le (ih h)
  | case6 n position b data hs d hd next hv he =>
    rintro ⟨⟩
    exact Nat.le_succ _

theorem advanceWithin_eq (hclock : r.width < clock) (n : Numeral) (data : Bytes) :
    r.advanceWithin clock n data = some (r.advance n data) := by
  rw [advanceWithin,readWithin_eq hclock,Option.map_some]
  unfold advance
  rcases r.read n 0 data with e | (n' | ⟨value,rest⟩) <;> rfl

end IntegerRange

namespace Literal

def matchWithin (literal data : Bytes) : (clock matched consumed : Nat) → Option Attempt
  | 0, _, _ => none
  | clock + 1, matched, consumed =>
    match literal[matched]?, data[consumed]? with
    | some b, some x =>
      if x = b then matchWithin literal data clock (matched + 1) (consumed + 1)
      else
        some (.error (.parse {
          reason := .literalMismatch [b] literal
          position := consumed
          expected := some [b]
          found := some [x] }))
    | _, _ =>
      some (if matched = literal.length then .ok (.finished .none (data.drop consumed))
        else .ok (.incomplete (.literal matched) (.borrowed (literal.drop matched))))

theorem matchWithin_eq (literal data : Bytes) {clock : Nat} (matched consumed : Nat)
    (hclock : data.length - consumed < clock) :
    matchWithin literal data clock matched consumed =
      some (scan literal matched consumed (literal.drop matched) (data.drop consumed)) := by
  induction clock generalizing matched consumed with
  | zero => omega
  | succ clock ih =>
    rw [matchWithin]
    cases hb : literal[matched]? with
    | none =>
      rw [List.drop_eq_nil_of_le (List.getElem?_eq_none_iff.mp hb),scan]
    | some b =>
      obtain ⟨hmatched,rfl⟩ := List.getElem?_eq_some_iff.mp hb
      have hne : matched ≠ literal.length := by omega
      rw [List.drop_eq_getElem_cons hmatched]
      cases hx : data[consumed]? with
      | none =>
        rw [List.drop_eq_nil_of_le (List.getElem?_eq_none_iff.mp hx),scan,if_neg hne]
      | some x =>
        obtain ⟨hbound,rfl⟩ := List.getElem?_eq_some_iff.mp hx
        rw [List.drop_eq_getElem_cons hbound,scan]
        by_cases heq : data[consumed] = literal[matched]
        · simp only [heq,if_true]
          exact ih (matched + 1) (consumed + 1) (by omega)
        · simp only [heq,if_false]

end Literal

namespace Checkpoint

mutual

/-- How many bytes a checkpoint holds back, which a later step may give away again. -/
def held : Checkpoint → Nat
  | literal _ => 0
  | integer _ => 0
  | inFirst inner => inner.held
  | inSecond inner _ => inner.held
  | choice slots _ leftover => leftover.length + heldBySlots slots
  | repetition item _ _ => item.held

def heldBySlots : List (Option Checkpoint) → Nat
  | [] => 0
  | none :: slots => heldBySlots slots
  | some inner :: slots => inner.held + heldBySlots slots

end

theorem held_le_heldBySlots {slots : List (Option Checkpoint)} {inner : Checkpoint}
    (h : some inner ∈ slots) : inner.held ≤ heldBySlots slots := by
  induction slots with
  | nil => cases h
  | cons slot slots ih =>
    rcases List.mem_cons.mp h with rfl | h
    · rw [heldBySlots]
      omega
    · have := ih h
      cases slot <;> rw [heldBySlots] <;> omega

end Checkpoint

namespace Grammar

theorem held_initial (g : Grammar) : g.initial.held = 0 := by
  induction g with
  | literal _ => rfl
  | integer _ => rfl
  | sequence _ _ _ hfirst _ => exact hfirst
  | choice first others ih =>
    have hslots (gs : List Grammar) (h : ∀ g ∈ gs, g.initial.held = 0) :
        Checkpoint.heldBySlots (gs.map fun g => some g.initial) = 0 := by
      induction gs with
      | nil => rfl
      | cons g gs ih =>
        rw [List.map_cons,Checkpoint.heldBySlots,h g List.mem_cons_self,
          ih fun g hg => h g (List.mem_cons_of_mem _ hg)]
    rw [initial,initialSlots_eq_map,Checkpoint.held,List.length_nil,Nat.zero_add]
    exact hslots (first :: others) ih
  | repetition _ _ ih => exact ih
  | mapped _ _ ih => exact ih

theorem rest_le_held {g : Grammar} {c : Checkpoint} {data rest : Bytes} {o : Value}
    (h : g.advance c data = .ok (.finished o rest)) : rest.length ≤ data.length + c.held := by
  induction g generalizing c data o rest with
  | literal bytes =>
    cases c <;> try cases h
    obtain ⟨_,rfl⟩ := Literal.scan_finished h
    rw [List.length_append]
    omega
  | integer range =>
    cases c <;> try cases h
    obtain ⟨k,hr,_⟩ := IntegerRange.advance_finished h
    exact IntegerRange.rest_le_of_read hr
  | sequence keep first second hfirst hsecond =>
    cases c <;> try cases h
    case inFirst inner =>
      obtain ⟨a,between,b,ha,hb,_⟩ := advance_inFirst_finished h
      have hbetween : between.length ≤ data.length + inner.held := hfirst ha
      exact Nat.le_trans (rest_le_of_finished hb) hbetween
    case inSecond inner a =>
      obtain ⟨b,hb,_⟩ := Keep.proceed_finished h
      have hrest : rest.length ≤ data.length + inner.held := hsecond hb
      exact hrest
  | choice first others ih =>
    cases c <;> try cases h
    rw [advance_choice] at h
    obtain ⟨_,_,hclose⟩ := Choice.settle_closed h (by simp) (by simp)
    rw [Checkpoint.held]
    obtain ⟨i,x,hr,_⟩ | ⟨b,_,_,rfl⟩ := Choice.close_finished hclose
    · obtain ⟨g,inner,hg,hslot,ha⟩ := getElem?_advanceSlots_some.mp hr
      have hrest := ih g (List.mem_of_getElem? hg) ha
      have hheld := Checkpoint.held_le_heldBySlots (List.mem_of_getElem? hslot)
      omega
    · rw [List.length_append]
      omega
  | repetition item bounds ih =>
    cases c <;> try cases h
    case repetition current outputs inProgress =>
      by_cases hmax : bounds.max = some 0
      · simp only [advance,Repetition.advance_of_max_zero hmax] at h
        cases h
        omega
      · exact Repetition.rest_le_of_rounds ((advance_repetition hmax).mp h) rfl (by omega) ih
  | mapped body t ih =>
    obtain ⟨x,hx,_⟩ := Transform.on_finished h
    exact ih hx

end Grammar

namespace Repetition

def pauseWithin (item : Checkpoint → Bytes → Option Attempt) (initial : Checkpoint)
    (bounds : Bounds) (outputs : List Value) : Option Attempt :=
  if bounds.contains outputs.length then
    some (.ok (.incomplete (.repetition initial outputs false) .empty))
  else (item initial []).map fun probe => pause ⟨initial,fun _ _ => probe⟩ bounds outputs

/-- The loop over the items, cut off after `clock` of them. Nothing in it tells the first pass,
which may resume an item, from the later ones. -/
def loopWithin (item : Checkpoint → Bytes → Option Attempt) (initial : Checkpoint)
    (bounds : Bounds) :
    (clock : Nat) → Checkpoint → List Value → Bool → Bytes → Option Attempt
  | 0, _, _, _, _ => none
  | clock + 1, current, outputs, inProgress, data => do
    match ← item current data with
    | .error (.parse e) =>
      return if mayEnd bounds outputs inProgress then .ok (.finished (.list outputs) data)
        else .error (.parse e)
    | .error (.fault f) => return .error (.fault f)
    | .ok (.incomplete c required) => return .ok (.incomplete (.repetition c outputs true) required)
    | .ok (.finished x rest) =>
      let outputs := outputs ++ [x]
      if bounds.isCeiling outputs.length then return .ok (.finished (.list outputs) rest)
      else if rest.isEmpty then pauseWithin item initial bounds outputs
      else if !inProgress && rest.length == data.length then
        return if bounds.contains outputs.length then .ok (.finished (.list outputs) rest)
          else .error (.parse { reason := .emptyRepetition outputs.length bounds.min })
      else loopWithin item initial bounds clock initial outputs false rest

variable {bounds : Bounds} {inProgress : Bool} {current : Checkpoint} {outputs : List Value}
  {data : Bytes} {within : Checkpoint → Bytes → Option Attempt}

theorem pauseWithin_eq {item : Item}
    (hprobe : within item.initial [] = some (item.advance item.initial [])) :
    pauseWithin within item.initial bounds outputs = some (pause item bounds outputs) := by
  unfold pauseWithin pause
  split
  · rfl
  · rw [hprobe]
    rfl

theorem loopWithin_succ (item : Item) (clock : Nat)
    (hitem : within current data = some (item.advance current data))
    (hprobe : within item.initial [] = some (item.advance item.initial [])) :
    loopWithin within item.initial bounds (clock + 1) current outputs inProgress data =
      match round item bounds (stalls false inProgress data) current outputs inProgress data with
      | .settled result => some result
      | .again outputs' rest =>
        loopWithin within item.initial bounds clock item.initial outputs' false rest := by
  rw [loopWithin,hitem,round]
  rcases item.advance current data with (e | f) | (⟨x,rest⟩ | ⟨c,required⟩)
  · cases hend : mayEnd bounds outputs inProgress <;> rfl
  · rfl
  · simp only [Option.bind_eq_bind,Option.bind_some,afterItem,pauseWithin_eq hprobe,stalls,
      Bool.false_eq_true,if_false]
    split
    · rfl
    split
    · rfl
    cases !inProgress && rest.length == data.length with
    | false => rfl
    | true => cases bounds.contains (outputs ++ [x]).length <;> rfl
  · rfl

variable {item : Grammar}

theorem round_fresh (item : Grammar) (bounds : Bounds) (outputs : List Value) (data : Bytes) :
    round item.toItem bounds (stalls false false data) item.initial outputs false data =
      round item.toItem bounds (stalls true false data) item.initial outputs false data := by
  simp only [round]
  split
  · rfl
  · rfl
  · rfl
  · rename_i ha
    rw [stalls_fresh ha]

theorem loopWithin_eq_run {size clock : Nat} (outputs : List Value)
    (hitem : ∀ data, data.length ≤ size →
      within item.initial data = some (item.advance item.initial data))
    (hsize : data.length ≤ size) (hclock : data.length < clock) :
    loopWithin within item.initial bounds clock item.initial outputs false data =
      some (run item.toItem bounds outputs data) := by
  induction clock generalizing outputs data with
  | zero => omega
  | succ clock ih =>
    have hprobe := hitem [] (Nat.zero_le _)
    rw [loopWithin_succ item.toItem clock (hitem data hsize) hprobe,round_fresh,run_eq_proceed,
      proceed]
    cases hround : round item.toItem bounds (stalls true false data) item.initial outputs false
      data with
    | settled result => rfl
    | again outputs' rest =>
      obtain ⟨_,_,_,_,_,hstalls⟩ := finished_of_again hround
      have hlt : rest.length < data.length := by simpa [stalls] using hstalls
      exact ih outputs' (by omega) (by omega)

theorem loopWithin_eq_advance {size clock : Nat} (hmax : bounds.max ≠ some 0)
    (hitem : within current data = some (item.advance current data))
    (hfresh : ∀ data, data.length ≤ size →
      within item.initial data = some (item.advance item.initial data))
    (hrest : ∀ {x rest}, item.advance current data = .ok (.finished x rest) → rest.length ≤ size)
    (hclock : size + 1 < clock) :
    loopWithin within item.initial bounds clock current outputs inProgress data =
      some (advance item.toItem bounds current outputs inProgress data) := by
  obtain ⟨clock,rfl⟩ : ∃ k, clock = k + 1 := ⟨clock - 1,by omega⟩
  have hprobe := hfresh [] (Nat.zero_le _)
  rw [loopWithin_succ item.toItem clock hitem hprobe,advance_eq_proceed hmax,proceed]
  cases hround : round item.toItem bounds (stalls false inProgress data) current outputs inProgress
    data with
  | settled result => rfl
  | again outputs' rest =>
    obtain ⟨x,ha,_⟩ := finished_of_again hround
    have hle := hrest ha
    exact loopWithin_eq_run outputs' hfresh hle (by omega)

end Repetition

namespace Grammar

mutual

def width : Grammar → Nat
  | literal _ => 0
  | integer range => range.width
  | sequence _ first second => max first.width second.width
  | choice first others => max first.width (widthOfAll others)
  | repetition item _ => item.width
  | mapped body _ => body.width

def widthOfAll : List Grammar → Nat
  | [] => 0
  | g :: gs => max g.width (widthOfAll gs)

end

theorem width_le_widthOfAll {g : Grammar} {gs : List Grammar} (h : g ∈ gs) :
    g.width ≤ widthOfAll gs := by
  induction gs with
  | nil => cases h
  | cons g' gs ih =>
    rw [widthOfAll]
    rcases List.mem_cons.mp h with rfl | h
    · exact Nat.le_max_left _ _
    · exact Nat.le_trans (ih h) (Nat.le_max_right _ _)

mutual

/-- `advance`, given up as `none` if any of its loops takes more than `clock` passes. -/
def advanceWithin (clock : Nat) : Grammar → Checkpoint → Bytes → Option Attempt
  | .literal bytes, c, data =>
    match c with
    | .literal matched => Literal.matchWithin bytes data clock matched 0
    | _ => some (.error (.fault .foreignCheckpoint))
  | .integer range, c, data =>
    match c with
    | .integer numeral => range.advanceWithin clock numeral data
    | _ => some (.error (.fault .foreignCheckpoint))
  | .sequence keep first second, c, data =>
    match c with
    | .inFirst inner => do
      match ← first.advanceWithin clock inner data with
      | .error e => return .error e
      | .ok (.incomplete c' required) => return .ok (.incomplete (.inFirst c') required)
      | .ok (.finished a rest) =>
        let attempt ← second.advanceWithin clock second.initial rest
        return keep.proceed (fun _ _ => attempt) second.initial a rest
    | .inSecond inner a => do
      let attempt ← second.advanceWithin clock inner data
      return keep.proceed (fun _ _ => attempt) inner a data
    | _ => some (.error (.fault .foreignCheckpoint))
  | .choice first others, c, data =>
    match c with
    | .choice [] fallback leftover => some (Choice.settle fallback leftover data [])
    | .choice (slot :: slots) fallback leftover => do
      let result ← slot.mapM fun inner => first.advanceWithin clock inner data
      let results ← advanceSlotsWithin clock others slots data
      return Choice.settle fallback leftover data (result :: results)
    | _ => some (.error (.fault .foreignCheckpoint))
  | .repetition item bounds, c, data =>
    match c with
    | .repetition current outputs inProgress =>
      if bounds.max = some 0 then some (.ok (.finished (.list []) data))
      else
        Repetition.loopWithin (item.advanceWithin clock) item.initial bounds clock current outputs
          inProgress data
    | _ => some (.error (.fault .foreignCheckpoint))
  | .mapped body t, c, data => (body.advanceWithin clock c data).map t.on

def advanceSlotsWithin (clock : Nat) :
    List Grammar → List (Option Checkpoint) → Bytes → Option (List Choice.SlotResult)
  | g :: gs, slot :: slots, data => do
    let result ← slot.mapM fun inner => g.advanceWithin clock inner data
    let results ← advanceSlotsWithin clock gs slots data
    return result :: results
  | _, _, _ => some []

end

variable {clock : Nat} {c : Checkpoint} {data : Bytes}

theorem mapM_slot {slot : Option Checkpoint} {within : Checkpoint → Option Attempt}
    {advance : Checkpoint → Attempt} (h : ∀ c, some c = slot → within c = some (advance c)) :
    slot.mapM within = some (slot.map advance) := by
  cases slot with
  | none => rfl
  | some c =>
    rw [Option.mapM_some,h c rfl]
    rfl

theorem advanceSlotsWithin_eq {gs : List Grammar} {slots : List (Option Checkpoint)}
    (h : ∀ g ∈ gs, ∀ c, some c ∈ slots → g.advanceWithin clock c data = some (g.advance c data)) :
    advanceSlotsWithin clock gs slots data = some (advanceSlots gs slots data) := by
  induction gs generalizing slots with
  | nil => cases slots <;> rfl
  | cons g gs ih =>
    cases slots with
    | nil => rfl
    | cons slot slots =>
      have hslot : ∀ c, some c = slot → g.advanceWithin clock c data = some (g.advance c data) :=
        fun c hc => h g List.mem_cons_self c (hc ▸ List.mem_cons_self)
      have hslots := ih fun g hg c hc =>
        h g (List.mem_cons_of_mem _ hg) c (List.mem_cons_of_mem _ hc)
      rw [advanceSlotsWithin,mapM_slot hslot,hslots]
      rfl

theorem advanceWithin_choice (clock : Nat) (first : Grammar) (others : List Grammar)
    (slots : List (Option Checkpoint)) (fallback : Option Branch) (leftover data : Bytes) :
    advanceWithin clock (.choice first others) (.choice slots fallback leftover) data =
      (advanceSlotsWithin clock (first :: others) slots data).map
        (Choice.settle fallback leftover data) := by
  cases slots with
  | nil => rfl
  | cons slot slots =>
    simp only [advanceWithin,advanceSlotsWithin]
    cases slot.mapM fun inner => first.advanceWithin clock inner data with
    | none => rfl
    | some result => cases advanceSlotsWithin clock others slots data <;> rfl

/-- How many passes an advance needs of any one loop. The second part of a sequence and the later
items of a repetition may read again what the checkpoint holds back. -/
def passes (g : Grammar) (c : Checkpoint) (data : Bytes) : Nat :=
  data.length + c.held + g.width + 2

theorem advanceWithin_of_passes {g : Grammar} (h : g.passes c data ≤ clock) :
    g.advanceWithin clock c data = some (g.advance c data) := by
  unfold passes at h
  induction g generalizing c data with
  | literal bytes =>
    cases c <;> try rfl
    case literal matched => exact Literal.matchWithin_eq bytes data matched 0 (by omega)
  | integer range =>
    cases c <;> try rfl
    case integer n =>
      rw [width] at h
      exact IntegerRange.advanceWithin_eq (by omega) n data
  | sequence keep first second hfirst hsecond =>
    cases c <;> try rfl
    case inFirst inner =>
      rw [width,Checkpoint.held] at h
      rw [advanceWithin,hfirst (by omega),advance]
      cases ha : first.advance inner data with
      | error e => rfl
      | ok outcome =>
        cases outcome with
        | incomplete c required => rfl
        | finished a rest =>
          have hrest := rest_le_held ha
          have hinitial := second.held_initial
          have hb : second.advanceWithin clock second.initial rest = _ := hsecond (by omega)
          simp only [Option.bind_eq_bind,Option.bind_some,hb]
          rfl
    case inSecond inner a =>
      rw [width,Checkpoint.held] at h
      rw [advanceWithin,hsecond (by omega)]
      rfl
  | choice first others ih =>
    cases c <;> try rfl
    case choice slots fallback leftover =>
      rw [width,Checkpoint.held] at h
      have hslot (g : Grammar) (hg : g ∈ first :: others) (inner : Checkpoint)
          (hinner : some inner ∈ slots) :
          g.advanceWithin clock inner data = some (g.advance inner data) := by
        have hheld := Checkpoint.held_le_heldBySlots hinner
        have hwidth := width_le_widthOfAll hg
        rw [widthOfAll] at hwidth
        exact ih g hg (by omega)
      rw [advanceWithin_choice,advanceSlotsWithin_eq hslot,advance_choice]
      rfl
  | repetition item bounds ih =>
    cases c <;> try rfl
    case repetition current outputs inProgress =>
      rw [width,Checkpoint.held] at h
      by_cases hmax : bounds.max = some 0
      · simp only [advanceWithin,advance,hmax,if_true,Repetition.advance_of_max_zero hmax]
      · have hinitial := item.held_initial
        have hitem : item.advanceWithin clock current data = some (item.advance current data) :=
          ih (by omega)
        have hfresh (rest : Bytes) (hrest : rest.length ≤ data.length + current.held) :
            item.advanceWithin clock item.initial rest = some (item.advance item.initial rest) :=
          ih (by omega)
        simp only [advanceWithin,hmax,if_false]
        exact Repetition.loopWithin_eq_advance hmax hitem hfresh rest_le_held (by omega)
  | mapped body t ih =>
    rw [advanceWithin,ih h]
    rfl

/-- From any checkpoint and over any data an advance comes to an end: its loops, run as they stand,
take no more passes than there are bytes, given or held back, and digits, and come to what `advance`
says. -/
theorem advanceWithin_eq_advance (g : Grammar) (c : Checkpoint) (data : Bytes) (more : Nat) :
    g.advanceWithin (g.passes c data + more) c data = some (g.advance c data) :=
  advanceWithin_of_passes (Nat.le_add_right _ _)

example :
    let g : Grammar :=
      .repetition (.choice (.literal (utf8 "a")) [.literal (utf8 "abc")]) ⟨0,none,nofun⟩
    let c : Checkpoint :=
      .repetition (.choice [none,some (.literal 2)] (some ⟨0,.none⟩) (utf8 "b")) [] true
    g.advanceWithin 2 c (utf8 "x") = some (.ok (.finished (.list [.branch 0 .none]) (utf8 "bx"))) ∧
      g.advanceWithin 1 c (utf8 "x") = none := ⟨rfl,rfl⟩

end Grammar

end GuidedDecoding
