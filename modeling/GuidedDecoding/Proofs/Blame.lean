import GuidedDecoding.Proofs.Increments
import GuidedDecoding.Proofs.Segments

/-!
Which part of a grammar raises a parse error, and over which bytes. The part counts from the start
of the bytes that it was handed. Behind a finished part these are only what that part has left, so
the position says where the error is in the step as a whole only if no part before it has finished.
-/

set_option autoImplicit false

namespace GuidedDecoding

/-- The error has found one byte, which stands at its position in `view`. -/
structure ParseError.PointsAt (e : ParseError) (view : Bytes) (place : Nat) (b : UInt8) : Prop where
  position : e.position = place
  found : e.found = some [b]
  byte : view[place]? = some b

theorem Literal.pointsAt_of_scan {literal left data : Bytes} {matched consumed : Nat}
    {e : ParseError} (h : scan literal matched consumed left data = .error (.parse e)) :
    ∃ i b, e.position = ↑(consumed + i) ∧ e.found = some [b] ∧ data[i]? = some b := by
  induction left generalizing matched consumed data with
  | nil =>
    unfold scan at h
    split at h <;> cases h
  | cons b left ih =>
    cases data with
    | nil => cases h
    | cons x data =>
      by_cases hx : x = b
      · simp only [scan,hx,if_true] at h
        obtain ⟨i,b',hposition,hfound,hbyte⟩ := ih h
        exact ⟨i + 1,b',by rw [hposition]; omega,hfound,by simpa using hbyte⟩
      · simp only [scan,hx,if_false] at h
        cases h
        exact ⟨0,x,rfl,rfl,rfl⟩

namespace IntegerRange

variable {r : IntegerRange} {n : Numeral} {position : Nat} {data rest : Bytes} {b : UInt8}
  {e : ParseError}

theorem found_of_close {result : Except ParseError (Numeral ⊕ Int × Bytes)}
    (h : (r.close n position (b :: rest)).map .inr = result) (he : result = .error e) :
    e.position = position ∧ e.found = some [b] := by
  subst h
  unfold close at he
  split at he
  · cases he
  · cases he
    exact ⟨rfl,rfl⟩

theorem pointsAt_of_read (h : r.read n position data = .error e) :
    ∃ i b, e.position = ↑(position + i) ∧ e.found = some [b] ∧ data[i]? = some b := by
  revert h
  fun_induction IntegerRange.read r n position data with
  | case1 n position =>
    intro h
    cases h
  | case2 n position b data hs ih =>
    intro h
    obtain ⟨i,b',hposition,hfound,hbyte⟩ := ih h
    exact ⟨i + 1,b',by rw [hposition]; omega,hfound,by simpa using hbyte⟩
  | case3 n position b data hs hd =>
    intro h
    obtain ⟨hposition,hfound⟩ := found_of_close rfl h
    exact ⟨0,b,hposition,hfound,rfl⟩
  | case4 n position b data hs d hd next hv =>
    intro h
    obtain ⟨hposition,hfound⟩ := found_of_close rfl h
    exact ⟨0,b,hposition,hfound,rfl⟩
  | case5 n position b data hs d hd next hv he ih =>
    intro h
    obtain ⟨i,b',hposition,hfound,hbyte⟩ := ih h
    exact ⟨i + 1,b',by rw [hposition]; omega,hfound,by simpa using hbyte⟩
  | case6 n position b data hs d hd next hv he =>
    intro h
    cases h

theorem read_of_advance (h : r.advance n data = .error (.parse e)) :
    r.read n 0 data = .error e := by
  unfold advance at h
  split at h
  · rename_i hr
    cases h
    exact hr
  · cases h
  · cases h

end IntegerRange

namespace Repetition

/-- The round in which a repetition fails, by the checkpoint of its item and the bytes that are left
for it: this one, or one after some items that have finished. -/
inductive FailsAt (item : Item) (bounds : Bounds) :
    (later : Bool) → (current : Checkpoint) → (outputs : List Value) → (inProgress : Bool) →
      (data : Bytes) → Checkpoint → Bytes → Prop where
  | here {later current outputs inProgress data} :
      mayEnd bounds outputs inProgress = false →
      FailsAt item bounds later current outputs inProgress data current data
  | next {later current outputs inProgress data rest x inner view} :
      item.advance current data = .ok (.finished x rest) →
      bounds.isCeiling (outputs ++ [x]).length = false → rest ≠ [] →
      stalls later inProgress data rest = false →
      FailsAt item bounds true item.initial (outputs ++ [x]) false rest inner view →
      FailsAt item bounds later current outputs inProgress data inner view

variable {item : Item} {bounds : Bounds} {later inProgress : Bool} {current inner : Checkpoint}
  {outputs : List Value} {data view : Bytes} {e : ParseError} {result : Attempt}

theorem FailsAt.rounds (h : FailsAt item bounds later current outputs inProgress data inner view)
    (he : item.advance inner view = .error (.parse e)) :
    Rounds item bounds later current outputs inProgress data (.error (.parse e)) := by
  induction h with
  | here hend => exact .fail he hend
  | next ha hceil hrest hstall _ ih => exact .next ha hceil hrest hstall (ih he)

theorem pause_ne_parse : pause item bounds outputs ≠ .error (.parse e) := by
  unfold pause
  split
  · nofun
  · unfold freshDemand
    split <;> nofun

theorem failsAt_of_rounds
    (h : Rounds item bounds later current outputs inProgress data result)
    (hresult : result = .error (.parse e)) :
    (∃ inner view, FailsAt item bounds later current outputs inProgress data inner view ∧
        item.advance inner view = .error (.parse e)) ∨
      ∃ items, e = { reason := .emptyRepetition items bounds.min } := by
  induction h with
  | stop _ _ => cases hresult
  | fail ha hend =>
    cases hresult
    exact .inl ⟨_,_,.here hend,ha⟩
  | fault _ => cases hresult
  | inside _ => cases hresult
  | ceiling _ _ => cases hresult
  | between _ _ => exact absurd hresult pause_ne_parse
  | stall _ _ _ _ _ => cases hresult
  | short _ _ _ _ _ =>
    cases hresult
    exact .inr ⟨_,rfl⟩
  | next ha hceil hrest hstall _ ih =>
    obtain ⟨inner,view,hfails,he⟩ | hempty := ih hresult
    · exact .inl ⟨inner,view,.next ha hceil hrest hstall hfails,he⟩
    · exact .inr hempty

theorem FailsAt.elim_of_enough
    (h : FailsAt item bounds later current outputs inProgress data inner view)
    (hfresh : inProgress = false) (hmin : bounds.min ≤ outputs.length)
    (hmax : ∀ m ∈ bounds.max, outputs.length < m) : False := by
  induction h with
  | here hend =>
    subst hfresh
    have hcount := Bounds.contains_iff.mpr ⟨hmin,fun m hm => Nat.le_of_lt (hmax m hm)⟩
    simp [mayEnd,hcount] at hend
  | next _ hceil _ _ _ ih =>
    refine ih rfl ?_ (Bounds.isCeiling_eq_false.mp hceil)
    rw [List.length_append]
    omega

theorem FailsAt.eq_of_min_le (hmin : bounds.min ≤ 1)
    (h : FailsAt item bounds later current outputs inProgress data inner view) :
    inner = current ∧ view = data := by
  cases h with
  | here _ => exact ⟨rfl,rfl⟩
  | next _ hceil _ _ hfails =>
    refine (hfails.elim_of_enough rfl ?_ (Bounds.isCeiling_eq_false.mp hceil)).elim
    rw [List.length_append,List.length_singleton]
    omega

end Repetition

theorem Choice.close_error {fallback : Option Branch} {leftover data : Bytes}
    {results : List SlotResult} {e : ParseError}
    (h : close fallback leftover data results = .error (.parse e)) :
    longest 0 results = none ∧
      ((∀ r ∈ results, parseError? r = none) ∨
        ∃ (i : Nat) (e' : ParseError), results[i]? = some (some (.error (.parse e'))) ∧
          e = { e' with reason := .noAlternativeMatched e'.reason }) := by
  unfold close at h
  split at h
  · cases h
  · rename_i hnone
    refine ⟨hnone,?_⟩
    split at h
    · cases h
    · split at h
      · rename_i hlast
        rw [lastError,List.getLast?_eq_none_iff,List.filterMap_eq_nil_iff] at hlast
        exact .inl hlast
      · rename_i e' hlast
        cases h
        obtain ⟨r,hr,he⟩ := List.mem_filterMap.mp (List.mem_of_getLast? hlast)
        obtain ⟨i,hi⟩ := List.mem_iff_getElem?.mp hr
        unfold parseError? at he
        split at he
        · cases he
          exact .inr ⟨i,e',hi,rfl⟩
        · cases he

theorem Choice.parse_of_closed {results : List SlotResult} {i : Nat} {attempt : Attempt}
    (hfault : results.findSome? fault? = none) (hclosed : results.filterMap requirement? = [])
    (hnone : longest 0 results = none) (hi : results[i]? = some (some attempt)) :
    ∃ e, attempt = .error (.parse e) := by
  have hmem := List.mem_of_getElem? hi
  rcases attempt with (e | f) | (⟨o,rest⟩ | ⟨c,required⟩)
  · exact ⟨e,rfl⟩
  · cases List.findSome?_eq_none_iff.mp hfault _ hmem
  · exact absurd hi (getElem?_ne_finished hnone)
  · cases List.filterMap_eq_nil_iff.mp hclosed _ hmem

namespace Grammar

/-- What raises a parse error: a part of the grammar, over the bytes it was handed, or a
transform. -/
inductive Source where
  | part (view : Bytes)
  | transform

/-- `g.Raised c data e source`: a step of `g` from `c` over `data` fails by the error `e`, raised by
`source`. -/
inductive Raised : Grammar → Checkpoint → Bytes → ParseError → Source → Prop where
  | literal {bytes matched data e} :
      Literal.advance bytes matched data = .error (.parse e) →
      Raised (.literal bytes) (.literal matched) data e (.part data)
  | integer {range n data e} :
      range.advance n data = .error (.parse e) →
      Raised (.integer range) (.integer n) data e (.part data)
  | inFirst {keep first second inner data e source} :
      Raised first inner data e source →
      Raised (.sequence keep first second) (.inFirst inner) data e source
  | behindFirst {keep first second inner data a rest e source} :
      first.advance inner data = .ok (.finished a rest) →
      Raised second second.initial rest e source →
      Raised (.sequence keep first second) (.inFirst inner) data e source
  | inSecond {keep first second inner a data e source} :
      Raised second inner data e source →
      Raised (.sequence keep first second) (.inSecond inner a) data e source
  | alternative {first others fallback leftover data e source} {slots : List (Option Checkpoint)}
      {i : Nat} {g : Grammar} {inner : Checkpoint} :
      (first :: others)[i]? = some g → slots[i]? = some (some inner) →
      Raised g inner data e source →
      (Grammar.choice first others).advance (.choice slots fallback leftover) data =
        .error (.parse { e with reason := .noAlternativeMatched e.reason }) →
      Raised (.choice first others) (.choice slots fallback leftover) data
        { e with reason := .noAlternativeMatched e.reason } source
  | item {item bounds current outputs inProgress data inner view e source} :
      bounds.max ≠ some 0 →
      Repetition.FailsAt item.toItem bounds false current outputs inProgress data inner view →
      Raised item inner view e source →
      Raised (.repetition item bounds) (.repetition current outputs inProgress) data e source
  | noProgress {item bounds c data items} :
      (Grammar.repetition item bounds).advance c data =
        .error (.parse { reason := .emptyRepetition items bounds.min }) →
      Raised (.repetition item bounds) c data { reason := .emptyRepetition items bounds.min }
        (.part data)
  | mapped {body t c data e source} :
      Raised body c data e source → Raised (.mapped body t) c data e source
  | rejected {body t c data x rest e} :
      body.advance c data = .ok (.finished x rest) → t.apply x = .error (.parse e) →
      Raised (.mapped body t) c data e .transform

variable {g : Grammar} {c : Checkpoint} {w data view : Bytes} {e : ParseError} {source : Source}

theorem fed_of_failsAt {item : Grammar} {bounds : Bounds} {later inProgress : Bool}
    {current inner : Checkpoint} {outputs : List Value} {v : Bytes}
    (h : Repetition.FailsAt item.toItem bounds later current outputs inProgress data inner view)
    (hcurrent : item.Fed v current) :
    ∃ v', item.Fed v' inner ∧ v' ++ view <:+ v ++ data := by
  induction h generalizing v with
  | here _ => exact ⟨v,hcurrent,List.suffix_rfl⟩
  | next ha _ _ _ _ ih =>
    obtain ⟨v',hv',hsuffix⟩ := ih .start
    obtain ⟨u,hu,_⟩ := hcurrent.derives (hcurrent.ready.completes_of_finished ha)
    exact ⟨v',hv',hsuffix.trans ⟨u,by rw [hu,List.nil_append]⟩⟩

theorem Raised.advance_eq (h : g.Raised c data e source) :
    g.advance c data = .error (.parse e) := by
  induction h with
  | literal h => exact h
  | integer h => exact h
  | inFirst _ ih => simp only [advance,ih]
  | behindFirst ha _ ih => simp only [advance,ha,Keep.proceed,ih]
  | inSecond _ ih => simp only [advance,Keep.proceed,ih]
  | alternative _ _ _ h _ => exact h
  | item hmax hfails _ ih => exact (advance_repetition hmax).mpr (hfails.rounds ih)
  | noProgress h => exact h
  | mapped _ ih => simp only [advance,ih,Transform.on]
  | rejected ha ht => simp only [advance,ha,Transform.on,ht]

theorem Fed.exists_raised (hfed : g.Fed w c) (h : g.advance c data = .error (.parse e)) :
    ∃ source, g.Raised c data e source := by
  induction g generalizing w c data e with
  | literal bytes =>
    obtain ⟨matched,rfl,_⟩ := hfed.ready.literal
    exact ⟨_,.literal h⟩
  | integer range =>
    obtain ⟨n,rfl,_⟩ := hfed.ready.integer
    exact ⟨_,.integer h⟩
  | sequence keep first second hfirst hsecond =>
    have hproceed {inner : Checkpoint} {a : Value} {rest : Bytes}
        (h : keep.proceed second.advance inner a rest = .error (.parse e)) :
        second.advance inner rest = .error (.parse e) := by
      unfold Keep.proceed at h
      split at h
      · rename_i he
        cases h
        exact he
      · cases h
      · cases h
    obtain ⟨inner,rfl,hinner⟩ | ⟨inner,a,v,rfl,hinner⟩ := hfed.sequence
    · simp only [advance] at h
      split at h
      · rename_i he
        cases h
        obtain ⟨source,hs⟩ := hfirst hinner he
        exact ⟨source,.inFirst hs⟩
      · cases h
      · rename_i a rest ha
        obtain ⟨source,hs⟩ := hsecond .start (hproceed h)
        exact ⟨source,.behindFirst ha hs⟩
    · obtain ⟨source,hs⟩ := hsecond hinner (hproceed h)
      exact ⟨source,.inSecond hs⟩
  | choice first others ih =>
    obtain ⟨slots,fallback,leftover,rfl,hslots⟩ := hfed.choice
    have hsettle := h
    rw [advance_choice] at hsettle
    obtain ⟨hfault,hclosed,hclose⟩ := Choice.settle_closed hsettle (by simp) (by simp)
    obtain ⟨hnone,hquiet | ⟨i,e',hi,rfl⟩⟩ := Choice.close_error hclose
    · -- No slot has an error to keep; but some slot has advanced, and only an error is left for it.
      obtain ⟨i,g,inner,hg,hinner⟩ := hfed.ready.exists_slot
      have hi :
          (advanceSlots (first :: others) slots data)[i]? = some (some (g.advance inner data)) :=
        getElem?_advanceSlots_some.mpr ⟨g,inner,hg,hinner,rfl⟩
      obtain ⟨e',he'⟩ := Choice.parse_of_closed hfault hclosed hnone hi
      rw [he'] at hi
      cases hquiet _ (List.mem_of_getElem? hi)
    · obtain ⟨g,inner,hg,hinner,ha⟩ := getElem?_advanceSlots_some.mp hi
      obtain ⟨source,hs⟩ := ih g (List.mem_of_getElem? hg) (hslots i g inner hg hinner) ha
      exact ⟨source,.alternative hg hinner hs h⟩
  | repetition item bounds ih =>
    obtain ⟨current,outputs,inProgress,v,rfl,hv⟩ := hfed.repetition
    by_cases hmax : bounds.max = some 0
    · simp only [advance,Repetition.advance_of_max_zero hmax] at h
      cases h
    · obtain ⟨inner,view,hfails,he⟩ | ⟨items,rfl⟩ :=
        Repetition.failsAt_of_rounds ((advance_repetition hmax).mp h) rfl
      · obtain ⟨v',hinner,_⟩ := fed_of_failsAt hfails hv
        obtain ⟨source,hs⟩ := ih hinner he
        exact ⟨source,.item hmax hfails hs⟩
      · exact ⟨_,.noProgress h⟩
  | mapped body t ih =>
    simp only [advance] at h
    rcases ha : body.advance c data with e' | (⟨x,rest⟩ | ⟨c',required⟩)
    · rw [ha] at h
      cases h
      obtain ⟨source,hs⟩ := ih hfed.mapped ha
      exact ⟨source,.mapped hs⟩
    · simp only [ha,Transform.on] at h
      split at h
      · cases h
      · rename_i ht
        cases h
        exact ⟨_,.rejected ha ht⟩
    · rw [ha] at h
      cases h

theorem Raised.pointsAt (h : g.Raised c data e (.part view)) :
    e.found = none ∨ ∃ i b, e.PointsAt view i b := by
  generalize hs : Source.part view = source at h
  induction h with
  | literal h =>
    cases hs
    obtain ⟨i,b,hposition,hfound,hbyte⟩ := Literal.pointsAt_of_scan h
    exact .inr ⟨i,b,by simpa using hposition,hfound,hbyte⟩
  | integer h =>
    cases hs
    obtain ⟨i,b,hposition,hfound,hbyte⟩ :=
      IntegerRange.pointsAt_of_read (IntegerRange.read_of_advance h)
    exact .inr ⟨i,b,by simpa using hposition,hfound,hbyte⟩
  | inFirst _ ih => exact ih hs
  | behindFirst _ _ ih => exact ih hs
  | inSecond _ ih => exact ih hs
  | alternative _ _ _ _ ih =>
    refine (ih hs).imp id ?_
    rintro ⟨i,b,hposition,hfound,hbyte⟩
    exact ⟨i,b,hposition,hfound,hbyte⟩
  | item _ _ _ ih => exact ih hs
  | noProgress _ => exact .inl rfl
  | mapped _ ih => exact ih hs
  | rejected _ _ => cases hs

theorem Raised.suffix (h : g.Raised c data e (.part view)) (hfed : g.Fed w c) :
    view <:+ w ++ data := by
  generalize hs : Source.part view = source at h
  induction h generalizing w with
  | literal _ =>
    cases hs
    exact List.suffix_append _ _
  | integer _ =>
    cases hs
    exact List.suffix_append _ _
  | inFirst _ ih => exact ih hfed.inFirst hs
  | behindFirst ha _ ih =>
    obtain ⟨u,hu,_⟩ := hfed.inFirst.derives (hfed.inFirst.ready.completes_of_finished ha)
    exact (ih .start hs).trans ⟨u,by rw [hu,List.nil_append]⟩
  | inSecond _ ih =>
    obtain ⟨u,v,rfl,_,hv⟩ := hfed.inSecond
    exact (ih hv hs).trans ⟨u,(List.append_assoc _ _ _).symm⟩
  | alternative hg hinner _ _ ih => exact ih (hfed.slot hg hinner) hs
  | item _ hfails _ ih =>
    obtain ⟨words,v,hsegmented⟩ := hfed.segmented
    obtain ⟨v',hv',hsuffix⟩ := fed_of_failsAt hfails hsegmented.fed
    rw [hsegmented.bytes,List.append_assoc]
    exact (ih hv' hs).trans (hsuffix.trans (List.suffix_append _ _))
  | noProgress _ =>
    cases hs
    exact List.suffix_append _ _
  | mapped _ ih => exact ih hfed.mapped hs
  | rejected _ _ => cases hs

/-- No part of the grammar can fail behind a finished one within the same step: what begins there
accepts any bytes, and one item is enough for a repetition. -/
inductive Located : Grammar → Prop where
  | literal (bytes) : Located (.literal bytes)
  | integer (range) : Located (.integer range)
  | sequence {keep first second} :
      Located first → Located second →
      (∀ data e, second.advance second.initial data ≠ .error (.parse e)) →
      Located (.sequence keep first second)
  | choice {first others} : (∀ g ∈ first :: others, Located g) → Located (.choice first others)
  | repetition {item bounds} :
      Located item → bounds.min ≤ 1 → Located (.repetition item bounds)
  | mapped {body t} : Located body → Located (.mapped body t)

theorem Located.view_eq (hg : g.Located) (h : g.Raised c data e (.part view)) : view = data := by
  generalize hs : Source.part view = source at h
  induction h with
  | literal _ =>
    cases hs
    rfl
  | integer _ =>
    cases hs
    rfl
  | inFirst _ ih =>
    cases hg with
    | sequence hfirst _ _ => exact ih hfirst hs
  | behindFirst _ h _ =>
    cases hg with
    | sequence _ _ hsecond => exact absurd h.advance_eq (hsecond _ _)
  | inSecond _ ih =>
    cases hg with
    | sequence _ hsecond _ => exact ih hsecond hs
  | alternative hslot _ _ _ ih =>
    cases hg with
    | choice hall => exact ih (hall _ (List.mem_of_getElem? hslot)) hs
  | item _ hfails _ ih =>
    cases hg with
    | repetition hitem hmin =>
      obtain ⟨_,rfl⟩ := hfails.eq_of_min_le hmin
      exact ih hitem hs
  | noProgress _ =>
    cases hs
    rfl
  | mapped _ ih =>
    cases hg with
    | mapped hbody => exact ih hbody hs
  | rejected _ _ => cases hs

/-- Where a parse error says that it is. It counts from the start of the bytes that the failing part
was handed, which are an end of the input; so what it has found is at this place of the step's own
data exactly if the data have the same byte there, and surely if no part fails behind a finished
one. The errors of transforms are their own. -/
theorem Fed.place_of_error {f : Bytes} (hfed : g.Fed w c)
    (h : g.advance c data = .error (.parse e)) (hfound : e.found = some f) :
    g.Raised c data e .transform ∨
      ∃ (before view : Bytes) (place : Nat),
        g.Raised c data e (.part view) ∧ w ++ data = before ++ view ∧
        e.position = ↑place ∧ (view.drop place).take f.length = f ∧
        ((data.drop place).take f.length = f ↔ data[place]? = view[place]?) ∧
        (g.Located → view = data) := by
  obtain ⟨view | _,hs⟩ := hfed.exists_raised h
  · obtain hnone | ⟨place,b,hposition,hbyte,hview⟩ := hs.pointsAt
    · rw [hfound] at hnone
      cases hnone
    · obtain rfl : f = [b] := Option.some.inj (hfound.symm.trans hbyte)
      obtain ⟨before,hbefore⟩ := hs.suffix hfed
      have hone (data : Bytes) : (data.drop place).take 1 = [b] ↔ data[place]? = some b := by
        rw [List.take_one,List.head?_drop]
        cases data[place]? <;> simp
      refine .inr ⟨before,view,place,hs,hbefore.symm,hposition,(hone view).mpr hview,?_,
        fun hg => hg.view_eq hs⟩
      rw [hview]
      exact hone data
  · exact .inl hs

theorem place_of_error_item :
    ∃ (before view : Bytes) (place : Nat), utf8 "a" ++ utf8 "x" = before ++ view ∧
      (0 : Int) = place ∧ (view.drop place).take 1 = utf8 "x" ∧ view = utf8 "x" := by
  have hfed : (repetition (.literal (utf8 "ab")) ⟨1,none,by simp⟩).Fed ([] ++ utf8 "a") _ :=
    .feed .start rfl
  have hlocated : (repetition (.literal (utf8 "ab")) ⟨1,none,by simp⟩).Located :=
    .repetition (.literal _) (Nat.le_refl 1)
  have herror : (repetition (.literal (utf8 "ab")) ⟨1,none,by simp⟩).advance
      (.repetition (.literal 1) [] true) (utf8 "x") = .error (.parse _) := rfl
  obtain hs | ⟨before,view,place,_,hbefore,hplace,htake,_,hview⟩ := hfed.place_of_error herror rfl
  · cases hs with
    | item _ _ h => cases h
  · exact ⟨before,view,place,hbefore,hplace,htake,hview hlocated⟩

/-- Behind a literal that the same step has finished, the place is that of another byte: `x`, the
third of the step, is said to be the first. -/
theorem place_behind_literal :
    ∃ (g : Grammar) (w : Bytes) (c : Checkpoint) (data : Bytes) (e : ParseError) (view f : Bytes),
      g.Fed w c ∧ g.advance c data = .error (.parse e) ∧ g.Raised c data e (.part view) ∧
      e.found = some f ∧ f ≠ [] ∧
      ∀ place : Nat, e.position = place → (data.drop place).take f.length ≠ f := by
  have hraised : (sequence .both (.literal (utf8 "ab")) (.literal (utf8 "cd"))).Raised
      (.inFirst (.literal 0)) (utf8 "abx")
      { reason := .literalMismatch (utf8 "c") (utf8 "cd")
        position := 0
        expected := some (utf8 "c")
        found := some (utf8 "x") } (.part (utf8 "x")) := by
    have hfirst : (literal (utf8 "ab")).advance (.literal 0) (utf8 "abx") =
        .ok (.finished .none (utf8 "x")) := rfl
    exact .behindFirst hfirst (.literal rfl)
  refine ⟨_,[],_,utf8 "abx",_,_,utf8 "x",.start,hraised.advance_eq,hraised,rfl,by decide,?_⟩
  intro place hplace
  obtain rfl : place = 0 := (Int.ofNat.inj hplace).symm
  decide

end Grammar

end GuidedDecoding
