import GuidedDecoding.Proofs.Completion
import GuidedDecoding.Proofs.Finality

/-!
Feeding in two steps against feeding at once. Without choices, and with repeated items that always
consume something, a second step that succeeds comes to what both at once come to. A parse error of
the second step is one of both at once if nothing is repeated either; in a repetition it may be the
end of a list, since an item that a step has begun cannot be given back.
-/

set_option autoImplicit false

namespace GuidedDecoding

namespace Grammar

/-- No choice anywhere, and no repeated item that can match without consuming a byte. -/
inductive ChoiceFree : Grammar → Prop where
  | literal (bytes) : ChoiceFree (.literal bytes)
  | integer (range) : ChoiceFree (.integer range)
  | sequence {keep first second} :
      ChoiceFree first → ChoiceFree second → ChoiceFree (.sequence keep first second)
  | repetition {item bounds} :
      ChoiceFree item → (∀ data o, item.advance item.initial data ≠ .ok (.finished o data)) →
      ChoiceFree (.repetition item bounds)
  | mapped {body t} : ChoiceFree body → ChoiceFree (.mapped body t)

inductive RepeatFree : Grammar → Prop where
  | literal (bytes) : RepeatFree (.literal bytes)
  | integer (range) : RepeatFree (.integer range)
  | sequence {keep first second} :
      RepeatFree first → RepeatFree second → RepeatFree (.sequence keep first second)
  | choice {first others} :
      (∀ g ∈ first :: others, RepeatFree g) → RepeatFree (.choice first others)
  | mapped {body t} : RepeatFree body → RepeatFree (.mapped body t)

end Grammar

/-- What `x` comes to, `y` comes to as well; in the strict case that includes parse errors, whose
details may differ. -/
structure Attempt.Carried (strict : Prop) (x y : Attempt) : Prop where
  ok : ∀ outcome, x = .ok outcome → y = .ok outcome
  parse : strict → ∀ e, x = .error (.parse e) → ∃ e', y = .error (.parse e')

section

variable {strict : Prop} {x y : Attempt}

theorem Attempt.Carried.refl (strict : Prop) (x : Attempt) : Carried strict x x :=
  ⟨fun _ h => h,fun _ e h => ⟨e,h⟩⟩

theorem Attempt.Carried.of_parse {e : ParseError} (h : strict → ∃ e', y = .error (.parse e')) :
    Carried strict (.error (.parse e)) y :=
  ⟨nofun,fun hs _ _ => h hs⟩

theorem Attempt.Carried.of_fault {f : Fault} : Carried strict (.error (.fault f)) y :=
  ⟨nofun,nofun⟩

theorem Transform.on_carried (t : Transform) (h : Attempt.Carried strict x y) :
    Attempt.Carried strict (t.on x) (t.on y) := by
  rcases x with (e | f) | outcome
  · refine .of_parse fun hs => ?_
    obtain ⟨e₁,rfl⟩ := h.parse hs e rfl
    exact ⟨e₁,rfl⟩
  · exact .of_fault
  · rw [h.ok outcome rfl]
    exact .refl _ _

theorem Keep.proceed_carried (keep : Keep) {second : Checkpoint → Bytes → Attempt}
    {c c' : Checkpoint} {data data' : Bytes} (a : Value)
    (h : Attempt.Carried strict (second c data) (second c' data')) :
    Attempt.Carried strict (keep.proceed second c a data) (keep.proceed second c' a data') := by
  unfold proceed
  rcases hx : second c data with (e | f) | outcome
  · refine .of_parse fun hs => ?_
    obtain ⟨e₁,h₁⟩ := h.parse hs e hx
    exact ⟨e₁,by rw [h₁]⟩
  · exact .of_fault
  · rw [h.ok outcome hx]
    exact .refl _ _

namespace Literal

theorem scan_append (literal : Bytes) (matched consumed : Nat) (a more b : Bytes) :
    scan literal matched consumed (a ++ more) (a ++ b) =
      scan literal (matched + a.length) (consumed + a.length) more b := by
  induction a generalizing matched consumed with
  | nil => rfl
  | cons x a ih =>
    simp only [List.cons_append,scan,if_true,ih,List.length_cons]
    congr 1 <;> omega

theorem scan_carried (strict : Prop) (literal : Bytes) (matched consumed consumed' : Nat)
    (left data : Bytes) :
    Attempt.Carried strict (scan literal matched consumed left data)
      (scan literal matched consumed' left data) := by
  induction left generalizing matched consumed consumed' data with
  | nil => exact .refl _ _
  | cons b left ih =>
    cases data with
    | nil => exact .refl _ _
    | cons x data =>
      by_cases hx : x = b
      · simpa only [scan,hx,if_true] using ih (matched + 1) (consumed + 1) (consumed' + 1) data
      · simp only [scan,hx,if_false]
        exact .of_parse fun _ => ⟨_,rfl⟩

end Literal

namespace IntegerRange

variable {r : IntegerRange} {n n' : Numeral} {position : Nat} {a : Bytes}

theorem read_append_of_inl (b : Bytes) (h : r.read n position a = .ok (.inl n')) :
    r.read n position (a ++ b) = r.read n' (position + a.length) b := by
  revert h
  fun_induction IntegerRange.read r n position a with
  | case1 n position =>
    rintro ⟨⟩
    rfl
  | case2 n position x a hs ih =>
    intro h
    rw [List.cons_append,read,if_pos hs,ih h,List.length_cons,Nat.add_assoc,Nat.add_comm 1]
  | case3 n position x a hs hd =>
    intro h
    cases hc : r.close n position (x :: a) <;> simp [hc,Except.map] at h
  | case4 n position x a hs d hd next hv =>
    intro h
    cases hc : r.close n position (x :: a) <;> simp [hc,Except.map] at h
  | case5 n position x a hs d hd next hv he ih =>
    intro h
    rw [List.cons_append,read]
    simpa only [hs,hd,next,hv,he,if_true,if_false,Bool.false_eq_true,List.length_cons,
      Nat.add_assoc,Nat.add_comm 1] using ih h
  | case6 n position x a hs d hd next hv he =>
    rintro ⟨⟩

def Alike (x y : Except ParseError (Numeral ⊕ Int × Bytes)) : Prop :=
  x = y ∨ ∃ e e', x = .error e ∧ y = .error e'

theorem close_alike (position position' : Nat) (rest : Bytes) :
    Alike ((r.close n position rest).map .inr) ((r.close n position' rest).map .inr) := by
  unfold close
  split
  · exact .inl rfl
  · exact .inr ⟨_,_,rfl,rfl⟩

theorem read_alike (position position' : Nat) (data : Bytes) :
    Alike (r.read n position data) (r.read n position' data) := by
  fun_induction IntegerRange.read r n position data generalizing position' with
  | case1 n position => exact .inl rfl
  | case2 n position x data hs ih =>
    rw [IntegerRange.read,if_pos hs]
    exact ih (position' + 1)
  | case3 n position x data hs hd =>
    rw [IntegerRange.read,if_neg hs,hd]
    exact close_alike position position' (x :: data)
  | case4 n position x data hs d hd next hv =>
    rw [IntegerRange.read]
    simp only [hs,hd,next,hv,if_true,if_false,Bool.false_eq_true]
    exact close_alike position position' (x :: data)
  | case5 n position x data hs d hd next hv he ih =>
    rw [IntegerRange.read]
    simp only [hs,hd,next,hv,he,if_true,if_false,Bool.false_eq_true]
    exact ih (position' + 1)
  | case6 n position x data hs d hd next hv he =>
    rw [IntegerRange.read]
    simp only [hs,hd,next,hv,he,if_false,Bool.false_eq_true]
    exact .inl rfl

theorem advance_carried (strict : Prop) {required : Requirement} {b : Bytes} {c' : Checkpoint}
    (h : r.advance n a = .ok (.incomplete c' required)) :
    ∃ n', c' = .integer n' ∧
      Attempt.Carried strict (r.advance n' b) (r.advance n (a ++ b)) := by
  obtain ⟨n',hr,rfl,_⟩ := advance_incomplete h
  refine ⟨n',rfl,?_⟩
  unfold advance
  rw [read_append_of_inl b hr]
  rcases read_alike 0 (0 + a.length) b with hsame | ⟨e,e',he,he'⟩
  · rw [hsame]
    exact .refl _ _
  · rw [he,he']
    exact .of_parse fun _ => ⟨_,rfl⟩

end IntegerRange

namespace Repetition

variable {item : Grammar} {bounds : Bounds} {later inProgress : Bool} {current c' : Checkpoint}
  {outputs : List Value} {data rest : Bytes} {o : Value} {result : Attempt}

theorem progress (hconsume : ∀ data o, item.advance item.initial data ≠ .ok (.finished o data))
    (hcurrent : later = false ∧ inProgress = true ∨ current = item.initial)
    (ha : item.advance current data = .ok (.finished o rest)) :
    stalls later inProgress data rest = false := by
  rcases hcurrent with ⟨rfl,rfl⟩ | rfl
  · rfl
  · have hshorter := Grammar.rest_lt_of_finished hconsume ha
    cases later with
    | true =>
      simp only [stalls,if_true,decide_eq_false_iff_not]
      omega
    | false =>
      have hne : (rest.length == data.length) = false := by
        rw [beq_eq_false_iff_ne]
        omega
      simp only [stalls,Bool.false_eq_true,if_false,hne,Bool.and_false]

theorem stalls_fresh (ha : item.advance item.initial data = .ok (.finished o rest)) :
    stalls true false data rest = stalls false false data rest := by
  have hle := Grammar.rest_le_of_finished ha
  have hlength : data.length ≤ rest.length ↔ rest.length = data.length := by omega
  rw [Bool.eq_iff_iff]
  simp [stalls,hlength]

theorem Rounds.as_later
    (h : Rounds item.toItem bounds false item.initial outputs false data result) :
    Rounds item.toItem bounds true item.initial outputs false data result := by
  cases h with
  | stop ha hend => exact .stop ha hend
  | fail ha hend => exact .fail ha hend
  | fault ha => exact .fault ha
  | inside ha => exact .inside ha
  | ceiling ha hceil => exact .ceiling ha hceil
  | between ha hceil => exact .between ha hceil
  | stall ha hceil hrest hstall hcount =>
    exact .stall ha hceil hrest ((stalls_fresh ha).trans hstall) hcount
  | short ha hceil hrest hstall hcount =>
    exact .short ha hceil hrest ((stalls_fresh ha).trans hstall) hcount
  | next ha hceil hrest hstall hnext =>
    exact .next ha hceil hrest ((stalls_fresh ha).trans hstall) hnext

/-- Rounds that pause, and then go on over `b`, are the rounds over both at once. -/
theorem Rounds.resume {b : Bytes} {required : Requirement} {outcome : Outcome}
    (hmax : bounds.max ≠ some 0)
    (hconsume : ∀ data o, item.advance item.initial data ≠ .ok (.finished o data))
    (hitem : ∀ {c c' data required outcome}, item.Ready c →
      item.advance c data = .ok (.incomplete c' required) → item.advance c' b = .ok outcome →
      item.advance c (data ++ b) = .ok outcome)
    (h : Rounds item.toItem bounds later current outputs inProgress data result)
    (hready : item.Ready current)
    (hcurrent : later = false ∧ inProgress = true ∨ current = item.initial)
    (hr : result = .ok (.incomplete c' required)) (hb : b ≠ [])
    (hnext : (Grammar.repetition item bounds).advance c' b = .ok outcome) :
    Rounds item.toItem bounds later current outputs inProgress (data ++ b) (.ok outcome) := by
  have hfinal (c : Checkpoint) {data rest : Bytes} {o : Value}
      (ha : item.advance c data = .ok (.finished o rest)) :
      item.advance c (data ++ b) = .ok (.finished o (rest ++ b)) :=
    (item.advance_final c).finished ha
  induction h with
  | stop _ _ => cases hr
  | fail _ _ => cases hr
  | fault _ => cases hr
  | inside ha =>
    cases hr
    have hrounds := (Grammar.advance_repetition hmax).mp hnext
    generalize he : (Except.ok outcome : Attempt) = result at hrounds ⊢
    cases hrounds with
    | stop _ hend => cases hend
    | fail _ _ => cases he
    | fault _ => cases he
    | inside hi => exact .inside (hitem hready ha hi)
    | ceiling hi hceil => exact .ceiling (hitem hready ha hi) hceil
    | between hi hceil => exact .between (hitem hready ha hi) hceil
    | stall _ _ _ hstall _ => cases hstall
    | short _ _ _ hstall _ => cases hstall
    | next hi hceil hrest _ hrounds =>
      have hboth := hitem hready ha hi
      exact .next hboth hceil hrest (progress hconsume hcurrent hboth) hrounds
  | ceiling _ _ => cases hr
  | between ha hceil =>
    obtain ⟨rfl,_⟩ := pause_incomplete hr
    -- What the second step does in its first round, one step over both does in a later one.
    have hrounds := (Grammar.advance_repetition hmax).mp hnext
    have hboth := hfinal _ ha
    exact .next hboth hceil hb (progress hconsume hcurrent hboth) hrounds.as_later
  | stall _ _ _ _ _ => cases hr
  | short _ _ _ _ _ => cases hr
  | next ha hceil hrest hstall _ ih =>
    have hne : ∀ rest : Bytes, rest ++ b ≠ [] := fun rest he => hb (List.append_eq_nil_iff.mp he).2
    exact .next (hfinal _ ha) hceil (hne _) (by rwa [stalls_append])
      (ih item.ready_initial (.inr rfl) hr)

end Repetition

end

namespace Grammar

theorem consumes_of_no_empty_word {g : Grammar} (h : ∀ o, ¬g.Derives [] o) (data : Bytes)
    (o : Value) :
    g.advance g.initial data ≠ .ok (.finished o data) := by
  intro ha
  obtain ⟨u,hu,hderives⟩ := derives_of_finished ha
  have hempty : u = [] := by simpa using hu
  exact h o (hempty ▸ hderives)

theorem no_empty_word_literal {bytes : Bytes} (h : bytes ≠ []) (o : Value) :
    ¬(literal bytes).Derives [] o := by
  intro hd
  generalize hw : ([] : Bytes) = w at hd
  cases hd
  exact h hw.symm

theorem advance_carried {strict : Prop} {g : Grammar} {c c' : Checkpoint} {a b : Bytes}
    {required : Requirement} (hfree : g.ChoiceFree) (hstrict : strict → g.RepeatFree)
    (hb : ¬strict → b ≠ []) (hc : g.Ready c)
    (ha : g.advance c a = .ok (.incomplete c' required)) :
    Attempt.Carried strict (g.advance c' b) (g.advance c (a ++ b)) := by
  induction hfree generalizing c c' a required with
  | literal bytes =>
    obtain ⟨matched,rfl,hm⟩ := hc.literal
    obtain ⟨more,hdrop,hmore,_,rfl,_⟩ := Literal.advance_incomplete hm ha
    simp only [advance,Literal.advance,hmore,hdrop,Literal.scan_append]
    exact Literal.scan_carried strict bytes _ 0 _ more b
  | integer range =>
    obtain ⟨n,rfl,_⟩ := hc.integer
    obtain ⟨n',rfl,hcarried⟩ := IntegerRange.advance_carried strict ha
    exact hcarried
  | @sequence keep first second _ _ hfirst hsecond =>
    have hstrict₁ : strict → first.RepeatFree := fun hs => by
      cases hstrict hs with
      | sequence h _ => exact h
    have hstrict₂ : strict → second.RepeatFree := fun hs => by
      cases hstrict hs with
      | sequence _ h => exact h
    obtain ⟨inner,rfl,hinner⟩ | ⟨inner,x,rfl,hinner⟩ := hc.sequence
    · obtain ⟨c₁,hf,rfl⟩ | ⟨x,rest,c₂,hf,hs,rfl⟩ := advance_inFirst_incomplete ha
      · have hcarried := hfirst hstrict₁ hinner hf
        simp only [advance]
        rcases hx : first.advance c₁ b with (e | f) | outcome
        · refine .of_parse fun hs => ?_
          obtain ⟨e₁,h₁⟩ := hcarried.parse hs e hx
          exact ⟨e₁,by simp only [h₁]⟩
        · exact .of_fault
        · rw [hcarried.ok outcome hx]
          exact .refl _ _
      · have hboth : first.advance inner (a ++ b) = .ok (.finished x (rest ++ b)) :=
          (first.advance_final inner).finished hf
        simp only [advance,hboth]
        exact keep.proceed_carried x (hsecond hstrict₂ second.ready_initial hs)
    · obtain ⟨c₂,hs,rfl⟩ := Keep.proceed_incomplete ha
      exact keep.proceed_carried x (hsecond hstrict₂ hinner.ready hs)
  | @repetition item bounds _ hconsume ih =>
    have hrepeat : ¬strict := fun hs => by cases hstrict hs
    obtain ⟨current,outputs,inProgress,rfl,hcurrent,hbegun,hmax,_,hrounds⟩ := hc.rounds ha
    refine ⟨fun outcome hx => ?_,fun hs => absurd hs hrepeat⟩
    have hfresh : false = false ∧ inProgress = true ∨ current = item.initial := by
      cases inProgress with
      | true => exact .inl ⟨rfl,rfl⟩
      | false => exact .inr (hbegun rfl)
    exact (advance_repetition hmax).mpr (hrounds.resume hmax hconsume
      (fun hc ha hx => (ih (fun hs => absurd hs hrepeat) hc ha).ok _ hx) hcurrent hfresh rfl
      (hb hrepeat) hx)
  | @mapped body t _ ih =>
    have hstrict' : strict → body.RepeatFree := fun hs => by
      cases hstrict hs with
      | mapped h => exact h
    exact t.on_carried (ih hstrict' hc.mapped (Transform.on_incomplete ha))

/-- Two steps against both at once, from every checkpoint of a parse. A second step that succeeds
comes to exactly what both at once come to, and if nothing is repeated, one that fails does so
too. -/
theorem Fed.advance_append {g : Grammar} {c c' : Checkpoint} {w a b : Bytes}
    {required : Requirement} (hfree : g.ChoiceFree) (h : g.Fed w c)
    (ha : g.advance c a = .ok (.incomplete c' required)) (hb : b ≠ []) :
    (∀ outcome, g.advance c' b = .ok outcome → g.advance c (a ++ b) = .ok outcome) ∧
      (g.RepeatFree → ∀ e, g.advance c' b = .error (.parse e) →
        ∃ e', g.advance c (a ++ b) = .error (.parse e')) := by
  have hcarried := advance_carried hfree id (fun _ => hb) h.ready ha
  exact ⟨hcarried.ok,hcarried.parse⟩

theorem advance_append_examples :
    (sequence .both (.repetition (.literal (utf8 "ab")) ⟨0,none,nofun⟩)
        (.literal (utf8 "x"))).advance
        (.inFirst (.repetition (.literal 1) [] true)) (utf8 "b" ++ utf8 "x") =
      .ok (.finished (.tuple [.list [.none],.none]) []) ∧
    ∃ e, (literal (utf8 "abc")).advance (.literal 1) (utf8 "b" ++ utf8 "x") =
      .error (.parse e) := by
  have hitem : ∀ o, ¬(literal (utf8 "ab")).Derives [] o := no_empty_word_literal (by decide)
  have hlist : (sequence .both (.repetition (.literal (utf8 "ab")) ⟨0,none,nofun⟩)
      (.literal (utf8 "x"))).Fed ([] ++ utf8 "a") _ := .feed .start rfl
  have hliteral : (literal (utf8 "abc")).Fed ([] ++ utf8 "a") _ := .feed .start rfl
  constructor
  · have hfree : (repetition (.literal (utf8 "ab")) ⟨0,none,nofun⟩).ChoiceFree :=
      .repetition (.literal _) (consumes_of_no_empty_word hitem)
    exact (Fed.advance_append (.sequence hfree (.literal _)) hlist rfl (by decide)).1 _ rfl
  · exact (Fed.advance_append (.literal _) hliteral rfl (by decide)).2 (.literal _) _ rfl

end Grammar

end GuidedDecoding
