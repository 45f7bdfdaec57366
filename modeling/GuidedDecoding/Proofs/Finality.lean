import GuidedDecoding.Proofs.Cases
import GuidedDecoding.Proofs.Rounds

set_option autoImplicit false

namespace GuidedDecoding

namespace Attempt

/-- A match or a parse error, as against a pause or a fault. -/
def Decided : Attempt → Prop
  | .ok (.finished _ _) => True
  | .error (.parse _) => True
  | _ => False

def extend (more : Bytes) : Attempt → Attempt
  | .ok (.finished o rest) => .ok (.finished o (rest ++ more))
  | attempt => attempt

theorem decided_parseError (e : ParseError) : Decided (.error (.parse e)) := trivial

theorem Decided.cases {attempt : Attempt} (h : attempt.Decided) :
    (∃ o rest, attempt = .ok (.finished o rest)) ∨ ∃ e, attempt = .error (.parse e) := by
  cases attempt with
  | error e =>
    cases e with
    | parse e => exact .inr ⟨e,rfl⟩
    | fault f => exact absurd h id
  | ok outcome =>
    cases outcome with
    | finished o rest => exact .inl ⟨o,rest,rfl⟩
    | incomplete c required => exact absurd h id

end Attempt

/-- A decided attempt stays as it is under more input. -/
def Final (advance : Bytes → Attempt) : Prop :=
  ∀ data more, (advance data).Decided → advance (data ++ more) = (advance data).extend more

theorem Final.finished {advance : Bytes → Attempt} (h : Final advance) {data more rest : Bytes}
    {o : Value} (ha : advance data = .ok (.finished o rest)) :
    advance (data ++ more) = .ok (.finished o (rest ++ more)) := by
  rw [h data more (ha ▸ trivial),ha]
  rfl

theorem Final.parseError {advance : Bytes → Attempt} (h : Final advance) {data more : Bytes}
    {e : ParseError} (ha : advance data = .error (.parse e)) :
    advance (data ++ more) = .error (.parse e) := by
  rw [h data more (ha ▸ trivial),ha]
  rfl

theorem Literal.scan_final (literal : Bytes) (matched consumed : Nat) (left : Bytes) :
    Final (Literal.scan literal matched consumed left) := by
  induction left generalizing matched consumed with
  | nil =>
    intro data more hd
    by_cases hm : matched = literal.length
    · simp [scan,hm,Attempt.extend]
    · simp [scan,hm,Attempt.Decided] at hd
  | cons b left ih =>
    intro data more hd
    cases data with
    | nil => simp [scan,Attempt.Decided] at hd
    | cons x data =>
      by_cases hx : x = b
      · simp only [List.cons_append,scan,hx,if_true] at hd ⊢
        exact ih _ _ data more hd
      · simp [scan,hx,Attempt.extend]

namespace IntegerRange

variable {r : IntegerRange} {n : Numeral} {position : Nat}

def append (more : Bytes) : Numeral ⊕ Int × Bytes → Numeral ⊕ Int × Bytes :=
  Sum.map id (Prod.map id (· ++ more))

theorem close_append (b : UInt8) (rest more : Bytes) :
    (r.close n position (b :: (rest ++ more))).map Sum.inr =
      ((r.close n position (b :: rest)).map Sum.inr).map (append more) := by
  unfold close
  split <;> rfl

theorem read_append {data more : Bytes} (h : ∀ n', r.read n position data ≠ .ok (.inl n')) :
    r.read n position (data ++ more) = (r.read n position data).map (append more) := by
  fun_induction read r n position data with
  | case1 n position => exact absurd rfl (h n)
  | case2 n position b data hs ih =>
    rw [List.cons_append,read]
    simpa only [hs,if_true] using ih h
  | case3 n position b data hs hd =>
    rw [List.cons_append,read]
    simpa only [hs,hd,if_false,Bool.false_eq_true] using close_append b data more
  | case4 n position b data hs d hd next hv =>
    rw [List.cons_append,read]
    simpa only [hs,hd,next,hv,if_true,if_false,Bool.false_eq_true] using close_append b data more
  | case5 n position b data hs d hd next hv he ih =>
    rw [List.cons_append,read]
    simpa only [hs,hd,next,hv,he,if_true,if_false,Bool.false_eq_true] using ih h
  | case6 n position b data hs d hd next hv he =>
    rw [List.cons_append,read]
    simp only [hs,hd,next,hv,he,if_false,Bool.false_eq_true]
    rfl

theorem advance_final (r : IntegerRange) (n : Numeral) : Final (r.advance n) := by
  intro data more hd
  have hread : ∀ n', r.read n 0 data ≠ .ok (.inl n') := by
    intro n' hn
    simp [advance,hn,Attempt.Decided] at hd
  unfold advance
  rw [read_append hread]
  cases hr : r.read n 0 data with
  | error e => rfl
  | ok result =>
    cases result with
    | inl n' => exact absurd hr (hread n')
    | inr result => rfl

end IntegerRange

namespace Choice

variable {fallback : Option Branch} {leftover data : Bytes} {results : List SlotResult}

/-- No slot runs, and none has met a fault. -/
def Closed (results : List SlotResult) : Prop := ∀ attempt, some attempt ∈ results → attempt.Decided

theorem closed_iff : Closed results ↔
    results.findSome? fault? = none ∧ results.filterMap requirement? = [] := by
  simp only [Closed,List.findSome?_eq_none_iff,List.filterMap_eq_nil_iff]
  constructor
  · intro h
    constructor
    · intro r hr
      cases r with
      | none => rfl
      | some attempt =>
        obtain ⟨o,rest,rfl⟩ | ⟨e,rfl⟩ := (h attempt hr).cases <;> rfl
    · intro r hr
      cases r with
      | none => rfl
      | some attempt =>
        obtain ⟨o,rest,rfl⟩ | ⟨e,rfl⟩ := (h attempt hr).cases <;> rfl
  · rintro ⟨hfault,hrunning⟩ attempt hr
    have hf := hfault _ hr
    have hq := hrunning _ hr
    rcases attempt with (e | f) | (⟨o,rest⟩ | ⟨c,required⟩)
    · trivial
    · cases hf
    · trivial
    · cases hq

theorem longest_extend (index : Nat) (more : Bytes) :
    longest index (results.map (Option.map (Attempt.extend more))) =
      (longest index results).map fun (best,rest) => (best,rest ++ more) := by
  induction results generalizing index with
  | nil => rfl
  | cons r results ih =>
    rcases r with _ | ((e | f) | (⟨o,rest⟩ | ⟨c,required⟩))
    · simpa [longest] using ih (index + 1)
    · simpa [longest,Attempt.extend] using ih (index + 1)
    · simpa [longest,Attempt.extend] using ih (index + 1)
    · simp only [List.map_cons,Option.map_some,Attempt.extend,longest,ih]
      cases longest (index + 1) results with
      | none => rfl
      | some best =>
        by_cases hl : rest.length ≤ best.2.length <;> simp [hl]
    · simpa [longest,Attempt.extend] using ih (index + 1)

theorem parseError?_extend (more : Bytes) (r : SlotResult) :
    parseError? (r.map (Attempt.extend more)) = parseError? r := by
  rcases r with _ | ((e | f) | (⟨o,rest⟩ | ⟨c,required⟩)) <;> rfl

theorem close_extend (more : Bytes) :
    close fallback leftover (data ++ more) (results.map (Option.map (Attempt.extend more))) =
      (close fallback leftover data results).extend more := by
  have herror : lastError (results.map (Option.map (Attempt.extend more))) = lastError results := by
    simp only [lastError,List.filterMap_map]
    congr 2
    funext r
    exact parseError?_extend more r
  unfold close
  rw [longest_extend,herror]
  cases longest 0 results with
  | some best => rfl
  | none =>
    cases fallback with
    | some earlier => simp [Attempt.extend]
    | none => cases lastError results <;> rfl

theorem Closed.extend (h : Closed results) (more : Bytes) :
    Closed (results.map (Option.map (Attempt.extend more))) := by
  intro attempt hr
  obtain ⟨r,hmem,hr⟩ := List.mem_map.mp hr
  cases r with
  | none => cases hr
  | some a =>
    obtain rfl := Option.some.inj hr
    obtain ⟨o,rest,rfl⟩ | ⟨e,rfl⟩ := (h a hmem).cases <;> trivial

theorem settle_extend (h : Closed results) (more : Bytes) :
    settle fallback leftover (data ++ more) (results.map (Option.map (Attempt.extend more))) =
      (settle fallback leftover data results).extend more := by
  obtain ⟨hf,hr⟩ := closed_iff.mp h
  obtain ⟨hf',hr'⟩ := closed_iff.mp (h.extend more)
  rw [settle_of_closed hf hr,settle_of_closed hf' hr',close_extend]

end Choice

theorem Grammar.advanceSlots_append {gs : List Grammar} {slots : List (Option Checkpoint)}
    {data more : Bytes} (hfinal : ∀ g ∈ gs, ∀ c, Final (g.advance c))
    (h : Choice.Closed (advanceSlots gs slots data)) :
    advanceSlots gs slots (data ++ more) =
      (advanceSlots gs slots data).map (Option.map (Attempt.extend more)) := by
  induction gs generalizing slots with
  | nil => rfl
  | cons g gs ih =>
    cases slots with
    | nil => rfl
    | cons slot slots =>
      simp only [advanceSlots,List.map_cons]
      congr 1
      · cases slot with
        | none => rfl
        | some c =>
          have hd : (g.advance c data).Decided := h _ (by simp [advanceSlots])
          simp [hfinal g (by simp) c data more hd]
      · exact ih (fun g' hg c => hfinal g' (by simp [hg]) c)
          fun attempt hr => h attempt (by simp [advanceSlots,hr])

namespace Repetition

variable {item : Item} {bounds : Bounds} {later : Bool} {current : Checkpoint}
  {outputs : List Value} {inProgress : Bool} {data : Bytes} {result : Attempt}

theorem stalls_append (later inProgress : Bool) (data rest more : Bytes) :
    stalls later inProgress (data ++ more) (rest ++ more) = stalls later inProgress data rest := by
  cases later with
  | true => simp [stalls]
  | false =>
    have hlength : (rest ++ more).length = (data ++ more).length ↔ rest.length = data.length := by
      simp
    simp only [stalls,Bool.false_eq_true,if_false]
    rw [Bool.eq_iff_iff]
    simp only [Bool.and_eq_true,beq_iff_eq,hlength]

theorem not_decided_pause (item : Item) (bounds : Bounds) (outputs : List Value) :
    ¬(pause item bounds outputs).Decided := by
  unfold pause
  split
  · exact id
  · unfold freshDemand
    split <;> exact id

theorem Rounds.append (hfinal : ∀ c, Final (item.advance c))
    (h : Rounds item bounds later current outputs inProgress data result) (hd : result.Decided)
    (more : Bytes) :
    Rounds item bounds later current outputs inProgress (data ++ more) (result.extend more) := by
  induction h with
  | stop ha hend => exact .stop ((hfinal _).parseError ha) hend
  | fail ha hend => exact .fail ((hfinal _).parseError ha) hend
  | fault ha => exact absurd hd id
  | inside ha => exact absurd hd id
  | ceiling ha hceil => exact .ceiling ((hfinal _).finished ha) hceil
  | between ha hceil => exact absurd hd (not_decided_pause item bounds _)
  | stall ha hceil hrest hstall hcount =>
    exact .stall ((hfinal _).finished ha) hceil (by simp [hrest]) (by rwa [stalls_append]) hcount
  | short ha hceil hrest hstall hcount =>
    exact .short ((hfinal _).finished ha) hceil (by simp [hrest]) (by rwa [stalls_append]) hcount
  | next ha hceil hrest hstall _ ih =>
    exact .next ((hfinal _).finished ha) hceil (by simp [hrest]) (by rwa [stalls_append]) (ih hd)

end Repetition

theorem Keep.proceed_final (keep : Keep) {second : Checkpoint → Bytes → Attempt}
    (hsecond : ∀ c, Final (second c)) (c : Checkpoint) (a : Value) :
    Final (keep.proceed second c a) := by
  intro data more hd
  unfold proceed at hd ⊢
  cases hs : second c data with
  | error e =>
    cases e with
    | parse e => simp [(hsecond c).parseError hs,Attempt.extend]
    | fault f => simp [hs,Attempt.Decided] at hd
  | ok outcome =>
    cases outcome with
    | incomplete c' required => simp [hs,Attempt.Decided] at hd
    | finished b rest => simp [(hsecond c).finished hs,Attempt.extend]

theorem Transform.on_final (t : Transform) {advance : Bytes → Attempt} (h : Final advance) :
    Final fun data => t.on (advance data) := by
  intro data more hd
  simp only at hd ⊢
  cases ha : advance data with
  | error e =>
    cases e with
    | parse e => simp [h.parseError ha,on,Attempt.extend]
    | fault f => simp [ha,on,Attempt.Decided] at hd
  | ok outcome =>
    cases outcome with
    | incomplete c required => simp [ha,on,Attempt.Decided] at hd
    | finished o rest =>
      simp only [h.finished ha,on]
      cases t.apply o <;> simp [Attempt.extend]

theorem Grammar.advance_final (g : Grammar) (c : Checkpoint) : Final (g.advance c) := by
  induction g generalizing c with
  | literal bytes =>
    cases c with
    | literal matched => exact Literal.scan_final bytes matched 0 (bytes.drop matched)
    | _ => exact fun _ _ hd => absurd hd id
  | integer range =>
    cases c with
    | integer n => exact range.advance_final n
    | _ => exact fun _ _ hd => absurd hd id
  | sequence keep first second hfirst hsecond =>
    cases c with
    | inFirst inner =>
      intro data more hd
      simp only [advance] at hd ⊢
      cases ha : first.advance inner data with
      | error e =>
        cases e with
        | parse e => simp [(hfirst inner).parseError ha,Attempt.extend]
        | fault f => simp [ha,Attempt.Decided] at hd
      | ok outcome =>
        cases outcome with
        | incomplete c' required => simp [ha,Attempt.Decided] at hd
        | finished a rest =>
          simp only [ha] at hd
          simpa only [(hfirst inner).finished ha] using
            keep.proceed_final hsecond second.initial a rest more hd
    | inSecond inner a => exact keep.proceed_final hsecond inner a
    | _ => exact fun _ _ hd => absurd hd id
  | choice first others ih =>
    cases c with
    | choice slots fallback leftover =>
      intro data more hd
      rw [advance_choice] at hd ⊢
      -- A choice is decided only when all its slots are.
      have hclosed : Choice.Closed (advanceSlots (first :: others) slots data) := by
        generalize hs : Choice.settle fallback leftover data
          (advanceSlots (first :: others) slots data) = attempt at hd
        obtain ⟨hf,hr,_⟩ := Choice.settle_closed hs
          (fun c required he => by simp [he,Attempt.Decided] at hd)
          (fun f he => by simp [he,Attempt.Decided] at hd)
        exact Choice.closed_iff.mpr ⟨hf,hr⟩
      rw [advanceSlots_append ih hclosed,advance_choice,Choice.settle_extend hclosed]
    | _ => exact fun _ _ hd => absurd hd id
  | repetition item bounds ih =>
    cases c with
    | repetition current outputs inProgress =>
      intro data more hd
      simp only [advance] at hd ⊢
      by_cases hmax : bounds.max = some 0
      · simp [Repetition.advance_of_max_zero hmax,Attempt.extend]
      · generalize hr : Repetition.advance item.toItem bounds current outputs inProgress data =
          attempt at hd ⊢
        have hrounds := (Repetition.rounds_iff hmax).mpr hr
        exact (Repetition.rounds_iff hmax).mp (hrounds.append ih hd more)
    | _ => exact fun _ _ hd => absurd hd id
  | mapped body transform ih => exact transform.on_final (ih c)

/-- More input changes neither a match, which leaves it over, nor a parse error. -/
theorem Grammar.decided_append (g : Grammar) (c : Checkpoint) (data more : Bytes) :
    (∀ o rest, g.advance c data = .ok (.finished o rest) →
        g.advance c (data ++ more) = .ok (.finished o (rest ++ more))) ∧
      ∀ e, g.advance c data = .error (.parse e) → g.advance c (data ++ more) = .error (.parse e) :=
  ⟨fun _ _ => (g.advance_final c).finished,fun _ => (g.advance_final c).parseError⟩

theorem Grammar.decided_append_examples :
    (choice (.literal (utf8 "ab")) [.literal (utf8 "abcde")]).advance
        (.choice [none,some (.literal 3)] (some ⟨0,.none⟩) (utf8 "c")) (utf8 "x" ++ utf8 "ab") =
      .ok (.finished (.branch 0 .none) (utf8 "cx" ++ utf8 "ab")) ∧
    ∃ e, (repetition (.literal (utf8 "ab")) ⟨2,none,nofun⟩).advance
        (.repetition (.literal 1) [.none] true) (utf8 "x" ++ utf8 "ab") = .error (.parse e) :=
  ⟨(decided_append _ _ _ _).1 _ _ rfl,⟨_,(decided_append _ _ _ _).2 _ rfl⟩⟩

end GuidedDecoding
