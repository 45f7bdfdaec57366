import GuidedDecoding.Advance

/-!
What one advance can come to, combinator by combinator, and the induction over grammars that the
theory uses. Each lemma turns the result of a combinator into facts about its parts, so later proofs
cite these and do not open `advance`.
-/

set_option autoImplicit false

namespace GuidedDecoding

/-- Induction over a grammar. In a choice the hypothesis speaks about every alternative. -/
@[induction_eliminator]
theorem Grammar.induction {motive : Grammar → Prop}
    (literal : ∀ bytes, motive (.literal bytes))
    (integer : ∀ range, motive (.integer range))
    (sequence : ∀ keep first second, motive first → motive second →
      motive (.sequence keep first second))
    (choice : ∀ first others, (∀ g ∈ first :: others, motive g) → motive (.choice first others))
    (repetition : ∀ item bounds, motive item → motive (.repetition item bounds))
    (mapped : ∀ body transform, motive body → motive (.mapped body transform))
    (g : Grammar) : motive g :=
  @Grammar.rec motive (fun gs => ∀ g ∈ gs, motive g) literal integer sequence
    (fun first others hfirst hothers => choice first others fun g hg => by
      rcases List.mem_cons.mp hg with rfl | hg
      · exact hfirst
      · exact hothers g hg)
    repetition mapped
    (fun g hg => by simp at hg)
    (fun first others hfirst hothers g hg => by
      rcases List.mem_cons.mp hg with rfl | hg
      · exact hfirst
      · exact hothers g hg)
    g

namespace Literal

variable {literal left data : Bytes} {matched consumed : Nat}

theorem scan_finished {o : Value} {rest : Bytes}
    (h : scan literal matched consumed left data = .ok (.finished o rest)) :
    o = .none ∧ data = left ++ rest := by
  induction left generalizing matched consumed data with
  | nil =>
    unfold scan at h
    split at h <;> cases h
    exact ⟨rfl,rfl⟩
  | cons b left ih =>
    cases data with
    | nil => simp [scan] at h
    | cons x data =>
      by_cases hx : x = b
      · simp only [scan,hx,if_true] at h
        obtain ⟨rfl,rfl⟩ := ih h
        exact ⟨rfl,by rw [hx,List.cons_append]⟩
      · simp [scan,hx] at h

theorem scan_incomplete {c : Checkpoint} {required : Requirement}
    (hleft : matched + left.length = literal.length)
    (h : scan literal matched consumed left data = .ok (.incomplete c required)) :
    ∃ more, left = data ++ more ∧ more ≠ [] ∧ c = .literal (matched + data.length) ∧
      required = .borrowed more := by
  induction left generalizing matched consumed data with
  | nil =>
    have hm : matched = literal.length := by simpa using hleft
    simp [scan,hm] at h
  | cons b left ih =>
    cases data with
    | nil =>
      simp only [scan,Except.ok.injEq,Outcome.incomplete.injEq] at h
      exact ⟨b :: left,rfl,by simp,h.1.symm,h.2.symm⟩
    | cons x data =>
      by_cases hx : x = b
      · simp only [scan,hx,if_true] at h
        rw [List.length_cons] at hleft
        obtain ⟨more,rfl,hne,rfl,rfl⟩ := ih (by omega) h
        refine ⟨more,by rw [hx,List.cons_append],hne,?_,rfl⟩
        rw [List.length_cons,Nat.add_assoc,Nat.add_comm 1]
      · simp [scan,hx] at h

theorem advance_incomplete {c : Checkpoint} {required : Requirement} (hm : matched ≤ literal.length)
    (h : advance literal matched data = .ok (.incomplete c required)) :
    ∃ more, literal.drop matched = data ++ more ∧
      literal.drop (matched + data.length) = more ∧ more ≠ [] ∧
      c = .literal (matched + data.length) ∧ required = .borrowed more := by
  have hleft : matched + (literal.drop matched).length = literal.length := by
    rw [List.length_drop]
    omega
  obtain ⟨more,hdrop,hne,hc,hrequired⟩ := scan_incomplete hleft h
  have hmore : literal.drop (matched + data.length) = more := by
    rw [← List.drop_drop,hdrop,List.drop_left]
  exact ⟨more,hdrop,hmore,hne,hc,hrequired⟩

end Literal

theorem IntegerRange.advance_incomplete {r : IntegerRange} {n : Numeral} {data : Bytes}
    {c : Checkpoint} {required : Requirement}
    (h : r.advance n data = .ok (.incomplete c required)) :
    ∃ n', r.read n 0 data = .ok (.inl n') ∧ c = .integer n' ∧
      required = if r.requiresSign n' then .borrowed [Numeral.minusSign] else .empty := by
  unfold advance at h
  cases hr : r.read n 0 data with
  | error e => simp [hr] at h
  | ok result =>
    rcases result with n' | ⟨k,rest⟩
    · simp only [hr,Except.ok.injEq,Outcome.incomplete.injEq] at h
      exact ⟨n',rfl,h.1.symm,h.2.symm⟩
    · simp [hr] at h

theorem IntegerRange.advance_finished {r : IntegerRange} {n : Numeral} {data rest : Bytes}
    {o : Value} (h : r.advance n data = .ok (.finished o rest)) :
    ∃ k, r.read n 0 data = .ok (.inr (k,rest)) ∧ o = .int k := by
  unfold advance at h
  cases hr : r.read n 0 data with
  | error e => simp [hr] at h
  | ok result =>
    rcases result with n' | ⟨k,rest'⟩
    · simp [hr] at h
    · simp only [hr,Except.ok.injEq,Outcome.finished.injEq] at h
      obtain ⟨rfl,rfl⟩ := h
      exact ⟨k,rfl,rfl⟩

namespace Keep

theorem proceed_incomplete {keep : Keep} {second : Checkpoint → Bytes → Attempt}
    {c c' : Checkpoint} {a : Value} {data : Bytes} {required : Requirement}
    (h : keep.proceed second c a data = .ok (.incomplete c' required)) :
    ∃ c₂, second c data = .ok (.incomplete c₂ required) ∧ c' = .inSecond c₂ a := by
  unfold proceed at h
  split at h
  · cases h
  · rename_i c₂ required' hs
    cases h
    exact ⟨c₂,hs,rfl⟩
  · cases h

theorem proceed_finished {keep : Keep} {second : Checkpoint → Bytes → Attempt} {c : Checkpoint}
    {a o : Value} {data rest : Bytes}
    (h : keep.proceed second c a data = .ok (.finished o rest)) :
    ∃ b, second c data = .ok (.finished b rest) ∧ o = keep.combine a b := by
  unfold proceed at h
  split at h
  · cases h
  · cases h
  · rename_i b rest' hs
    cases h
    exact ⟨b,hs,rfl⟩

theorem proceed_of_incomplete (keep : Keep) {second : Checkpoint → Bytes → Attempt}
    {c c' : Checkpoint} (a : Value) {data : Bytes} {required : Requirement}
    (h : second c data = .ok (.incomplete c' required)) :
    keep.proceed second c a data = .ok (.incomplete (.inSecond c' a) required) := by
  simp only [proceed,h]

theorem proceed_of_finished (keep : Keep) {second : Checkpoint → Bytes → Attempt} {c : Checkpoint}
    (a : Value) {b : Value} {data rest : Bytes} (h : second c data = .ok (.finished b rest)) :
    keep.proceed second c a data = .ok (.finished (keep.combine a b) rest) := by
  simp only [proceed,h]

end Keep

theorem Grammar.advance_inFirst_incomplete {keep : Keep} {first second : Grammar}
    {inner c : Checkpoint} {data : Bytes} {required : Requirement}
    (h : (sequence keep first second).advance (.inFirst inner) data =
      .ok (.incomplete c required)) :
    (∃ c₁, first.advance inner data = .ok (.incomplete c₁ required) ∧ c = .inFirst c₁) ∨
      ∃ a rest c₂, first.advance inner data = .ok (.finished a rest) ∧
        second.advance second.initial rest = .ok (.incomplete c₂ required) ∧
        c = .inSecond c₂ a := by
  simp only [advance] at h
  cases ha : first.advance inner data with
  | error e => simp [ha] at h
  | ok outcome =>
    cases outcome with
    | incomplete c₁ required₁ =>
      simp only [ha,Except.ok.injEq,Outcome.incomplete.injEq] at h
      obtain ⟨rfl,rfl⟩ := h
      exact .inl ⟨c₁,rfl,rfl⟩
    | finished a rest =>
      simp only [ha] at h
      obtain ⟨c₂,hs,rfl⟩ := Keep.proceed_incomplete h
      exact .inr ⟨a,rest,c₂,rfl,hs,rfl⟩

theorem Grammar.advance_inFirst_finished {keep : Keep} {first second : Grammar}
    {inner : Checkpoint} {data rest : Bytes} {o : Value}
    (h : (sequence keep first second).advance (.inFirst inner) data = .ok (.finished o rest)) :
    ∃ a between b, first.advance inner data = .ok (.finished a between) ∧
      second.advance second.initial between = .ok (.finished b rest) ∧ o = keep.combine a b := by
  simp only [advance] at h
  cases ha : first.advance inner data with
  | error e => simp [ha] at h
  | ok outcome =>
    cases outcome with
    | incomplete c required => simp [ha] at h
    | finished a between =>
      simp only [ha] at h
      obtain ⟨b,hb,rfl⟩ := Keep.proceed_finished h
      exact ⟨a,between,b,rfl,hb,rfl⟩

theorem Grammar.advance_inFirst_of_incomplete (keep : Keep) {first : Grammar} (second : Grammar)
    {inner c : Checkpoint} {data : Bytes} {required : Requirement}
    (h : first.advance inner data = .ok (.incomplete c required)) :
    (sequence keep first second).advance (.inFirst inner) data =
      .ok (.incomplete (.inFirst c) required) := by
  simp only [advance,h]

theorem Grammar.advance_inFirst_of_finished (keep : Keep) {first : Grammar} (second : Grammar)
    {inner : Checkpoint} {data rest : Bytes} {a : Value}
    (h : first.advance inner data = .ok (.finished a rest)) :
    (sequence keep first second).advance (.inFirst inner) data =
      keep.proceed second.advance second.initial a rest := by
  simp only [advance,h]

namespace Transform

variable {t : Transform} {attempt : Attempt}

theorem on_incomplete {c : Checkpoint} {required : Requirement}
    (h : t.on attempt = .ok (.incomplete c required)) : attempt = .ok (.incomplete c required) := by
  unfold on at h
  split at h
  · rename_i x rest
    cases hx : t.apply x <;> simp [hx] at h
  · exact h

theorem on_finished {o : Value} {rest : Bytes} (h : t.on attempt = .ok (.finished o rest)) :
    ∃ x, attempt = .ok (.finished x rest) ∧ t.apply x = .ok o := by
  unfold on at h
  split at h
  · rename_i x rest'
    cases hx : t.apply x with
    | error e => simp [hx] at h
    | ok v =>
      simp only [hx,Except.ok.injEq,Outcome.finished.injEq] at h
      obtain ⟨rfl,rfl⟩ := h
      exact ⟨x,rfl,hx⟩
  · rename_i hne
    exact absurd h (hne o rest)

theorem on_of_finished {x o : Value} (h : t.apply x = .ok o) (rest : Bytes) :
    t.on (.ok (.finished x rest)) = .ok (.finished o rest) := by
  simp only [on,h]

end Transform

namespace Choice

variable {fallback : Option Branch} {leftover data : Bytes} {results : List SlotResult}

theorem settle_of_fault {f : Fault} (h : results.findSome? fault? = some f) :
    settle fallback leftover data results = .error (.fault f) := by
  simp [settle,h]

theorem settle_of_closed (hfault : results.findSome? fault? = none)
    (hclosed : results.filterMap requirement? = []) :
    settle fallback leftover data results = close fallback leftover data results := by
  simp [settle,hfault,hclosed]

theorem settle_of_running (hfault : results.findSome? fault? = none)
    (hrunning : results.filterMap requirement? ≠ []) :
    settle fallback leftover data results =
      .ok (.incomplete (.choice (results.map nextSlot)
          (nextFallback fallback leftover data results).1
          (nextFallback fallback leftover data results).2)
        (demand (nextFallback fallback leftover data results).1
          (results.filterMap requirement?))) := by
  have hempty : (results.filterMap requirement?).isEmpty = false := by simpa using hrunning
  simp only [settle,hfault,hempty,Bool.false_eq_true,if_false]

theorem close_ne_incomplete {c : Checkpoint} {required : Requirement} :
    close fallback leftover data results ≠ .ok (.incomplete c required) := by
  unfold close
  split
  · simp
  · split
    · simp
    · split <;> simp

theorem settle_cases (fallback : Option Branch) (leftover data : Bytes)
    (results : List SlotResult) :
    (∃ f, results.findSome? fault? = some f ∧
        settle fallback leftover data results = .error (.fault f)) ∨
      (results.findSome? fault? = none ∧ results.filterMap requirement? = [] ∧
        settle fallback leftover data results = close fallback leftover data results) ∨
      (results.findSome? fault? = none ∧ results.filterMap requirement? ≠ [] ∧
        settle fallback leftover data results =
          .ok (.incomplete (.choice (results.map nextSlot)
              (nextFallback fallback leftover data results).1
              (nextFallback fallback leftover data results).2)
            (demand (nextFallback fallback leftover data results).1
              (results.filterMap requirement?)))) := by
  cases hfault : results.findSome? fault? with
  | some f => exact .inl ⟨f,rfl,settle_of_fault hfault⟩
  | none =>
    by_cases hrunning : results.filterMap requirement? = []
    · exact .inr (.inl ⟨rfl,hrunning,settle_of_closed hfault hrunning⟩)
    · exact .inr (.inr ⟨rfl,hrunning,settle_of_running hfault hrunning⟩)

theorem settle_closed {attempt : Attempt}
    (h : settle fallback leftover data results = attempt)
    (hincomplete : ∀ c required, attempt ≠ .ok (.incomplete c required))
    (hfault : ∀ f, attempt ≠ .error (.fault f)) :
    results.findSome? fault? = none ∧ results.filterMap requirement? = [] ∧
      close fallback leftover data results = attempt := by
  obtain ⟨f,_,hs⟩ | ⟨hf,hr,hs⟩ | ⟨_,_,hs⟩ := settle_cases fallback leftover data results
  · exact absurd (h ▸ hs) (hfault f)
  · exact ⟨hf,hr,hs ▸ h⟩
  · exact absurd (h ▸ hs) (hincomplete _ _)

theorem settle_incomplete {c : Checkpoint} {required : Requirement}
    (h : settle fallback leftover data results = .ok (.incomplete c required)) :
    results.findSome? fault? = none ∧ results.filterMap requirement? ≠ [] ∧
      c = .choice (results.map nextSlot) (nextFallback fallback leftover data results).1
        (nextFallback fallback leftover data results).2 ∧
      required = demand (nextFallback fallback leftover data results).1
        (results.filterMap requirement?) := by
  obtain ⟨f,_,hs⟩ | ⟨_,_,hs⟩ | ⟨hf,hr,hs⟩ := settle_cases fallback leftover data results
  · simp [hs] at h
  · exact absurd (hs ▸ h) close_ne_incomplete
  · rw [hs,Except.ok.injEq,Outcome.incomplete.injEq] at h
    exact ⟨hf,hr,h.1.symm,h.2.symm⟩

theorem getElem?_of_longest {index : Nat} {best : Branch} {rest : Bytes}
    (h : longest index results = some (best,rest)) :
    ∃ i, best.index = index + i ∧ results[i]? = some (some (.ok (.finished best.value rest))) := by
  induction results generalizing index with
  | nil => simp [longest] at h
  | cons r results ih =>
    unfold longest at h
    split at h
    · cases h
    · rename_i output rest' results' heq
      obtain ⟨rfl,rfl⟩ := List.cons.inj heq
      split at h
      · cases h
        exact ⟨0,rfl,rfl⟩
      · rename_i later hl
        split at h
        · cases h
          exact ⟨0,rfl,rfl⟩
        · obtain rfl := Option.some.inj h
          obtain ⟨i,hi,hr⟩ := ih hl
          exact ⟨i + 1,by omega,by simpa using hr⟩
    · rename_i results' _ heq
      obtain ⟨rfl,rfl⟩ := List.cons.inj heq
      obtain ⟨i,hi,hr⟩ := ih h
      exact ⟨i + 1,by omega,by simpa using hr⟩

theorem getElem?_winner {best : Branch} {rest : Bytes} (h : longest 0 results = some (best,rest)) :
    results[best.index]? = some (some (.ok (.finished best.value rest))) := by
  obtain ⟨i,hi,hr⟩ := getElem?_of_longest h
  have hindex : best.index = i := by omega
  exact hindex ▸ hr

theorem getElem?_ne_finished {index i : Nat} {o : Value} {rest : Bytes}
    (h : longest index results = none) : results[i]? ≠ some (some (.ok (.finished o rest))) := by
  induction results generalizing index i with
  | nil => simp
  | cons r results ih =>
    unfold longest at h
    split at h
    · rename_i heq
      cases heq
    · split at h
      · cases h
      · split at h <;> cases h
    · rename_i results' hr heq
      obtain ⟨rfl,rfl⟩ := List.cons.inj heq
      cases i with
      | zero =>
        simp only [List.getElem?_cons_zero]
        intro he
        exact hr o rest (Option.some.inj he)
      | succ i => simpa using ih h

theorem longest_eq_none (index : Nat)
    (h : ∀ (i : Nat) o rest, results[i]? ≠ some (some (.ok (.finished o rest)))) :
    longest index results = none := by
  cases hl : longest index results with
  | none => rfl
  | some best =>
    obtain ⟨i,_,hi⟩ := getElem?_of_longest hl
    exact absurd hi (h i _ _)

/-- The match that wins leaves no more than any other, and is the first of those that leave as
much. -/
theorem longest_least {index : Nat} {best : Branch} {rest : Bytes}
    (h : longest index results = some (best,rest)) {j : Nat} {y : Value} {rest' : Bytes}
    (hj : results[j]? = some (some (.ok (.finished y rest')))) :
    rest.length < rest'.length ∨ rest.length = rest'.length ∧ best.index ≤ index + j := by
  induction results generalizing index best rest j with
  | nil => cases hj
  | cons r results ih =>
    unfold longest at h
    split at h
    · rename_i heq
      cases heq
    · rename_i output rest₀ results' heq
      obtain ⟨rfl,rfl⟩ := List.cons.inj heq
      split at h
      · rename_i hnone
        cases h
        cases j with
        | zero =>
          cases hj
          exact .inr ⟨rfl,Nat.le_refl _⟩
        | succ j => exact absurd (by simpa using hj) (getElem?_ne_finished hnone)
      · rename_i later hl
        obtain ⟨later,restLater⟩ := later
        have hlater {j : Nat} (hj : results[j]? = some (some (.ok (.finished y rest')))) :
            restLater.length < rest'.length ∨
              restLater.length = rest'.length ∧ later.index ≤ index + 1 + j := ih hl hj
        obtain ⟨k,hk,_⟩ := getElem?_of_longest hl
        split at h
        · rename_i hle
          cases h
          cases j with
          | zero =>
            cases hj
            exact .inr ⟨rfl,Nat.le_refl _⟩
          | succ j =>
            have := hlater (by simpa using hj)
            simp only at hle ⊢
            omega
        · rename_i hlt
          obtain ⟨rfl,rfl⟩ := Prod.mk.inj (Option.some.inj h)
          cases j with
          | zero =>
            cases hj
            simp only at hlt ⊢
            omega
          | succ j =>
            have := hlater (by simpa using hj)
            omega
    · rename_i results' hr heq
      obtain ⟨rfl,rfl⟩ := List.cons.inj heq
      cases j with
      | zero => exact absurd (Option.some.inj hj) (hr y rest')
      | succ j =>
        have := ih h (by simpa using hj)
        omega

theorem close_finished {o : Value} {rest : Bytes}
    (h : close fallback leftover data results = .ok (.finished o rest)) :
    (∃ i x, results[i]? = some (some (.ok (.finished x rest))) ∧ o = .branch i x) ∨
      ∃ b, fallback = some b ∧ o = b.toValue ∧ rest = leftover ++ data := by
  unfold close at h
  split at h
  · rename_i best rest' hbest
    cases h
    exact .inl ⟨best.index,best.value,getElem?_winner hbest,rfl⟩
  · split at h
    · rename_i b
      cases h
      exact .inr ⟨b,rfl,rfl,rfl⟩
    · split at h <;> cases h

theorem nextFallback_eq {b : Branch}
    (h : (nextFallback fallback leftover data results).1 = some b) :
    results[b.index]? =
        some (some (.ok (.finished b.value (nextFallback fallback leftover data results).2))) ∨
      fallback = some b ∧ (nextFallback fallback leftover data results).2 = leftover ++ data := by
  unfold nextFallback at h ⊢
  split
  · rename_i best rest hbest
    simp only [hbest,Option.some.injEq] at h
    subst h
    exact .inl (getElem?_winner hbest)
  · rename_i hnone
    simp only [hnone] at h
    exact .inr ⟨h,by simp [h]⟩

theorem longest_of_nextFallback (h : (nextFallback fallback leftover data results).1 = none) :
    longest 0 results = none := by
  unfold nextFallback at h
  split at h
  · cases h
  · rename_i hnone
    exact hnone

theorem nextFallback_leftover
    (h : (nextFallback fallback leftover data results).1 = none) :
    (nextFallback fallback leftover data results).2 = [] := by
  unfold nextFallback at h ⊢
  split
  · rename_i hbest
    simp [hbest] at h
  · rename_i hnone
    simp only [hnone] at h
    simp [h]

theorem exists_running (h : results.filterMap requirement? ≠ []) :
    ∃ c, some c ∈ results.map nextSlot := by
  obtain ⟨required,hmem⟩ := List.exists_mem_of_ne_nil _ h
  obtain ⟨r,hr,hrequired⟩ := List.mem_filterMap.mp hmem
  unfold requirement? at hrequired
  split at hrequired
  · rename_i c required'
    exact ⟨c,List.mem_map.mpr ⟨_,hr,rfl⟩⟩
  · cases hrequired

end Choice

theorem Grammar.getElem?_advanceSlots {gs : List Grammar} {slots : List (Option Checkpoint)}
    {data : Bytes} {i : Nat} {r : Choice.SlotResult} :
    (advanceSlots gs slots data)[i]? = some r ↔
      ∃ g slot, gs[i]? = some g ∧ slots[i]? = some slot ∧
        slot.map (fun c => g.advance c data) = r := by
  rw [advanceSlots_eq_zipWith,List.getElem?_zipWith_eq_some]

theorem Grammar.getElem?_advanceSlots_some {gs : List Grammar} {slots : List (Option Checkpoint)}
    {data : Bytes} {i : Nat} {attempt : Attempt} :
    (advanceSlots gs slots data)[i]? = some (some attempt) ↔
      ∃ g c, gs[i]? = some g ∧ slots[i]? = some (some c) ∧ g.advance c data = attempt := by
  rw [getElem?_advanceSlots]
  constructor
  · rintro ⟨g,slot,hg,hslot,hr⟩
    obtain ⟨c,rfl,ha⟩ := Option.map_eq_some_iff.mp hr
    exact ⟨g,c,hg,hslot,ha⟩
  · rintro ⟨g,c,hg,hslot,rfl⟩
    exact ⟨g,some c,hg,hslot,rfl⟩

theorem Grammar.getElem?_nextSlot {gs : List Grammar} {slots : List (Option Checkpoint)}
    {data : Bytes} {i : Nat} {c' : Checkpoint} :
    ((advanceSlots gs slots data).map Choice.nextSlot)[i]? = some (some c') ↔
      ∃ g c required, gs[i]? = some g ∧ slots[i]? = some (some c) ∧
        g.advance c data = .ok (.incomplete c' required) := by
  rw [List.getElem?_map,Option.map_eq_some_iff]
  constructor
  · rintro ⟨r,hr,hslot⟩
    unfold Choice.nextSlot at hslot
    split at hslot
    · obtain rfl := Option.some.inj hslot
      obtain ⟨g,c,hg,hc,ha⟩ := getElem?_advanceSlots_some.mp hr
      exact ⟨g,c,_,hg,hc,ha⟩
    · cases hslot
  · rintro ⟨g,c,required,hg,hc,ha⟩
    exact ⟨_,getElem?_advanceSlots_some.mpr ⟨g,c,hg,hc,ha⟩,rfl⟩

theorem Grammar.incomplete_of_nextSlot {gs : List Grammar} {slots : List (Option Checkpoint)}
    {data : Bytes} {i : Nat} {g : Grammar} {c' : Checkpoint} (hg : gs[i]? = some g)
    (hc : ((advanceSlots gs slots data).map Choice.nextSlot)[i]? = some (some c')) :
    ∃ c required, slots[i]? = some (some c) ∧ g.advance c data = .ok (.incomplete c' required) := by
  obtain ⟨g',c,required,hg',hc,ha⟩ := getElem?_nextSlot.mp hc
  obtain rfl := Option.some.inj (hg.symm.trans hg')
  exact ⟨c,required,hc,ha⟩

theorem Grammar.length_advanceSlots {gs : List Grammar} {slots : List (Option Checkpoint)}
    (data : Bytes) (h : slots.length = gs.length) :
    (advanceSlots gs slots data).length = gs.length := by
  rw [advanceSlots_eq_zipWith,List.length_zipWith,h,Nat.min_self]

end GuidedDecoding
