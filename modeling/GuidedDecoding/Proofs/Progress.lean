import GuidedDecoding.Proofs.Extension
import GuidedDecoding.Proofs.Standing
import GuidedDecoding.Proofs.Total

/-!
No parse comes to a dead end. From wherever it stands some further chunks end it with a match that
leaves nothing over: the rest of a literal, one digit after another while any may follow, the parts
of a sequence in turn, items up to the greatest count. In a choice one running alternative is
brought to its end; it may be outlived by others, which are fewer then.
-/

set_option autoImplicit false

namespace GuidedDecoding

theorem Literal.scan_left {literal left : Bytes} {matched consumed : Nat}
    (h : matched + left.length = literal.length) :
    scan literal matched consumed left left = .ok (.finished .none []) := by
  induction left generalizing matched consumed with
  | nil => simp only [scan,if_pos (by simpa using h : matched = literal.length)]
  | cons b left ih =>
    rw [List.length_cons] at h
    simp only [scan,if_true]
    exact ih (by omega)

namespace Grammar

/-- Every repetition has a greatest count. -/
inductive Capped : Grammar → Prop where
  | literal (bytes) : Capped (.literal bytes)
  | integer (range) : Capped (.integer range)
  | sequence {keep first second} :
      Capped first → Capped second → Capped (.sequence keep first second)
  | choice {first others} : (∀ g ∈ first :: others, Capped g) → Capped (.choice first others)
  | repetition {item bounds m} :
      Capped item → bounds.max = some m → Capped (.repetition item bounds)
  | mapped {body t} : Capped body → Capped (.mapped body t)

/-- Some chunks fed from `c` end the parse with nothing left over. -/
inductive CanEnd (g : Grammar) : Checkpoint → Prop where
  | finish {c data o} : g.advance c data = .ok (.finished o []) → CanEnd g c
  | pause {c data c' required} :
      g.advance c data = .ok (.incomplete c' required) → CanEnd g c' → CanEnd g c

variable {g : Grammar} {c : Checkpoint} {w : Bytes}

theorem CanEnd.exists_chunks (h : g.CanEnd c) (hfed : g.Fed w c) :
    ∃ chunks o, (Standing.running c).after g chunks = .finished o [] 0 ∧
      g.Derives (w ++ chunks.flatten) o := by
  induction h generalizing w with
  | @finish c data o ha =>
    obtain ⟨u,hu,ho⟩ := hfed.derives (hfed.ready.completes_of_finished ha)
    rw [List.append_nil] at hu
    refine ⟨[data],o,?_,?_⟩
    · rw [Standing.after_cons,Standing.after_nil,Standing.feed,ha]
      rfl
    · rw [List.flatten_singleton,hu]
      exact ho
  | @pause c data c' required ha _ ih =>
    obtain ⟨chunks,o,hs,ho⟩ := ih (hfed.feed ha)
    refine ⟨data :: chunks,o,?_,?_⟩
    · rw [Standing.after_cons,Standing.feed,ha]
      exact hs
    · rw [List.flatten_cons,← List.append_assoc]
      exact ho

section Integer

variable {r : IntegerRange} {n : Numeral} {low high d : Nat}

theorem canEnd_of_extendable (hm : r.magnitudes n.negative = some (low,high))
    (he : r.extendable n = true) : (integer r).CanEnd (.integer n) := by
  obtain ⟨gap,hgap⟩ : ∃ gap, gap = high - n.magnitude := ⟨_,rfl⟩
  induction gap using Nat.strongRecOn generalizing n with
  | ind gap ih =>
    obtain ⟨d,hd,hv⟩ := IntegerRange.exists_push_of_extendable he
    obtain ha | ⟨he',required,ha⟩ := IntegerRange.advance_digitByte hd hv
    · exact .finish ha
    · have hpos := IntegerRange.extendable_pos he
      have hlt := IntegerRange.magnitude_lt_of_extendable hm he
      exact .pause ha (ih _ (by rw [hgap,Numeral.push_magnitude]; omega) hm he' rfl)

theorem canEnd_of_start (hm : r.magnitudes n.negative = some (low,high)) (hzero : n.magnitude = 0) :
    (integer r).CanEnd (.integer n) := by
  obtain ⟨d,hd,hv⟩ := IntegerRange.exists_push_of_start hm hzero
  obtain ha | ⟨he,required,ha⟩ := IntegerRange.advance_digitByte hd hv
  · exact .finish ha
  · exact .pause ha (canEnd_of_extendable hm he)

theorem canEnd_integer (h : r.Open n) : (integer r).CanEnd (.integer n) := by
  cases hm : r.magnitudes n.negative with
  | some bounds =>
    rcases h with ⟨_,hzero,_⟩ | ⟨_,he⟩
    · exact canEnd_of_start hm hzero
    · exact canEnd_of_extendable hm he
  | none =>
    rcases h with ⟨hdigits,hzero,hsign⟩ | ⟨_,he⟩
    · have hneg : n.negative = false := by
        cases hneg : n.negative with
        | false => rfl
        | true =>
          rw [hneg] at hm
          simp [hm] at hsign
          exact absurd hneg (by simpa using hsign)
      rw [hneg] at hm
      have hsome := IntegerRange.isSome_magnitudes_of_none hm
      obtain ⟨required,ha⟩ := IntegerRange.advance_minusSign hdigits hneg hsome
      obtain ⟨⟨low,high⟩,hm⟩ := Option.isSome_iff_exists.mp hsome
      exact .pause ha (canEnd_of_start hm hzero)
    · simp [IntegerRange.extendable,hm] at he

end Integer

theorem CanEnd.inSecond {keep : Keep} {first second : Grammar} {a : Value} (h : second.CanEnd c) :
    (sequence keep first second).CanEnd (.inSecond c a) := by
  induction h with
  | finish hb => exact .finish (keep.proceed_of_finished a hb)
  | pause hb _ ih => exact .pause (keep.proceed_of_incomplete a hb) ih

theorem CanEnd.inFirst {keep : Keep} {first second : Grammar}
    (hstart : ∃ outcome, second.advance second.initial [] = .ok outcome)
    (hsecond : ∀ {c required}, second.advance second.initial [] = .ok (.incomplete c required) →
      second.CanEnd c) (h : first.CanEnd c) :
    (sequence keep first second).CanEnd (.inFirst c) := by
  induction h with
  | @finish c data a ha =>
    obtain ⟨⟨b,rest⟩ | ⟨c₂,required⟩,hb⟩ := hstart
    · obtain rfl := rest_of_finished_nil hb
      exact .finish ((advance_inFirst_of_finished keep second ha).trans
        (keep.proceed_of_finished a hb))
    · exact .pause ((advance_inFirst_of_finished keep second ha).trans
        (keep.proceed_of_incomplete a hb)) (hsecond hb).inSecond
  | pause ha _ ih => exact .pause (advance_inFirst_of_incomplete keep second ha) ih

theorem CanEnd.mapped {t : Transform} (hmap : ∀ w x, g.Derives w x → ∃ o, t.apply x = .ok o)
    (hfed : g.Fed w c) (h : g.CanEnd c) : (Grammar.mapped g t).CanEnd c := by
  induction h generalizing w with
  | @finish c data x ha =>
    obtain ⟨u,_,hu⟩ := hfed.derives (hfed.ready.completes_of_finished ha)
    obtain ⟨o,ho⟩ := hmap u x hu
    exact .finish ((congrArg t.on ha).trans (Transform.on_of_finished ho []))
  | pause ha _ ih => exact .pause (congrArg t.on ha) (ih (hfed.feed ha))

theorem CanEnd.repetition {item : Grammar} {bounds : Bounds} {m : Nat} {outputs : List Value}
    {inProgress : Bool} (hmax : bounds.max = some m)
    (hfresh : Faultless (item.advance item.initial))
    (hinitial : item.CanEnd item.initial) (hroom : outputs.length < m) (h : item.CanEnd c) :
    (Grammar.repetition item bounds).CanEnd (.repetition c outputs inProgress) := by
  have hne : bounds.max ≠ some 0 := by
    rw [hmax,ne_eq,Option.some.injEq]
    omega
  -- Each item that ends leaves less room; while one runs, the room stays.
  obtain ⟨room,hroom'⟩ : ∃ room, room = m - outputs.length := ⟨_,rfl⟩
  induction room using Nat.strongRecOn generalizing outputs c inProgress with
  | ind room ihroom =>
    induction h generalizing inProgress with
    | @finish c data x ha =>
      obtain ⟨o,ho⟩ | ⟨hceil,required,ho⟩ :=
        Repetition.advance_of_item item.toItem hne hfresh ha
      · exact .finish ho
      · have hlt := Bounds.isCeiling_eq_false.mp hceil m hmax
        have hlength : (outputs ++ [x]).length = outputs.length + 1 := by simp
        exact .pause ho (ihroom _ (by omega) hlt hinitial rfl)
    | pause ha _ ih => exact .pause ((advance_repetition hne).mpr (.inside ha)) ih

section Choice

variable {first : Grammar} {others : List Grammar} {slots : List (Option Checkpoint)}
  {fallback : Option Branch} {leftover data : Bytes}

theorem live_cons (slot : Option Checkpoint) (slots : List (Option Checkpoint)) :
    Checkpoint.live (slot :: slots) = Checkpoint.live slots + if slot.isSome then 1 else 0 :=
  List.countP_cons

theorem live_nextSlot_le (g : Grammar) (slot : Option Checkpoint) (data : Bytes) :
    (if (Choice.nextSlot (slot.map fun c => g.advance c data)).isSome then 1 else 0) ≤
      if slot.isSome then 1 else 0 := by
  cases slot with
  | none => exact Nat.le_refl _
  | some c =>
    rw [Option.isSome_some,if_pos rfl]
    split
    · exact Nat.le_refl _
    · exact Nat.zero_le _

theorem live_nextSlots_le (gs : List Grammar) (slots : List (Option Checkpoint)) (data : Bytes) :
    Checkpoint.live ((advanceSlots gs slots data).map Choice.nextSlot) ≤ Checkpoint.live slots := by
  induction gs generalizing slots with
  | nil => exact Nat.zero_le _
  | cons g gs ih =>
    cases slots with
    | nil => exact Nat.zero_le _
    | cons slot slots =>
      rw [advanceSlots,List.map_cons,live_cons,live_cons]
      exact Nat.add_le_add (ih slots) (live_nextSlot_le g slot data)

theorem live_nextSlots_lt {gs : List Grammar} {i : Nat} {o : Value} {rest : Bytes}
    (hg : gs[i]? = some g) (hc : slots[i]? = some (some c))
    (ha : g.advance c data = .ok (.finished o rest)) :
    Checkpoint.live ((advanceSlots gs slots data).map Choice.nextSlot) < Checkpoint.live slots := by
  induction gs generalizing slots i with
  | nil => cases hg
  | cons g' gs ih =>
    cases slots with
    | nil => cases hc
    | cons slot slots =>
      rw [advanceSlots,List.map_cons,live_cons,live_cons]
      cases i with
      | zero =>
        obtain rfl := Option.some.inj hg
        obtain rfl := Option.some.inj hc
        have htail := live_nextSlots_le gs slots data
        rw [Option.map_some,ha]
        exact Nat.lt_succ_of_le htail
      | succ i =>
        have htail := ih (by simpa using hg) (by simpa using hc)
        exact Nat.add_lt_add_of_lt_of_le htail (live_nextSlot_le g' slot data)

/-- An alternative is brought to its end while others run along; then there are fewer of them. -/
theorem CanEnd.choice {i : Nat} (htotal : (Grammar.choice first others).Total)
    (hfewer : ∀ {w slots' fallback leftover}, Checkpoint.live slots' < Checkpoint.live slots →
      (Grammar.choice first others).Fed w (.choice slots' fallback leftover) →
      (Grammar.choice first others).CanEnd (.choice slots' fallback leftover))
    (hfed : (Grammar.choice first others).Fed w (.choice slots fallback leftover))
    (hg : (first :: others)[i]? = some g) (hc : slots[i]? = some (some c)) (h : g.CanEnd c) :
    (Grammar.choice first others).CanEnd (.choice slots fallback leftover) := by
  have hfault {w slots fallback leftover} (data : Bytes)
      (hfed : (Grammar.choice first others).Fed w (.choice slots fallback leftover)) :
      (advanceSlots (first :: others) slots data).findSome? Choice.fault? = none := by
    cases hf : (advanceSlots (first :: others) slots data).findSome? Choice.fault? with
    | none => rfl
    | some f =>
      have ha := (advance_choice first others slots fallback leftover data).trans
        (Choice.settle_of_fault hf)
      exact absurd ha (htotal.faultless hfed data f)
  -- The others take every step along with this alternative, and what they come to does not matter
  -- as long as it is no fault.
  induction h generalizing slots fallback leftover w with
  | @finish c data o ha =>
    have hslot := getElem?_advanceSlots_some.mpr ⟨g,c,hg,hc,ha⟩
    obtain ⟨o,ho⟩ | ⟨fallback',leftover',required,ho⟩ :=
      Choice.settle_of_finished fallback leftover data (hfault data hfed) hslot
    · exact .finish ((advance_choice ..).trans ho)
    · have ha' := (advance_choice first others slots fallback leftover data).trans ho
      exact .pause ha' (hfewer (live_nextSlots_lt hg hc ha) (hfed.feed ha'))
  | @pause c data c' required ha _ ih =>
    have hslot := getElem?_advanceSlots_some.mpr ⟨g,c,hg,hc,ha⟩
    obtain ⟨fallback',leftover',required',ho⟩ :=
      Choice.settle_of_incomplete fallback leftover data (hfault data hfed) hslot
    have ha' := (advance_choice first others slots fallback leftover data).trans ho
    have hnext := getElem?_nextSlot.mpr ⟨g,c,required,hg,hc,ha⟩
    exact .pause ha' (ih (fun hlive => hfewer (Nat.lt_of_lt_of_le hlive (live_nextSlots_le _ _ _)))
      (hfed.feed ha') hnext)

theorem canEnd_choice (htotal : (Grammar.choice first others).Total)
    (halternatives : ∀ g ∈ first :: others, ∀ {w c}, g.Fed w c → g.CanEnd c)
    (hfed : (Grammar.choice first others).Fed w (.choice slots fallback leftover)) :
    (Grammar.choice first others).CanEnd (.choice slots fallback leftover) := by
  obtain ⟨live,hlive⟩ : ∃ live, live = Checkpoint.live slots := ⟨_,rfl⟩
  induction live using Nat.strongRecOn generalizing w slots fallback leftover with
  | ind live ih =>
    obtain ⟨i,g,c,hg,hc⟩ := hfed.ready.exists_slot
    obtain ⟨_,_,_,hslots,hparts⟩ := hfed.choice
    cases hslots
    exact .choice htotal (fun hfewer hfed => ih _ (hlive ▸ hfewer) hfed rfl) hfed hg hc
      (halternatives g (List.mem_of_getElem? hg) (hparts i g c hg hc))

end Choice

theorem Fed.canEnd (htotal : g.Total) (hcapped : g.Capped) (h : g.Fed w c) : g.CanEnd c := by
  induction hcapped generalizing w c with
  | literal bytes =>
    obtain ⟨matched,rfl,hm⟩ := h.ready.literal
    have hleft : matched + (bytes.drop matched).length = bytes.length := by
      rw [List.length_drop]
      omega
    exact .finish (Literal.scan_left hleft)
  | integer range =>
    obtain ⟨n,rfl,hn⟩ := h.ready.integer
    exact canEnd_integer hn
  | sequence _ _ hfirst hsecond =>
    cases htotal with
    | sequence htotal₁ htotal₂ =>
      obtain ⟨inner,rfl,hinner⟩ | ⟨inner,a,v,rfl,hinner⟩ := h.sequence
      · exact (hfirst htotal₁ hinner).inFirst htotal₂.exists_outcome
          fun hb => hsecond htotal₂ (Fed.start.feed hb)
      · exact (hsecond htotal₂ hinner).inSecond
  | @choice first others _ ih =>
    obtain ⟨slots,fallback,leftover,rfl,_⟩ := h.choice
    cases htotal with
    | choice halternatives =>
      exact canEnd_choice (.choice halternatives) (fun g hg => ih g hg (halternatives g hg)) h
  | @repetition item bounds m _ hmax ih =>
    cases htotal with
    | repetition htotal =>
      obtain ⟨current,outputs,inProgress,v,rfl,hv⟩ := h.repetition
      obtain ⟨_,_,_,hc,_,_,⟨hzero,_,_⟩ | ⟨_,hroom⟩⟩ := h.ready.repetition
      · have ha : (Grammar.repetition item bounds).advance
            (.repetition current outputs inProgress) [] = .ok (.finished (.list []) []) :=
          Repetition.advance_of_max_zero hzero
        exact .finish ha
      · cases hc
        exact .repetition hmax (htotal.faultless .start) (ih htotal .start) (hroom m hmax)
          (ih htotal hv)
  | mapped _ ih =>
    cases htotal with
    | mapped htotal hmap => exact (ih htotal h.mapped).mapped hmap h.mapped

/-- No parse comes to a dead end: wherever it stands, some chunks end it without an error and with
nothing left over, and all that it has been fed is a word then. -/
theorem Fed.exists_completion (h : g.Fed w c) (htotal : g.Total) (hcapped : g.Capped) :
    ∃ chunks o, (Standing.running c).after g chunks = .finished o [] 0 ∧
      g.Derives (w ++ chunks.flatten) o :=
  (h.canEnd htotal hcapped).exists_chunks h

theorem exists_completion_sign :
    ∃ chunks o,
      (Standing.running (.inFirst (.choice [some (.integer ⟨true,0,0⟩),none] none []))).after
        (sequence .both (.choice (.integer ⟨-7,-3,by decide⟩) [.literal (utf8 "x")])
          (.repetition (.literal (utf8 "ab")) ⟨2,some 3,by simp⟩)) chunks = .finished o [] 0 ∧
      (sequence .both (.choice (.integer ⟨-7,-3,by decide⟩) [.literal (utf8 "x")])
        (.repetition (.literal (utf8 "ab")) ⟨2,some 3,by simp⟩)).Derives
          ([] ++ utf8 "-" ++ chunks.flatten) o := by
  have halternatives {P : Grammar → Prop} (hinteger : P (.integer ⟨-7,-3,by decide⟩))
      (hliteral : P (.literal (utf8 "x"))) :
      ∀ g ∈ [Grammar.integer ⟨-7,-3,by decide⟩,.literal (utf8 "x")], P g := by
    intro g hg
    simp only [List.mem_cons,List.not_mem_nil,or_false] at hg
    rcases hg with rfl | rfl
    · exact hinteger
    · exact hliteral
  exact Fed.exists_completion (.feed .start rfl)
    (.sequence (.choice (halternatives (.integer _) (.literal _))) (.repetition (.literal _)))
    (.sequence (.choice (halternatives (.integer _) (.literal _))) (.repetition (.literal _) rfl))

end Grammar

end GuidedDecoding
