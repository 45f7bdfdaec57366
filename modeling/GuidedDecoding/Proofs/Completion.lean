import GuidedDecoding.Proofs.Pause

/-!
What a checkpoint stands for: the continuations that complete a match from it. An advance takes its
bytes off the front of a continuation and changes nothing else, whichever way it ends, so the words
that a parse reads are words of the grammar however the input is cut.
-/

set_option autoImplicit false

namespace GuidedDecoding

namespace Grammar

/-- `g.Completes c v o rest`: from `c`, the bytes `v` complete a match of `g` that yields `o` and
leaves `rest` unread. The rest is longer than `v` when a choice falls back on an earlier match. -/
inductive Completes : Grammar → Checkpoint → Bytes → Value → Bytes → Prop where
  | literal {bytes matched rest} :
      matched ≤ bytes.length →
      Completes (.literal bytes) (.literal matched) (bytes.drop matched ++ rest) .none rest
  | integer {range n v k rest} :
      range.contains k = true → n.written ++ v = utf8 (toString k) ++ rest →
      Completes (.integer range) (.integer n) v (.int k) rest
  | inFirst {keep first second c v a u b rest} :
      Completes first c v a (u ++ rest) → Derives second u b →
      Completes (.sequence keep first second) (.inFirst c) v (keep.combine a b) rest
  | inSecond {keep first second c a v b rest} :
      Completes second c v b rest →
      Completes (.sequence keep first second) (.inSecond c a) v (keep.combine a b) rest
  | alternative {first others fallback leftover i g c v x rest}
      {slots : List (Option Checkpoint)} :
      (first :: others)[i]? = some g → slots[i]? = some (some c) → Completes g c v x rest →
      Completes (.choice first others) (.choice slots fallback leftover) v (.branch i x) rest
  | fallback {first others slots b leftover v} :
      Completes (.choice first others) (.choice slots (some b) leftover) v b.toValue (leftover ++ v)
  /-- The item under way is completed, and any number of further items follow it. -/
  | item {item bounds current outputs inProgress v x rest} {words : List (Bytes × Value)} :
      Completes item current v x (words.flatMap Prod.fst ++ rest) →
      (∀ word ∈ words, Derives item word.1 word.2) →
      bounds.contains (outputs ++ x :: words.map Prod.snd).length = true →
      Completes (.repetition item bounds) (.repetition current outputs inProgress) v
        (.list (outputs ++ x :: words.map Prod.snd)) rest
  | enough {item bounds current outputs v} :
      bounds.contains outputs.length = true →
      Completes (.repetition item bounds) (.repetition current outputs false) v (.list outputs) v
  | mapped {body t c v x o rest} :
      Completes body c v x rest → t.apply x = .ok o → Completes (.mapped body t) c v o rest

variable {g item : Grammar} {c current : Checkpoint} {v w rest : Bytes} {o x : Value}

theorem Completes.of_initial (h : g.Completes g.initial v o rest) :
    ∃ u, v = u ++ rest ∧ g.Derives u o := by
  induction g generalizing v o rest with
  | literal bytes =>
    cases h with
    | literal _ => exact ⟨bytes,rfl,.literal bytes⟩
  | integer range =>
    cases h with
    | integer hk hv => exact ⟨_,hv,.integer hk⟩
  | sequence keep first second hfirst hsecond =>
    cases h with
    | inFirst ha hb =>
      obtain ⟨u,rfl,hu⟩ := hfirst ha
      exact ⟨_,(List.append_assoc _ _ _).symm,.sequence hu hb⟩
  | choice first others ih =>
    rw [initial_choice] at h
    cases h with
    | alternative hg hc hx =>
      obtain rfl := eq_initial_of_initialSlots hg hc
      obtain ⟨u,rfl,hu⟩ := ih _ (List.mem_of_getElem? hg) hx
      exact ⟨u,rfl,.choice hg hu⟩
  | repetition item bounds ih =>
    cases h with
    | @item _ _ _ _ _ _ x _ words hx hwords hcount =>
      obtain ⟨u,rfl,hu⟩ := ih hx
      have hall : ∀ word ∈ (u,x) :: words, item.Derives word.1 word.2 := by
        intro word hword
        rcases List.mem_cons.mp hword with rfl | hword
        · exact hu
        · exact hwords word hword
      have hcount' : bounds.contains ((u,x) :: words).length = true := by simpa using hcount
      exact ⟨_,by simp,.repetition hall hcount'⟩
    | enough hcount =>
      have hnone : ∀ word ∈ ([] : List (Bytes × Value)), item.Derives word.1 word.2 := by simp
      exact ⟨[],rfl,.repetition hnone hcount⟩
  | mapped body t ih =>
    cases h with
    | mapped hx ho =>
      obtain ⟨u,rfl,hu⟩ := ih hx
      exact ⟨u,rfl,.mapped hu ho⟩

theorem Derives.completes {u : Bytes} (h : g.Derives u o) :
    g.Completes g.initial (u ++ rest) o rest := by
  induction h generalizing rest with
  | literal bytes => exact .literal (Nat.zero_le _)
  | integer hk => exact .integer hk rfl
  | sequence _ hb hfirst _ =>
    rw [List.append_assoc]
    exact .inFirst hfirst hb
  | choice hg _ ih =>
    rw [initial_choice]
    exact .alternative hg (getElem?_initialSlots.mpr ⟨_,hg,rfl⟩) ih
  | @repetition item bounds words hwords hcount ih =>
    cases words with
    | nil => exact .enough hcount
    | cons word words =>
      have hx : item.Completes item.initial (word.1 ++ (words.flatMap Prod.fst ++ rest)) word.2 _ :=
        ih word List.mem_cons_self
      have hothers : ∀ other ∈ words, item.Derives other.1 other.2 := fun other hother =>
        hwords other (List.mem_cons_of_mem _ hother)
      have hcount' : bounds.contains ([] ++ word.2 :: words.map Prod.snd).length = true := by
        simpa using hcount
      rw [← List.append_assoc] at hx
      exact .item hx hothers hcount'
  | mapped _ ho ih => exact .mapped ih ho

theorem Completes.of_append {more : Bytes} (h : g.Completes c (v ++ more) o (rest ++ more)) :
    g.Completes c v o rest := by
  generalize hv : v ++ more = v' at h
  generalize hrest : rest ++ more = rest' at h
  induction h generalizing v rest with
  | literal hm =>
    subst hrest
    rw [← List.append_assoc,List.append_left_inj] at hv
    exact hv ▸ .literal hm
  | integer hk hnumeral =>
    subst hv hrest
    rw [← List.append_assoc,← List.append_assoc,List.append_left_inj] at hnumeral
    exact .integer hk hnumeral
  | inFirst _ hb ih =>
    subst hrest
    exact .inFirst (ih hv (List.append_assoc _ _ _)) hb
  | inSecond _ ih => exact .inSecond (ih hv hrest)
  | alternative hg hc _ ih => exact .alternative hg hc (ih hv hrest)
  | fallback =>
    subst hv
    rw [← List.append_assoc,List.append_left_inj] at hrest
    exact hrest ▸ .fallback
  | item _ hwords hcount ih =>
    subst hrest
    exact .item (ih hv (List.append_assoc _ _ _)) hwords hcount
  | enough hcount =>
    rw [← hrest,List.append_left_inj] at hv
    exact hv ▸ .enough hcount
  | mapped _ ho ih => exact .mapped (ih hv hrest) ho

theorem Completes.last {bounds : Bounds} {outputs : List Value} {inProgress : Bool}
    (hx : item.Completes current v x rest)
    (hcount : bounds.contains (outputs ++ [x]).length = true) :
    (Grammar.repetition item bounds).Completes (.repetition current outputs inProgress) v
      (.list (outputs ++ [x])) rest := by
  have hnone : ∀ word ∈ ([] : List (Bytes × Value)), item.Derives word.1 word.2 := by simp
  exact .item (by simpa using hx) hnone hcount

theorem Completes.after {bounds : Bounds} {outputs : List Value} {inProgress : Bool}
    (hx : item.Completes current v x w)
    (h : (Grammar.repetition item bounds).Completes
      (.repetition item.initial (outputs ++ [x]) false) w o rest) :
    (Grammar.repetition item bounds).Completes (.repetition current outputs inProgress)
      v o rest := by
  cases h with
  | @item _ _ _ _ _ _ y _ words hy hwords hcount =>
    obtain ⟨u,rfl,hu⟩ := hy.of_initial
    have hall : ∀ word ∈ (u,y) :: words, item.Derives word.1 word.2 := by
      intro word hword
      rcases List.mem_cons.mp hword with rfl | hword
      · exact hu
      · exact hwords word hword
    rw [List.append_assoc,List.singleton_append] at hcount ⊢
    exact .item (by simpa using hx) hall hcount
  | enough hcount => exact .last hx hcount

end Grammar

/-- The continuations that complete a match once an attempt has been made. -/
def Attempt.Completes (g : Grammar) (v : Bytes) (o : Value) (rest : Bytes) : Attempt → Prop
  | .ok (.finished x left) => o = x ∧ rest = left ++ v
  | .ok (.incomplete c _) => g.Completes c v o rest
  | .error _ => False

theorem Keep.proceed_completes {keep : Keep} {first second : Grammar} {c : Checkpoint} {a o : Value}
    {data v rest : Bytes}
    (hsecond : ∀ {attempt b}, second.advance c data = attempt →
      attempt.Completes second v b rest → second.Completes c (data ++ v) b rest)
    (h : (keep.proceed second.advance c a data).Completes (.sequence keep first second) v o rest) :
    ∃ b, o = keep.combine a b ∧ second.Completes c (data ++ v) b rest := by
  unfold Keep.proceed at h
  cases hb : second.advance c data with
  | error e =>
    simp only [hb] at h
    exact absurd h id
  | ok outcome =>
    cases outcome with
    | incomplete c' required =>
      simp only [hb] at h
      cases h with
      | inSecond h => exact ⟨_,rfl,hsecond hb h⟩
    | finished b left =>
      simp only [hb] at h
      obtain ⟨rfl,rfl⟩ := h
      exact ⟨b,rfl,hsecond hb ⟨rfl,rfl⟩⟩

theorem Bounds.contains_of_isCeiling {bounds : Bounds} {n : Nat} (hm : ∀ m ∈ bounds.max, n < m)
    (hceil : bounds.isCeiling ↑(n + 1) = true) : bounds.contains ↑(n + 1) = true := by
  cases hmax : bounds.max with
  | none => simp [isCeiling,hmax] at hceil
  | some m =>
    have hlt := hm m hmax
    have hmin := bounds.min_le_max m hmax
    have hle : m ≤ n + 1 := by
      simp [isCeiling,hmax] at hceil
      omega
    refine contains_iff.mpr ⟨by omega,fun m' hm' => ?_⟩
    obtain rfl := Option.some.inj (hmax.symm.trans hm')
    omega

namespace Grammar

theorem completes_of_rounds {item : Grammar} {bounds : Bounds} {later inProgress : Bool}
    {current : Checkpoint} {outputs : List Value} {data v rest : Bytes} {o : Value}
    {result : Attempt}
    (hitem : ∀ {c data attempt v o rest}, item.Ready c → item.advance c data = attempt →
      attempt.Completes item v o rest → item.Completes c (data ++ v) o rest)
    (h : Repetition.Rounds item.toItem bounds later current outputs inProgress data result)
    (hcurrent : item.Ready current) (hm : ∀ m ∈ bounds.max, outputs.length < m)
    (hresult : result.Completes (.repetition item bounds) v o rest) :
    (Grammar.repetition item bounds).Completes (.repetition current outputs inProgress) (data ++ v)
      o rest := by
  induction h with
  | stop _ hend =>
    obtain ⟨rfl,rfl⟩ := hresult
    simp only [Repetition.mayEnd,Bool.and_eq_true,Bool.not_eq_true'] at hend
    obtain ⟨rfl,hcount⟩ := hend
    exact .enough hcount
  | fail _ _ => exact absurd hresult id
  | fault _ => exact absurd hresult id
  | inside ha =>
    cases hresult with
    | item hx hwords hcount => exact .item (hitem hcurrent ha hx) hwords hcount
  | ceiling ha hceil =>
    obtain ⟨rfl,rfl⟩ := hresult
    rw [List.length_append,List.length_singleton] at hceil
    exact .last (hitem hcurrent ha ⟨rfl,rfl⟩)
      (by simpa using Bounds.contains_of_isCeiling hm hceil)
  | @between _ _ outputs _ _ x ha _ =>
    generalize hp : Repetition.pause item.toItem bounds (outputs ++ [x]) = attempt at hresult
    cases attempt with
    | error e => exact absurd hresult id
    | ok outcome =>
      cases outcome with
      | finished o' left => exact absurd hp Repetition.pause_ne_finished
      | incomplete c required =>
        obtain ⟨rfl,_⟩ := Repetition.pause_incomplete hp
        exact .after (hitem hcurrent ha ⟨rfl,rfl⟩) hresult
  | stall ha _ _ _ hcount =>
    obtain ⟨rfl,rfl⟩ := hresult
    exact .last (hitem hcurrent ha ⟨rfl,rfl⟩) hcount
  | short _ _ _ _ _ => exact absurd hresult id
  | next ha hceil _ _ _ ih =>
    have hrest := ih item.ready_initial (Bounds.isCeiling_eq_false.mp hceil) hresult
    exact .after (hitem hcurrent ha ⟨rfl,rfl⟩) hrest

/-- An advance takes its bytes off the front of a continuation. -/
theorem Ready.completes {g : Grammar} {c : Checkpoint} {data v rest : Bytes} {o : Value}
    {attempt : Attempt} (hc : g.Ready c) (ha : g.advance c data = attempt)
    (h : attempt.Completes g v o rest) : g.Completes c (data ++ v) o rest := by
  induction g generalizing c data v o rest attempt with
  | literal bytes =>
    obtain ⟨matched,rfl,hm⟩ := hc.literal
    rcases attempt with e | (⟨x,left⟩ | ⟨c',required⟩)
    · exact absurd h id
    · obtain ⟨rfl,rfl⟩ := h
      obtain ⟨rfl,rfl⟩ := Literal.scan_finished ha
      rw [List.append_assoc]
      exact .literal hm
    · obtain ⟨more,hdrop,hmore,_,rfl,_⟩ := Literal.advance_incomplete hm ha
      cases h with
      | literal _ =>
        rw [hmore,← List.append_assoc,← hdrop]
        exact .literal hm
  | integer range =>
    obtain ⟨n,rfl,hn⟩ := hc.integer
    simp only [advance,IntegerRange.advance] at ha
    cases hr : range.read n 0 data with
    | error e =>
      simp only [hr] at ha
      subst ha
      exact absurd h id
    | ok result =>
      have hread := hn.read hr
      rcases result with n' | ⟨k,left⟩
      · simp only [hr] at ha
        subst ha
        cases h with
        | integer hk hv =>
          rw [hread.2,List.append_assoc] at hv
          exact .integer hk hv
      · simp only [hr] at ha
        subst ha
        obtain ⟨rfl,rfl⟩ := h
        refine .integer hread.1 ?_
        rw [← List.append_assoc,hread.2,List.append_assoc]
  | sequence keep first second hfirst hsecond =>
    obtain ⟨inner,rfl,hinner⟩ | ⟨inner,a,rfl,hinner⟩ := hc.sequence
    · simp only [advance] at ha
      cases hf : first.advance inner data with
      | error e =>
        simp only [hf] at ha
        subst ha
        exact absurd h id
      | ok outcome =>
        cases outcome with
        | incomplete c₁ required =>
          simp only [hf] at ha
          subst ha
          cases h with
          | inFirst h hb => exact .inFirst (hfirst hinner hf h) hb
        | finished a left =>
          simp only [hf] at ha
          subst ha
          -- The second part reads what is left from its initial checkpoint, so it reads a word.
          obtain ⟨b,rfl,hb⟩ := Keep.proceed_completes (hsecond second.ready_initial) h
          obtain ⟨u,hu,hb⟩ := hb.of_initial
          exact .inFirst (hfirst hinner hf ⟨rfl,hu.symm⟩) hb
    · subst ha
      obtain ⟨b,rfl,hb⟩ := Keep.proceed_completes (hsecond hinner.ready) h
      exact .inSecond hb
  | choice first others ih =>
    obtain ⟨slots,fallback,leftover,rfl,_,hslots,_,_⟩ := hc.choice
    rw [advance_choice] at ha
    have halternative {i : Nat} {g : Grammar} {c : Checkpoint} {attempt : Attempt} {x : Value}
        (hg : (first :: others)[i]? = some g) (hc : slots[i]? = some (some c))
        (ha : g.advance c data = attempt) (hx : attempt.Completes g v x rest) :
        (Grammar.choice first others).Completes (.choice slots fallback leftover) (data ++ v)
          (.branch i x) rest :=
      .alternative hg hc (ih g (List.mem_of_getElem? hg) (hslots i g c hg hc) ha hx)
    rcases attempt with e | (⟨x,left⟩ | ⟨c',required⟩)
    · exact absurd h id
    · obtain ⟨rfl,rfl⟩ := h
      obtain ⟨_,_,hclose⟩ := Choice.settle_closed ha (by simp) (by simp)
      obtain ⟨i,x,hr,rfl⟩ | ⟨b,rfl,rfl,rfl⟩ := Choice.close_finished hclose
      · obtain ⟨g,c,hg,hc,ha⟩ := getElem?_advanceSlots_some.mp hr
        exact halternative hg hc ha ⟨rfl,rfl⟩
      · rw [List.append_assoc]
        exact .fallback
    · obtain ⟨_,_,rfl,_⟩ := Choice.settle_incomplete ha
      generalize hf : Choice.nextFallback fallback leftover data
        (advanceSlots (first :: others) slots data) = next at h
      obtain ⟨fallback',leftover'⟩ := next
      cases h with
      | alternative hg hc hx =>
        obtain ⟨c,required,hc,ha⟩ := incomplete_of_nextSlot hg hc
        exact halternative hg hc ha hx
      | @fallback _ _ _ b =>
        have hb := congrArg Prod.fst hf
        have hl := congrArg Prod.snd hf
        rcases Choice.nextFallback_eq hb with hr | ⟨rfl,hold⟩
        · rw [hl] at hr
          obtain ⟨g,c,hg,hc,ha⟩ := getElem?_advanceSlots_some.mp hr
          exact halternative hg hc ha ⟨rfl,rfl⟩
        · rw [← hl,hold,List.append_assoc]
          exact .fallback
  | repetition item bounds ih =>
    obtain ⟨current,outputs,inProgress,rfl,hcurrent,_,hmax⟩ := hc.repetition
    rcases hmax with ⟨hmax,rfl,rfl⟩ | ⟨hmax,hm⟩
    · simp only [advance,Repetition.advance_of_max_zero hmax] at ha
      subst ha
      obtain ⟨rfl,rfl⟩ := h
      have hmin := bounds.min_le_max 0 hmax
      exact .enough (Bounds.contains_iff.mpr ⟨by simpa using hmin,by simp⟩)
    · exact completes_of_rounds ih ((advance_repetition hmax).mp ha) hcurrent hm h
  | mapped body t ih =>
    subst ha
    cases hb : body.advance c data with
    | error e =>
      simp only [advance,hb] at h
      exact absurd h id
    | ok outcome =>
      cases outcome with
      | incomplete c' required =>
        simp only [advance,hb] at h
        cases h with
        | mapped hx ho => exact .mapped (ih hc.mapped hb hx) ho
      | finished x left =>
        cases ho : t.apply x with
        | error e =>
          simp only [advance,hb,Transform.on,ho] at h
          exact absurd h id
        | ok y =>
          simp only [advance,hb,Transform.on,ho] at h
          obtain ⟨rfl,rfl⟩ := h
          exact .mapped (ih hc.mapped hb ⟨rfl,rfl⟩) ho

theorem Ready.completes_of_finished {g : Grammar} {c : Checkpoint} {data rest : Bytes} {o : Value}
    (hc : g.Ready c) (ha : g.advance c data = .ok (.finished o rest)) :
    g.Completes c data o rest := by
  have hv : g.Completes c (data ++ []) o rest := hc.completes ha ⟨rfl,(List.append_nil rest).symm⟩
  rwa [List.append_nil] at hv

theorem derives_of_finished {g : Grammar} {data rest : Bytes} {o : Value}
    (ha : g.advance g.initial data = .ok (.finished o rest)) :
    ∃ u, data = u ++ rest ∧ g.Derives u o :=
  (g.ready_initial.completes_of_finished ha).of_initial

theorem rest_le_of_finished {g : Grammar} {data rest : Bytes} {o : Value}
    (ha : g.advance g.initial data = .ok (.finished o rest)) : rest.length ≤ data.length := by
  obtain ⟨u,rfl,_⟩ := derives_of_finished ha
  rw [List.length_append]
  omega

theorem rest_lt_of_finished {g : Grammar} {data rest : Bytes} {o : Value}
    (hconsume : ∀ data o, g.advance g.initial data ≠ .ok (.finished o data))
    (ha : g.advance g.initial data = .ok (.finished o rest)) : rest.length < data.length := by
  obtain ⟨u,rfl,_⟩ := derives_of_finished ha
  cases u with
  | nil => exact absurd ha (hconsume rest o)
  | cons b u =>
    rw [List.length_append,List.length_cons]
    omega

theorem rest_of_finished_nil {g : Grammar} {rest : Bytes} {o : Value}
    (ha : g.advance g.initial [] = .ok (.finished o rest)) : rest = [] :=
  List.length_eq_zero_iff.mp (Nat.le_zero.mp (rest_le_of_finished ha))

theorem Fed.completes {g : Grammar} {c : Checkpoint} {w v rest : Bytes} {o : Value}
    (h : g.Fed w c) (hv : g.Completes c v o rest) : g.Completes g.initial (w ++ v) o rest := by
  induction h generalizing v with
  | start => exact hv
  | feed hfed ha ih =>
    rw [List.append_assoc]
    exact ih (hfed.ready.completes ha hv)

theorem Fed.derives {g : Grammar} {c : Checkpoint} {w v rest : Bytes} {o : Value}
    (h : g.Fed w c) (hv : g.Completes c v o rest) : ∃ u, w ++ v = u ++ rest ∧ g.Derives u o :=
  (h.completes hv).of_initial

/-- Matches are sound however the input is cut: the bytes fed up to a finish are a word of the
grammar, which yields the output, and after it the bytes that the last step left over. -/
theorem Fed.finished_sound {g : Grammar} {c : Checkpoint} {w data rest : Bytes} {o : Value}
    (h : g.Fed w c) (ha : g.advance c data = .ok (.finished o rest)) :
    ∃ u, w ++ data = u ++ rest ∧ g.Derives u o := by
  have hv : g.Completes c (data ++ []) o rest :=
    h.ready.completes ha ⟨rfl,(List.append_nil rest).symm⟩
  rw [List.append_nil] at hv
  exact h.derives hv

theorem finished_sound_fallback :
    ∃ u, utf8 "abcd" ++ utf8 "x" = u ++ utf8 "cdx" ∧
      (choice (.literal (utf8 "ab")) [.literal (utf8 "abcde")]).Derives u (.branch 0 .none) := by
  have hfirst : (choice (.literal (utf8 "ab")) [.literal (utf8 "abcde")]).Fed
      ([] ++ utf8 "abc") _ := .feed .start rfl
  exact (hfirst.feed rfl : Fed _ ([] ++ utf8 "abc" ++ utf8 "d") _).finished_sound rfl

end Grammar

end GuidedDecoding
