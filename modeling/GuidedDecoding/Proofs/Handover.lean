import GuidedDecoding.Proofs.Calls
import Mathlib.Data.List.Infix

/-!
Which tokens of a row are handed to its session. A call that fails at a token keeps what the tokens
before it have done, but does not count them, so the next call over the row hands them over once
more. There is no other way in which a token is handed over twice.
-/

set_option autoImplicit false

namespace GuidedDecoding.Masker

variable {α : Type}

structure Call (α : Type) where
  batch : List (List Int)
  scores : Scores α

def after (m : Masker) : List (Call α) → Masker
  | [] => m
  | c :: calls => after (m.call c.batch c.scores).masker calls

/-- Whether a token is fed to the session. It is not if it is passed over or does not decode. -/
def hands (m : Masker) (s : Session) (id : Int) : Bool := !m.skips s id && (m.chunkOf id).isOk

/-- The places of the tokens that are fed to the session, of tokens that begin at `place`. -/
def handed (m : Masker) (s : Session) (place : Nat) : List Int → List Nat
  | [] => []
  | id :: ids =>
    (if m.hands s id then [place] else []) ++
      match m.takeToken s id with
      | .ok next => handed m next (place + 1) ids
      | .error _ => []

def handOver (m : Masker) (s : Session) (id : Int) : Session :=
  match m.chunkOf id with
  | .error _ => s
  | .ok chunk =>
    match s.feed chunk with
    | .ok (_,next) => next
    | .error _ => s

/-- Feeds the tokens at some places of a row, one after the other. -/
def replay (m : Masker) (ids : List Int) (s : Session) (places : List Nat) : Session :=
  (places.filterMap (ids[·]?)).foldl m.handOver s

def firstPlace (m : Masker) (row : Row) : Nat := max (row.processed.getD 0) m.promptLength.toNat

/-- The places of a row whose tokens a call feeds to the row's session. -/
def handedIn (m : Masker) (index : Nat) (c : Call α) : List Nat :=
  match m.reached index c.batch c.scores with
  | some (old,ids) => m.handed old.session (m.firstPlace old) (ids.drop (m.firstPlace old))
  | none => []

def handedTo (m : Masker) (index : Nat) : List (Call α) → List Nat
  | [] => []
  | c :: calls => m.handedIn index c ++ handedTo (m.call c.batch c.scores).masker index calls

/-- What calls bring of a row. -/
def brought (index : Nat) (calls : List (Call α)) : List (List Int) :=
  calls.filterMap fun c => c.batch[index]?

/-- A call fails at one of the row's tokens, and has handed a token over, this one or another. -/
def breaksOff (m : Masker) (index : Nat) (c : Call α) : Bool :=
  match m.reached index c.batch c.scores with
  | some (old,ids) => (m.advanceRow old ids).2.isSome && !(m.handedIn index c).isEmpty
  | none => false

/-- One of the calls gets to the row. -/
def resumes (m : Masker) (index : Nat) : List (Call α) → Bool
  | [] => false
  | c :: calls =>
    (m.reached index c.batch c.scores).isSome ||
      resumes (m.call c.batch c.scores).masker index calls

/-- After a call that breaks off in the row, another one gets to it. -/
def retries (m : Masker) (index : Nat) : List (Call α) → Bool
  | [] => false
  | c :: calls =>
    m.breaksOff index c && (m.call c.batch c.scores).masker.resumes index calls ||
      retries (m.call c.batch c.scores).masker index calls

variable {m m' : Masker} {s s' : Session} {old row : Row} {index place p : Nat}
  {ids ids' part : List Int} {id : Int} {places : List Nat}
  {c : Call α} {calls : List (Call α)} {f : Fault}

theorem takeToken_cases (m : Masker) (s : Session) (id : Int) :
    (m.skips s id = true ∧ m.hands s id = false ∧ m.takeToken s id = .ok s) ∨
      (m.skips s id = false ∧ m.hands s id = false ∧ ∃ f, m.takeToken s id = .error f) ∨
      m.skips s id = false ∧ m.hands s id = true ∧
        (m.takeToken s id = .ok (m.handOver s id) ∨
          ∃ f, m.takeToken s id = .error f ∧ m.handOver s id = s) := by
  unfold takeToken hands handOver
  cases hskips : m.skips s id with
  | true => exact .inl ⟨rfl,rfl,rfl⟩
  | false =>
    refine .inr ?_
    cases m.chunkOf id with
    | error f => exact .inl ⟨rfl,rfl,f,rfl⟩
    | ok chunk =>
      refine .inr ⟨rfl,rfl,?_⟩
      rcases hfeed : s.feed chunk with (e | f) | ⟨o,next⟩
      · exact .inl (by simp [hfeed])
      · exact .inr ⟨f,by simp [hfeed],by simp [hfeed]⟩
      · exact .inl (by simp [hfeed])

theorem isFinished_of_skips (h : m.skips s id = false) : s.isFinished = false := by
  unfold skips at h
  exact (Bool.or_eq_false_iff.mp h).2

theorem handed_of_skips (h : m.skips s id = true) (place : Nat) (ids : List Int) :
    m.handed s place (id :: ids) = m.handed s (place + 1) ids := by
  have hhands : m.hands s id = false := by
    unfold hands
    rw [h]
    rfl
  have htake : m.takeToken s id = .ok s := by
    unfold takeToken
    rw [if_pos h]
  simp only [handed,hhands,htake,Bool.false_eq_true,if_false,List.nil_append]

theorem handed_of_finished (h : s.isFinished = true) (place : Nat) (ids : List Int) :
    m.handed s place ids = [] := by
  induction ids generalizing place with
  | nil => rfl
  | cons id ids ih =>
    have hskips : m.skips s id = true := by
      unfold skips
      rw [h,Bool.or_true]
    rw [handed_of_skips hskips,ih]

theorem skips_eq (h : s.isFinished = false) (h' : s'.isFinished = false) (id : Int) :
    m.skips s' id = m.skips s id := by
  unfold skips
  rw [h,h']

theorem isFinished_of_takeTokens (h : m.takeTokens s ids = (s',some f)) :
    s'.isFinished = false := by
  induction ids generalizing s with
  | nil => cases h
  | cons id ids ih =>
    unfold takeTokens at h
    cases htake : m.takeToken s id with
    | ok next =>
      simp only [htake] at h
      exact ih h
    | error f' =>
      simp only [htake] at h
      obtain ⟨rfl,_⟩ := Prod.mk.inj h
      obtain ⟨_,_,hok⟩ | ⟨hskips,_⟩ | ⟨hskips,_⟩ := m.takeToken_cases s id
      · rw [htake] at hok
        cases hok
      · exact isFinished_of_skips hskips
      · exact isFinished_of_skips hskips

theorem handed_sorted (m : Masker) (s : Session) (place : Nat) (ids : List Int) :
    (m.handed s place ids).Pairwise (· < ·) ∧
      ∀ p ∈ m.handed s place ids, place ≤ p ∧ p < place + ids.length := by
  induction ids generalizing s place with
  | nil => exact ⟨.nil,List.forall_mem_nil _⟩
  | cons id ids ih =>
    obtain ⟨later,heq,hsorted,hbounds⟩ : ∃ later, m.handed s place (id :: ids) =
        (if m.hands s id then [place] else []) ++ later ∧ later.Pairwise (· < ·) ∧
          ∀ p ∈ later, place + 1 ≤ p ∧ p < place + 1 + ids.length := by
      unfold handed
      cases m.takeToken s id with
      | ok next => exact ⟨_,rfl,ih next (place + 1)⟩
      | error f => exact ⟨[],rfl,.nil,List.forall_mem_nil _⟩
    rw [heq,List.length_cons]
    split
    · refine ⟨List.pairwise_cons.mpr ⟨fun p hp => (hbounds p hp).1,hsorted⟩,
        List.forall_mem_cons.mpr ⟨by omega,fun p hp => ?_⟩⟩
      have := hbounds p hp
      omega
    · refine ⟨hsorted,fun p hp => ?_⟩
      have := hbounds p hp
      omega

theorem handed_again (h : m.handed s place ids = p :: places) (hs' : s'.isFinished = false)
    (hgrows : ids <+: ids') : p ∈ m.handed s' place ids' := by
  have hs : s.isFinished = false := by
    cases hfinished : s.isFinished with
    | false => rfl
    | true =>
      rw [handed_of_finished hfinished] at h
      cases h
  induction ids generalizing place ids' with
  | nil => cases h
  | cons id ids ih =>
    obtain ⟨more,rfl⟩ := hgrows
    have heq := skips_eq hs hs' id (m := m)
    rw [List.cons_append]
    obtain ⟨hskips,_⟩ | ⟨_,hhands,f,htake⟩ | ⟨_,hhands,_⟩ := m.takeToken_cases s id
    · rw [handed_of_skips hskips] at h
      rw [handed_of_skips (heq.trans hskips)]
      exact ih h (List.prefix_append ids more)
    · simp only [handed,hhands,htake,Bool.false_eq_true,if_false,List.nil_append] at h
      cases h
    · have hhands' : m.hands s' id = true := by
        unfold hands at hhands ⊢
        rw [heq,hhands]
      simp only [handed,hhands,if_true,List.cons_append] at h
      obtain ⟨rfl,_⟩ := List.cons.inj h
      simp only [handed,hhands',if_true]
      exact List.mem_append_left _ (List.mem_singleton_self _)

theorem cons_prefix_drop (h : id :: part <+: ids.drop place) :
    ids[place]? = some id ∧ part <+: ids.drop (place + 1) := by
  obtain ⟨more,hmore⟩ := h
  constructor
  · rw [← List.head?_drop,← hmore]
    rfl
  · rw [← List.tail_drop,← hmore]
    exact List.prefix_append part more

theorem takeTokens_replay (h : part <+: ids.drop place) :
    (m.takeTokens s part).1 = m.replay ids s (m.handed s place part) := by
  induction part generalizing s place with
  | nil => rfl
  | cons id part ih =>
    obtain ⟨hid,hrest⟩ := cons_prefix_drop h
    unfold takeTokens handed
    obtain ⟨_,hhands,htake⟩ | ⟨_,hhands,f,htake⟩ | ⟨_,hhands,htake | ⟨f,htake,hover⟩⟩ :=
      m.takeToken_cases s id
    · simp only [htake,hhands,Bool.false_eq_true,if_false,List.nil_append]
      exact ih hrest
    · simp only [htake,hhands,Bool.false_eq_true,if_false,List.append_nil]
      rfl
    · simp only [htake,hhands,if_true]
      rw [ih hrest]
      simp only [replay,List.filterMap_append,List.filterMap_cons,List.filterMap_nil,hid,
        List.foldl_append,List.foldl_cons,List.foldl_nil]
    · simp only [htake,hhands,if_true,List.append_nil]
      simp only [replay,List.filterMap_cons,List.filterMap_nil,hid,List.foldl_cons,
        List.foldl_nil,hover]

theorem SameSetup.handed_eq (h : m.SameSetup m') (s : Session) (place : Nat) (ids : List Int) :
    m'.handed s place ids = m.handed s place ids := by
  obtain ⟨rows,rfl⟩ : ∃ rows, m' = { m with rows := rows } := ⟨_,h⟩
  induction ids generalizing s place with
  | nil => rfl
  | cons id ids ih =>
    have hhands : ({ m with rows := rows } : Masker).hands s id = m.hands s id := rfl
    have htake : ({ m with rows := rows } : Masker).takeToken s id = m.takeToken s id := rfl
    simp only [handed,hhands,htake,ih]

theorem SameSetup.replay_eq (h : m.SameSetup m') (s : Session) (places : List Nat) :
    m'.replay ids s places = m.replay ids s places := by
  obtain ⟨rows,rfl⟩ : ∃ rows, m' = { m with rows := rows } := ⟨_,h⟩
  rfl

theorem SameSetup.firstPlace_eq (h : m.SameSetup m') (row : Row) :
    m'.firstPlace row = m.firstPlace row := by
  rw [h]
  rfl

theorem replay_append (ids : List Int) (s : Session) (places places' : List Nat) :
    m.replay ids s (places ++ places') = m.replay ids (m.replay ids s places) places' := by
  simp only [replay,List.filterMap_append,List.foldl_append]

theorem advanceRow_cases (m : Masker) (old : Row) (part : List Int) :
    ∃ s, s = (m.takeTokens old.session (part.drop (m.firstPlace old))).1 ∧
      (m.advanceRow old part = (⟨s,some part.length⟩,none) ∨
        ∃ f, s.isFinished = false ∧ m.advanceRow old part = (⟨s,old.processed⟩,some f)) := by
  have hfresh : m.freshTokens old part = part.drop (m.firstPlace old) := rfl
  unfold advanceRow
  rw [hfresh]
  rcases htake : m.takeTokens old.session (part.drop (m.firstPlace old)) with ⟨s,_ | f⟩
  · exact ⟨s,rfl,.inl rfl⟩
  · exact ⟨s,rfl,.inr ⟨f,isFinished_of_takeTokens htake,rfl⟩⟩

theorem call_of_reached (h : m.reached index c.batch c.scores = some (old,part)) :
    c.batch[index]? = some part ∧ m.row index = .ok old ∧
      (m.call c.batch c.scores).masker.row index = .ok (m.advanceRow old part).1 ∧
      m.handedIn index c =
        m.handed old.session (m.firstPlace old) (part.drop (m.firstPlace old)) := by
  obtain ⟨hpart,hold,hrow⟩ := rows_call_of_reached h
  refine ⟨hpart,hold,?_,?_⟩
  · simp only [Masker.row,hrow]
  · simp only [handedIn,h]

theorem call_of_not_reached (h : m.reached index c.batch c.scores = none) :
    (m.call c.batch c.scores).masker.row index = m.row index ∧ m.handedIn index c = [] := by
  refine ⟨(m.sameSetup_call _ _).row_eq (rows_call_of_not_reached h),?_⟩
  simp only [handedIn,h]

theorem brought_cons (h : c.batch[index]? = some part) :
    brought index (c :: calls) = part :: brought index calls := by
  simp only [brought,List.filterMap_cons,h]

theorem mem_brought (h : c.batch[index]? = some part) : part ∈ brought index (c :: calls) := by
  rw [brought_cons h]
  exact List.mem_cons_self

theorem brought_subset (h : part ∈ brought index calls) : part ∈ brought index (c :: calls) := by
  obtain ⟨c',hc,hpart⟩ := List.mem_filterMap.mp h
  exact List.mem_filterMap.mpr ⟨c',List.mem_cons_of_mem c hc,hpart⟩

/-- The session of a row is where those of its tokens lead that were handed over. -/
theorem replay_handedTo (hold : m.row index = .ok old)
    (hparts : ∀ part ∈ brought index calls, part <+: ids) :
    ∃ row, (m.after calls).row index = .ok row ∧
      row.session = m.replay ids old.session (m.handedTo index calls) := by
  induction calls generalizing m old with
  | nil => exact ⟨old,hold,rfl⟩
  | cons c calls ih =>
    have hsetup := m.sameSetup_call c.batch c.scores
    have hlater := fun part hpart => hparts part (brought_subset hpart)
    unfold after handedTo
    cases hreached : m.reached index c.batch c.scores with
    | none =>
      obtain ⟨hrow,hhanded⟩ := call_of_not_reached hreached
      obtain ⟨row,hafter,hsession⟩ := ih (hrow.trans hold) hlater
      refine ⟨row,hafter,?_⟩
      rw [hsession,hsetup.replay_eq,hhanded,List.nil_append]
    | some reached =>
      obtain ⟨old',part⟩ := reached
      obtain ⟨hpart,hold',hrow,hhanded⟩ := call_of_reached hreached
      rw [hold] at hold'
      obtain rfl := Except.ok.inj hold'
      obtain ⟨row,hafter,hsession⟩ := ih hrow hlater
      have hadvanced : (m.advanceRow old part).1.session =
          m.replay ids old.session (m.handedIn index c) := by
        rw [hhanded,← takeTokens_replay (List.IsPrefix.drop (hparts part (mem_brought hpart)) _)]
        obtain ⟨s,rfl,heq | ⟨f,_,heq⟩⟩ := m.advanceRow_cases old part
        · rw [heq]
        · rw [heq]
      refine ⟨row,hafter,?_⟩
      rw [hsession,hsetup.replay_eq,replay_append,hadvanced]

theorem handedTo_bounds (hparts : ∀ part ∈ brought index calls, part <+: ids) :
    ∀ p ∈ m.handedTo index calls, m.promptLength.toNat ≤ p ∧ p < ids.length := by
  induction calls generalizing m with
  | nil => exact List.forall_mem_nil _
  | cons c calls ih =>
    have hprompt : (m.call c.batch c.scores).masker.promptLength = m.promptLength := by
      rw [m.sameSetup_call c.batch c.scores]
    have htail := ih (m := (m.call c.batch c.scores).masker)
      fun part hpart => hparts part (brought_subset hpart)
    rw [hprompt] at htail
    unfold handedTo
    refine List.forall_mem_append.mpr ⟨fun p hp => ?_,htail⟩
    cases hreached : m.reached index c.batch c.scores with
    | none =>
      rw [(call_of_not_reached hreached).2] at hp
      cases hp
    | some reached =>
      obtain ⟨hpart,_,_,hhanded⟩ := call_of_reached hreached
      rw [hhanded] at hp
      have hbounds := (m.handed_sorted _ _ _).2 p hp
      have hlength := (hparts _ (mem_brought hpart)).length_le
      have hfirst : m.promptLength.toNat ≤ m.firstPlace reached.1 := Nat.le_max_right _ _
      rw [List.length_drop] at hbounds
      omega

theorem handedTo_of_not_resumes (h : m.resumes index calls = false) :
    m.handedTo index calls = [] := by
  induction calls generalizing m with
  | nil => rfl
  | cons c calls ih =>
    obtain ⟨hreached,hrest⟩ := Bool.or_eq_false_iff.mp h
    unfold handedTo
    rw [(call_of_not_reached (Option.isNone_iff_eq_none.mp (by simpa using hreached))).2,ih hrest]
    rfl

theorem mem_handedTo_of_resumes (hold : m.row index = .ok old)
    (hrunning : old.session.isFinished = false)
    (hdue : m.handed s (m.firstPlace old) (part.drop (m.firstPlace old)) = p :: places)
    (hparts : ∀ part' ∈ brought index calls, part <+: part') (h : m.resumes index calls = true) :
    p ∈ m.handedTo index calls := by
  induction calls generalizing m with
  | nil => cases h
  | cons c calls ih =>
    have hsetup := m.sameSetup_call c.batch c.scores
    unfold handedTo
    cases hreached : m.reached index c.batch c.scores with
    | none =>
      unfold resumes at h
      rw [hreached,Option.isSome_none,Bool.false_or] at h
      obtain ⟨hrow,_⟩ := call_of_not_reached hreached
      rw [← hsetup.handed_eq,← hsetup.firstPlace_eq] at hdue
      exact List.mem_append_right _ (ih (hrow.trans hold) hdue
        (fun part' hpart' => hparts part' (brought_subset hpart')) h)
    | some reached =>
      obtain ⟨old',part'⟩ := reached
      obtain ⟨hpart',hold',_,hhanded⟩ := call_of_reached hreached
      rw [hold] at hold'
      obtain rfl := Except.ok.inj hold'
      rw [hhanded]
      exact List.mem_append_left _
        (handed_again hdue hrunning (List.IsPrefix.drop (hparts part' (mem_brought hpart')) _))

theorem breaksOff_cases (h : m.breaksOff index c = true) :
    ∃ old part p places, c.batch[index]? = some part ∧
      m.handed old.session (m.firstPlace old) (part.drop (m.firstPlace old)) = p :: places ∧
      p ∈ m.handedIn index c ∧
      ∃ s, s.isFinished = false ∧
        (m.call c.batch c.scores).masker.row index = .ok ⟨s,old.processed⟩ := by
  unfold breaksOff at h
  cases hreached : m.reached index c.batch c.scores with
  | none => simp [hreached] at h
  | some reached =>
    obtain ⟨old,part⟩ := reached
    simp only [hreached,Bool.and_eq_true,Bool.not_eq_true',List.isEmpty_eq_false_iff] at h
    obtain ⟨hfault,hnonempty⟩ := h
    obtain ⟨hpart,_,hrow,hhanded⟩ := call_of_reached hreached
    obtain ⟨p,places,hfirst⟩ := List.exists_cons_of_ne_nil hnonempty
    obtain ⟨s,_,heq | ⟨f,hs,heq⟩⟩ := m.advanceRow_cases old part
    · simp [heq] at hfault
    · rw [heq] at hrow
      refine ⟨old,part,p,places,hpart,hhanded.symm.trans hfirst,?_,s,hs,hrow⟩
      rw [hfirst]
      exact List.mem_cons_self

/-- `m.Ahead index first calls`: the row goes on at `first` or behind it, and what the calls bring
of it grows from what it has counted. -/
structure Ahead (m : Masker) (index first : Nat) (calls : List (Call α)) : Prop where
  start : ∀ {old}, m.row index = .ok old → first ≤ m.firstPlace old
  counted : ∀ {old}, m.row index = .ok old →
    ∀ part ∈ brought index calls, old.processed.getD 0 ≤ part.length
  grows : (brought index calls).Pairwise (· <+: ·)

theorem Ahead.of_uncounted {first : Nat} (h : m.Ahead index first (c :: calls))
    (hsetup : m.SameSetup m') (hrow : ∀ {row}, m'.row index = .ok row →
      ∃ old, m.row index = .ok old ∧ row.processed = old.processed) :
    m'.Ahead index first calls := by
  refine ⟨fun hold => ?_,fun hold part hpart => ?_,
    h.grows.sublist ((List.sublist_cons_self c calls).filterMap _)⟩
  · obtain ⟨old,hold,hprocessed⟩ := hrow hold
    rw [hsetup.firstPlace_eq]
    unfold firstPlace
    rw [hprocessed]
    exact h.start hold
  · obtain ⟨old,hold,hprocessed⟩ := hrow hold
    rw [hprocessed]
    exact h.counted hold part (brought_subset hpart)

theorem Ahead.of_counted {first : Nat} (h : m.Ahead index first (c :: calls))
    (hsetup : m.SameSetup m') (hpart : c.batch[index]? = some part)
    (hrow : m'.row index = .ok ⟨s,some part.length⟩) :
    m'.Ahead index (max part.length m.promptLength.toNat) calls := by
  have hgrows := h.grows
  rw [brought_cons hpart] at hgrows
  obtain ⟨hgrown,hlater⟩ := List.pairwise_cons.mp hgrows
  refine ⟨fun hold => ?_,fun hold part' hpart' => ?_,hlater⟩
  · obtain rfl := Except.ok.inj (hrow.symm.trans hold)
    rw [hsetup.firstPlace_eq]
    exact Nat.le_refl _
  · obtain rfl := Except.ok.inj (hrow.symm.trans hold)
    exact (hgrown part' hpart').length_le

theorem Ahead.sorted {first : Nat} (h : m.Ahead index first calls)
    (hretries : m.retries index calls = false) :
    (m.handedTo index calls).Pairwise (· < ·) ∧ ∀ p ∈ m.handedTo index calls, first ≤ p := by
  induction calls generalizing m first with
  | nil => exact ⟨.nil,List.forall_mem_nil _⟩
  | cons c calls ih =>
    have hsetup := m.sameSetup_call c.batch c.scores
    obtain ⟨hbroken,hrest⟩ := Bool.or_eq_false_iff.mp hretries
    unfold handedTo
    cases hreached : m.reached index c.batch c.scores with
    | none =>
      obtain ⟨hrow,hhanded⟩ := call_of_not_reached hreached
      rw [hhanded,List.nil_append]
      exact ih (h.of_uncounted hsetup fun hold => ⟨_,hrow.symm.trans hold,rfl⟩) hrest
    | some reached =>
      obtain ⟨old,part⟩ := reached
      obtain ⟨hpart,hold,hrow,hhanded⟩ := call_of_reached hreached
      obtain ⟨hsorted,hbounds⟩ :=
        m.handed_sorted old.session (m.firstPlace old) (part.drop (m.firstPlace old))
      rw [← hhanded] at hsorted hbounds
      rw [List.length_drop] at hbounds
      have hstart := h.start hold
      obtain ⟨s,_,heq | ⟨f,_,heq⟩⟩ := m.advanceRow_cases old part
      · -- The tokens are counted, so later calls go on behind all that this one hands over.
        rw [heq] at hrow
        obtain ⟨hsorted',hbounds'⟩ := ih (h.of_counted hsetup hpart hrow) hrest
        have hle : m.firstPlace old ≤ max part.length m.promptLength.toNat := by
          have := h.counted hold part (mem_brought hpart)
          unfold firstPlace
          omega
        refine ⟨List.pairwise_append.mpr ⟨hsorted,hsorted',fun p hp q hq => ?_⟩,
          List.forall_mem_append.mpr ⟨fun p hp => ?_,fun q hq => ?_⟩⟩
        · have := hbounds p hp
          have := hbounds' q hq
          omega
        · exact Nat.le_trans hstart (hbounds p hp).1
        · exact Nat.le_trans (Nat.le_trans hstart hle) (hbounds' q hq)
      · cases hempty : m.handedIn index c with
        | nil =>
          rw [heq] at hrow
          refine ih (h.of_uncounted hsetup fun hold' => ⟨old,hold,?_⟩) hrest
          obtain rfl := Except.ok.inj (hrow.symm.trans hold')
          rfl
        | cons p places =>
          have hbreaks : m.breaksOff index c = true := by
            simp [breaksOff,hreached,heq,hempty]
          rw [hbreaks,Bool.true_and] at hbroken
          rw [handedTo_of_not_resumes hbroken,List.append_nil,← hempty]
          exact ⟨hsorted,fun p hp => Nat.le_trans hstart (hbounds p hp).1⟩

theorem not_nodup_of_retries (hgrows : (brought index calls).Pairwise (· <+: ·))
    (h : m.retries index calls = true) : ¬ (m.handedTo index calls).Nodup := by
  induction calls generalizing m with
  | nil => cases h
  | cons c calls ih =>
    have hsetup := m.sameSetup_call c.batch c.scores
    intro hnodup
    obtain ⟨_,htail,hdisjoint⟩ := List.nodup_append.mp hnodup
    obtain hbroken | hlater := Bool.or_eq_true_iff.mp h
    · obtain ⟨hbreaks,hresumes⟩ := Bool.and_eq_true_iff.mp hbroken
      obtain ⟨old,part,p,places,hpart,hfirst,hp,s,hs,hrow⟩ := breaksOff_cases hbreaks
      rw [brought_cons hpart] at hgrows
      rw [← hsetup.handed_eq,← hsetup.firstPlace_eq] at hfirst
      have hagain :=
        mem_handedTo_of_resumes hrow hs hfirst (List.pairwise_cons.mp hgrows).1 hresumes
      exact hdisjoint p hp p hagain rfl
    · exact ih (hgrows.sublist ((List.sublist_cons_self c calls).filterMap _)) hlater htail

/-- The tokens behind the prompt are handed to a growing row's session in some order, and the
session is where they lead. Each of them is handed over once at most just if no call goes on in the
row behind one that has failed there with a token handed over: that token is handed over again. -/
theorem handed_once_iff (hrows : m.rows = [])
    (hgrows : (brought index calls ++ [ids]).Pairwise (· <+: ·)) :
    (∀ p ∈ m.handedTo index calls, m.promptLength.toNat ≤ p ∧ p < ids.length) ∧
      (∀ s, Session.start m.grammar = .ok s → ∃ row, (m.after calls).row index = .ok row ∧
        row.session = m.replay ids s (m.handedTo index calls)) ∧
      ((m.handedTo index calls).Nodup ↔ m.retries index calls = false) := by
  obtain ⟨hbrought,_,hparts⟩ := List.pairwise_append.mp hgrows
  have hwhole : ∀ part ∈ brought index calls, part <+: ids := fun part hpart =>
    hparts part hpart ids (List.mem_singleton_self ids)
  refine ⟨handedTo_bounds hwhole,fun s hs => ?_,fun hnodup => ?_,fun hretries => ?_⟩
  · exact replay_handedTo ((row_fresh hrows).mpr ⟨s,hs,rfl⟩) hwhole
  · cases hretries : m.retries index calls with
    | false => rfl
    | true => exact absurd hnodup (not_nodup_of_retries hbrought hretries)
  · have hahead : m.Ahead index 0 calls := by
      refine ⟨fun _ => Nat.zero_le _,fun hold _ _ => ?_,hbrought⟩
      obtain ⟨s,_,rfl⟩ := (row_fresh hrows).mp hold
      exact Nat.zero_le _
    exact (hahead.sorted hretries).1.imp Nat.ne_of_lt

def gapMasker : Masker where
  grammar := .literal (utf8 "aa")
  tokenizer := {
    converter := fun id => if id = 0 then .ok (.bytes (utf8 "a")) else .error "no such token"
    size := 1 }
  allowsEnd := true
  special := []
  promptLength := 0
  vocabulary := [(0,.bytes (utf8 "a"))]
  rows := []

def gapCall (ids : List Int) : Call Nat := ⟨[ids],⟨some 1,[[.other 0]]⟩⟩

def gapCalls : List (Call Nat) := [gapCall [0],gapCall [0,1],gapCall [0,1],gapCall [0,1,0]]

theorem handed_once_behind_gap :
    gapMasker.handedTo 0 gapCalls = [0] ∧ (gapMasker.handedTo 0 gapCalls).Nodup ∧
      ∃ s row, Session.start gapMasker.grammar = .ok s ∧
        (gapMasker.after gapCalls).row 0 = .ok row ∧
        row.session = gapMasker.replay [0,1,0] s [0] := by
  have hgrows : (brought 0 gapCalls ++ [[0,1,0]]).Pairwise (· <+: ·) := by decide
  have hhanded : gapMasker.handedTo 0 gapCalls = [0] := by decide +kernel
  have hstart : Session.start gapMasker.grammar = .ok _ := rfl
  obtain ⟨_,hsession,hnodup⟩ := handed_once_iff (m := gapMasker) rfl hgrows
  obtain ⟨row,hrow,hreplay⟩ := hsession _ hstart
  rw [hhanded] at hreplay
  exact ⟨hhanded,hnodup.mpr (by decide +kernel),_,row,hstart,hrow,hreplay⟩

/-- A letter that comes together with the gap is handed over by each call, and finishes the parse
though it was generated once. -/
theorem handed_twice_before_gap :
    gapMasker.rows = [] ∧ (brought 0 [gapCall [0,1],gapCall [0,1]]).Pairwise (· <+: ·) ∧
      gapMasker.handedTo 0 [gapCall [0,1],gapCall [0,1]] = [0,0] ∧
      ¬ (gapMasker.handedTo 0 [gapCall [0,1],gapCall [0,1]]).Nodup ∧
      (gapMasker.after [gapCall [0,1],gapCall [0,1]]).rows.map
        (fun row => (row.session.steps,row.session.isFinished)) = [(2,true)] :=
  ⟨rfl,by decide,by decide +kernel,by decide +kernel,by decide +kernel⟩

end GuidedDecoding.Masker
