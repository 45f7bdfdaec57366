import GuidedDecoding.Proofs.Masks

/-!
Generations under a mask. A masker is called once for the prompts and then once for every token,
which has to be one that the call before left open. Each call takes that token into the row's
session and masks what may not follow it, so no token is ever refused: what the session of a row has
been fed is just what was generated, and when it finishes, that is a word of the grammar.
-/

set_option autoImplicit false

namespace GuidedDecoding

namespace Session

/-- `Committed g pieces s`: `s` has been fed `pieces`, one by one, since it was started over `g`. -/
inductive Committed (g : Grammar) : List Bytes → Session → Prop where
  | start {s} : Session.start g = .ok s → Committed g [] s
  | feed {pieces s data o s'} :
      Committed g pieces s → s.feed (.bytes data) = .ok (o,s') → Committed g (pieces ++ [data]) s'

variable {g : Grammar} {pieces : List Bytes} {s : Session}

theorem Committed.reached (h : Committed g pieces s) : Reached g pieces.flatten s := by
  induction h with
  | start hs => exact .start hs
  | feed _ hfeed ih =>
    rw [List.flatten_append,List.flatten_singleton]
    exact ih.feed rfl hfeed

theorem Committed.steps (h : Committed g pieces s) : s.steps = pieces.length := by
  induction h with
  | start hs => exact (fresh_of_start hs).1
  | @feed pieces s data o s' _ hfeed ih =>
    obtain ⟨_,_,_,_,_,rfl⟩ := feed_ok rfl hfeed
    rw [List.length_append,List.length_singleton,← ih]
    cases o <;> rfl

theorem Committed.derives {o : Value} {rest : Bytes} (h : Committed g pieces s)
    (hp : s.phase = .finished o rest) : ∃ u, pieces.flatten = u ++ rest ∧ g.Derives u o := by
  cases h with
  | start hs =>
    unfold Session.start at hs
    split at hs <;> cases hs <;> cases hp
  | @feed pieces s₀ data outcome _ hs hfeed =>
    obtain ⟨c,required,canStop,hrun,ha,rfl⟩ := feed_ok rfl hfeed
    have hrunning := hs.reached.running
    have hfed := hrunning.fed hrun
    cases outcome with
    | incomplete c' required' => cases hp
    | finished o' rest' =>
      cases hp
      rw [hrunning.grammar] at ha
      rw [List.flatten_append,List.flatten_singleton]
      exact hfed.derives (hfed.ready.completes_of_finished ha)

end Session

namespace Masker

variable {α : Type} {m : Masker} {width index k : Nat} {ids : List Int} {batch : List (List Int)}
  {scores : List (List (Score α))} {old row : Row} {id : Int}

def SameSetup (m m' : Masker) : Prop := m' = { m with rows := m'.rows }

theorem SameSetup.trans {m m' m'' : Masker} (h : m.SameSetup m') (h' : m'.SameSetup m'') :
    m.SameSetup m'' := by
  unfold SameSetup at h h' ⊢
  rw [h] at h'
  exact h'

theorem takeTokens_rows (m : Masker) (rows : List Row) (s : Session) (ids : List Int) :
    ({ m with rows := rows } : Masker).takeTokens s ids = m.takeTokens s ids := by
  induction ids generalizing s with
  | nil => rfl
  | cons id ids ih =>
    have htake : ({ m with rows := rows } : Masker).takeToken s id = m.takeToken s id := rfl
    simp only [takeTokens,htake,ih]

theorem advanceRow_rows (m : Masker) (rows : List Row) (row : Row) (ids : List Int) :
    ({ m with rows := rows } : Masker).advanceRow row ids = m.advanceRow row ids := by
  have hfresh :
      ({ m with rows := rows } : Masker).freshTokens row ids = m.freshTokens row ids := rfl
  simp only [advanceRow,takeTokens_rows,hfresh]

/-- A call has taken the new tokens of a row and masked its scores by the session's new state. -/
structure Served (m : Masker) (width : Nat) (ids : List Int) (old row : Row)
    (after : List (Score α)) :
    Prop where
  advanced : m.advanceRow old ids = (row,none)
  masked : ∃ mask before, m.mask row.session width = .ok mask ∧ after = mask.apply before

theorem Served.of_rows {rows : List Row} {after : List (Score α)}
    (h : ({ m with rows := rows } : Masker).Served width ids old row after) :
    m.Served width ids old row after := by
  obtain ⟨hadvanced,hmasked⟩ := h
  rw [advanceRow_rows] at hadvanced
  exact ⟨hadvanced,hmasked⟩

theorem getElem?_putRow (hindex : index ≤ m.rows.length) (row : Row) (j : Nat) :
    (m.putRow index row).rows[j]? = if j = index then some row else m.rows[j]? := by
  unfold putRow
  simp only
  split
  · grind
  · grind

theorem length_putRow (hindex : index ≤ m.rows.length) (row : Row) :
    (m.putRow index row).rows.length = max m.rows.length (index + 1) := by
  unfold putRow
  simp only
  split
  · rw [List.length_set]
    omega
  · rw [List.length_append,List.length_singleton]
    omega

theorem callRow_ok (h : (m.callRow width index ids scores).fault = none) :
    ∃ old row after, m.row index = .ok old ∧ m.Served width ids old row after ∧
      index < scores.length ∧
      m.callRow width index ids scores = ⟨m.putRow index row,scores.set index after,none⟩ := by
  unfold callRow at h ⊢
  cases hold : m.row index with
  | error f => simp [hold] at h
  | ok old =>
    rcases hadvanced : m.advanceRow old ids with ⟨row,_ | f⟩
    · have hmask : (m.putRow index row).mask row.session width = m.mask row.session width := rfl
      simp only [hold,hadvanced,hmask] at h ⊢
      cases hm : m.mask row.session width with
      | error f => simp [hm] at h
      | ok mask =>
        simp only [hm,maskRow] at h ⊢
        cases hbefore : scores[index]? with
        | none => simp [hbefore] at h
        | some before =>
          exact ⟨old,row,mask.apply before,rfl,⟨hadvanced,mask,before,hm,rfl⟩,
            (List.getElem?_eq_some_iff.mp hbefore).1,rfl⟩
    · simp [hold,hadvanced] at h

structure Called (m : Masker) (width index : Nat) (scores : List (List (Score α)))
    (batch : List (List Int)) (result : Result α) : Prop where
  setup : m.SameSetup result.masker
  length : result.masker.rows.length = max m.rows.length (index + batch.length)
  untouched : ∀ j < index, result.masker.rows[j]? = m.rows[j]? ∧ result.scores[j]? = scores[j]?
  served : ∀ {k ids}, batch[k]? = some ids → ∃ old row after, m.row (index + k) = .ok old ∧
    m.Served width ids old row after ∧ result.masker.rows[index + k]? = some row ∧
    result.scores[index + k]? = some after

theorem SameSetup.row_eq {m' : Masker} (h : m.SameSetup m') (hrows : m'.rows[k]? = m.rows[k]?) :
    m'.row k = m.row k := by
  have hgrammar : m'.grammar = m.grammar := by rw [h]
  simp only [Masker.row,hrows,hgrammar]

theorem called_of_callRows (hindex : index ≤ m.rows.length)
    (h : (m.callRows width index scores batch).fault = none) :
    m.Called width index scores batch (m.callRows width index scores batch) := by
  -- The head puts row `index` alone, and the tail touches only rows after it.
  induction batch generalizing m index scores with
  | nil =>
    refine ⟨rfl,?_,fun j _ => ⟨rfl,rfl⟩,nofun⟩
    simp only [callRows,List.length_nil]
    omega
  | cons ids batch ih =>
    have hhead : (m.callRow width index ids scores).fault = none := by
      unfold callRows at h
      simp only at h
      split at h
      · rename_i f hf
        rw [hf] at h
        cases h
      · assumption
    obtain ⟨old,row,after,hold,hserved,hlength,hcall⟩ := callRow_ok hhead
    have heq : m.callRows width index scores (ids :: batch) =
        (m.putRow index row).callRows width (index + 1) (scores.set index after) batch := by
      simp only [callRows,hcall]
    rw [heq] at h ⊢
    have hput := length_putRow hindex row
    have htail := ih (by omega) h
    refine ⟨htail.setup,?_,fun j hj => ?_,?_⟩
    · rw [htail.length,hput,List.length_cons]
      omega
    · obtain ⟨hrows,hscores⟩ := htail.untouched j (by omega)
      rw [hrows,hscores,getElem?_putRow hindex,if_neg (by omega),
        List.getElem?_set_ne (by omega)]
      exact ⟨rfl,rfl⟩
    · rintro (_ | k) ids' hids
      · obtain rfl := Option.some.inj hids
        obtain ⟨hrows,hscores⟩ := htail.untouched index (by omega)
        refine ⟨old,row,after,hold,hserved,hrows.trans ?_,hscores.trans ?_⟩
        · rw [getElem?_putRow hindex,if_pos rfl]
        · rw [List.getElem?_set_self hlength]
      · obtain ⟨old',row',after',hold',hserved',hrow',hafter'⟩ := htail.served hids
        have hshift : index + 1 + k = index + (k + 1) := by omega
        rw [hshift] at hold' hrow' hafter'
        refine ⟨old',row',after',?_,.of_rows hserved',hrow',hafter'⟩
        rw [← hold']
        have hsetup : m.SameSetup (m.putRow index row) := rfl
        exact (hsetup.row_eq (by rw [getElem?_putRow hindex,if_neg (by omega)])).symm

/-- The token may be sampled: it has a score in the row, and one above minus infinity. -/
def Result.Open (result : Result α) (index : Nat) (id : Int) : Prop :=
  ∃ (k : Nat) (row : List (Score α)) (score : Score α), id = k ∧ result.scores[index]? = some row ∧
    row[k]? = some score ∧ score ≠ .negativeInfinity

def pushTokens (batch : List (List Int)) (tokens : List Int) : List (List Int) :=
  List.zipWith (fun ids id => ids ++ [id]) batch tokens

/-- `m.Generation batch result`: calls of `m` without a fault, of which the last was over `batch`
and had the given result. The first is over prompts, and each further one over the same rows with
one more token, which the call before has left open and which is not the end token. -/
inductive Generation (m : Masker) : List (List Int) → Result α → Prop where
  | first {batch : List (List Int)} (scores) :
      (∀ ids ∈ batch, (ids.length : Int) = m.promptLength) → (m.call batch scores).fault = none →
      Generation m batch (m.call batch scores)
  | next {batch : List (List Int)} {result} {tokens : List Int} (scores) :
      Generation m batch result → tokens.length = batch.length →
      (∀ (i : Nat) id, tokens[i]? = some id → result.Open i id ∧ m.endToken ≠ some id) →
      (result.masker.call (pushTokens batch tokens) scores).fault = none →
      Generation m (pushTokens batch tokens) (result.masker.call (pushTokens batch tokens) scores)

structure Tracks (m : Masker) (ids : List Int) (row : Row) (pieces : List Bytes) : Prop where
  processed : row.processed = some ids.length
  prompt : m.promptLength.toNat ≤ ids.length
  decoded : (ids.drop m.promptLength.toNat).map m.tokenizer.decode = pieces.map .ok
  committed : Session.Committed m.grammar pieces row.session
  remaining : row.session.remaining = []

theorem tracks_prompt {s : Session} (hs : Session.start m.grammar = .ok s)
    (hids : (ids.length : Int) = m.promptLength) (h : m.advanceRow ⟨s,none⟩ ids = (row,none)) :
    m.Tracks ids row [] := by
  have hlength : m.promptLength.toNat = ids.length := by omega
  have hdrop : ids.drop m.promptLength.toNat = [] := by rw [hlength,List.drop_length]
  have hfresh : m.freshTokens ⟨s,none⟩ ids = [] := by
    simp only [freshTokens,Option.getD_none,Nat.zero_max,hdrop]
  simp only [advanceRow,hfresh,takeTokens,Prod.mk.injEq,and_true] at h
  subst h
  exact ⟨rfl,Nat.le_of_eq hlength,by rw [hdrop]; rfl,.start hs,(Session.fresh_of_start hs).2.2⟩

theorem Tracks.push {pieces : List Bytes} {data : Bytes} {o : Outcome} (h : m.Tracks ids old pieces)
    (hid : m.Admits old.session id data o) (ha : m.advanceRow old (ids ++ [id]) = (row,none)) :
    m.Tracks (ids ++ [id]) row (pieces ++ [data]) := by
  have hmax : max ids.length m.promptLength.toNat = ids.length := Nat.max_eq_left h.prompt
  have hfresh : m.freshTokens old (ids ++ [id]) = [id] := by
    rw [freshTokens,h.processed,Option.getD_some,hmax,List.drop_left]
  simp only [advanceRow,hfresh,takeTokens,hid.takeToken,Prod.mk.injEq,and_true] at ha
  subst ha
  refine ⟨rfl,?_,?_,h.committed.feed hid.fed,hid.remaining⟩
  · rw [List.length_append]
    exact Nat.le_add_right_of_le h.prompt
  · rw [List.drop_append_of_le_length h.prompt,List.map_append,List.map_append,h.decoded]
    simp only [List.map_cons,List.map_nil,hid.decoded]

/-- What holds after every call: a session for each row that has taken what was generated in it, and
that takes whatever token the row's mask leaves open. -/
structure Sound (m : Masker) (batch : List (List Int)) (result : Result α) : Prop where
  setup : m.SameSetup result.masker
  length : result.masker.rows.length = batch.length
  row : ∀ {i ids}, batch[i]? = some ids → ∃ row pieces, result.masker.rows[i]? = some row ∧
    m.Tracks ids row pieces ∧
    ∀ id, result.Open i id → m.endToken ≠ some id → ∃ data o, m.Admits row.session id data o

theorem Native.admits_of_served (hm : m.Native) {result : Result α} {i : Nat}
    {after : List (Score α)}
    (h : m.Served width ids old row after) (hafter : result.scores[i]? = some after)
    (hid : result.Open i id) (hend : m.endToken ≠ some id) :
    ∃ data o, m.Admits row.session id data o := by
  obtain ⟨k,_,score,rfl,hrow,hscore,hne⟩ := hid
  obtain ⟨mask,before,hmask,rfl⟩ := h.masked
  obtain rfl := Option.some.inj (hafter.symm.trans hrow)
  exact hm.admits_of_open hmask (Mask.open_of_apply hscore hne) hend

theorem called_of_call {scores : Scores α} (h : (m.call batch scores).fault = none) :
    ∃ width, m.Called width 0 scores.rows batch (m.call batch scores) := by
  unfold call at h ⊢
  cases hwidth : scores.columns with
  | none => simp [hwidth] at h
  | some width =>
    simp only [hwidth] at h ⊢
    exact ⟨width,called_of_callRows (Nat.zero_le _) h⟩

theorem Native.sound_first (hm : m.Native) (hrows : m.rows = []) {scores : Scores α}
    (hprompts : ∀ ids ∈ batch, (ids.length : Int) = m.promptLength)
    (h : (m.call batch scores).fault = none) : m.Sound batch (m.call batch scores) := by
  obtain ⟨width,hcalled⟩ := called_of_call h
  refine ⟨hcalled.setup,?_,fun {i ids} hids => ?_⟩
  · rw [hcalled.length,hrows]
    simp
  · obtain ⟨old,row,after,hold,hserved,hrow,hafter⟩ := hcalled.served hids
    rw [Nat.zero_add] at hold hrow hafter
    obtain ⟨s,hs,rfl⟩ : ∃ s, Session.start m.grammar = .ok s ∧ old = ⟨s,none⟩ := by
      simp only [Masker.row,hrows,List.getElem?_nil] at hold
      cases hs : Session.start m.grammar with
      | error f => simp [hs,Except.map] at hold
      | ok s =>
        simp only [hs,Except.map,Except.ok.injEq] at hold
        exact ⟨s,rfl,hold.symm⟩
    have htracks := tracks_prompt hs (hprompts ids (List.mem_of_getElem? hids)) hserved.advanced
    exact ⟨row,[],hrow,htracks,fun id => hm.admits_of_served hserved hafter⟩

theorem Native.sound_next (hm : m.Native) {result : Result α} {tokens : List Int}
    {scores : Scores α}
    (hsound : m.Sound batch result) (hlength : tokens.length = batch.length)
    (htokens : ∀ (i : Nat) id, tokens[i]? = some id → result.Open i id ∧ m.endToken ≠ some id)
    (h : (result.masker.call (pushTokens batch tokens) scores).fault = none) :
    m.Sound (pushTokens batch tokens) (result.masker.call (pushTokens batch tokens) scores) := by
  obtain ⟨width,hcalled⟩ := called_of_call h
  refine ⟨hsound.setup.trans hcalled.setup,?_,fun {i ids} hids => ?_⟩
  · rw [hcalled.length,hsound.length,pushTokens,List.length_zipWith,hlength]
    simp
  · obtain ⟨ids,id,hbatch,hid,rfl⟩ := List.getElem?_zipWith_eq_some.mp hids
    obtain ⟨old,row,after,hold,hserved,hrow,hafter⟩ := hcalled.served hids
    rw [Nat.zero_add] at hold hrow hafter
    obtain ⟨old',pieces,hold',htracks,hadmits⟩ := hsound.row hbatch
    obtain rfl : old' = old := by
      simp only [Masker.row,hold',Except.ok.injEq] at hold
      exact hold
    rw [hsound.setup] at hserved
    obtain ⟨data,o,hdata⟩ := hadmits id (htokens i id hid).1 (htokens i id hid).2
    exact ⟨row,pieces ++ [data],hrow,htracks.push hdata hserved.of_rows.advanced,
      fun id => hm.admits_of_served hserved.of_rows hafter⟩

theorem Native.sound (hm : m.Native) (hrows : m.rows = []) {result : Result α}
    (h : m.Generation batch result) : m.Sound batch result := by
  induction h with
  | first _ hprompts hcall => exact hm.sound_first hrows hprompts hcall
  | next _ _ hlength htokens hcall ih => exact hm.sound_next ih hlength htokens hcall

theorem create_eq {g : Grammar} {t : Tokenizer} {allowsEnd : Bool} {special : Option (List Int)}
    {promptLength : Int} (h : create g t allowsEnd special promptLength none = .ok m)
    (hend : ∀ id ∈ t.endToken, 0 ≤ id) :
    m.Native ∧ m.rows = [] ∧ m.grammar = g ∧ m.tokenizer = t ∧ m.promptLength = promptLength := by
  unfold create at h
  simp only at h
  cases hdecoded : t.vocabulary (special.getD t.special) with
  | error f => simp [hdecoded,Except.map] at h
  | ok decoded =>
    simp only [hdecoded,Except.map,Except.ok.injEq] at h
    subst h
    exact ⟨⟨⟨decoded,hdecoded,rfl⟩,hend⟩,rfl,rfl,rfl,rfl⟩

/-- No token that a mask has left open is refused: after each call the session of a row has been fed
what the tokens generated in it decode to, one by one, and it takes whatever token may come next.
When it has finished, they make up a word of the grammar, with nothing left over. -/
theorem Generation.stays_in_grammar {g : Grammar} {t : Tokenizer} {allowsEnd : Bool}
    {special : Option (List Int)} {promptLength : Int} {result : Result α}
    (hcreate : create g t allowsEnd special promptLength none = .ok m)
    (hend : ∀ id ∈ t.endToken, 0 ≤ id) (h : m.Generation batch result) :
    result.masker.rows.length = batch.length ∧
      ∀ (i : Nat) (ids : List Int), batch[i]? = some ids →
        ∃ row pieces, result.masker.rows[i]? = some row ∧
          (ids.drop promptLength.toNat).map t.decode = pieces.map .ok ∧
          Session.Committed g pieces row.session ∧
          row.session.steps = (ids.drop promptLength.toNat).length ∧
          (∀ id, result.Open i id → t.endToken ≠ some id →
            ∃ data o s, t.decode id = .ok data ∧ row.session.feed (.bytes data) = .ok (o,s)) ∧
          (row.session.isFinished = true → row.session.remaining = [] ∧
            g.Derives pieces.flatten row.session.output) := by
  obtain ⟨hm,hrows,rfl,rfl,rfl⟩ := create_eq hcreate hend
  have hsound := hm.sound hrows h
  refine ⟨hsound.length,fun i ids hids => ?_⟩
  obtain ⟨row,pieces,hrow,htracks,hadmits⟩ := hsound.row hids
  refine ⟨row,pieces,hrow,htracks.decoded,htracks.committed,?_,fun id hid hne => ?_,
    fun hfinished => ⟨htracks.remaining,?_⟩⟩
  · have hlength := congrArg List.length htracks.decoded
    rw [List.length_map,List.length_map] at hlength
    rw [htracks.committed.steps,hlength]
  · obtain ⟨data,o,hdata⟩ := hadmits id hid hne
    exact ⟨data,o,_,hdata.decoded,hdata.fed⟩
  · cases hp : row.session.phase with
    | running c required canStop => simp [Session.isFinished,hp] at hfinished
    | finished o rest =>
      have hrest := htracks.remaining
      obtain ⟨u,hu,ho⟩ := htracks.committed.derives hp
      simp only [Session.remaining,hp] at hrest
      simp only [Session.output,hp]
      rw [hu,hrest,List.append_nil]
      exact ho

def wordLookUp : LookUp
  | 0 => .ok (.bytes (utf8 "ab"))
  | 1 => .ok (.bytes (utf8 "c"))
  | 2 => .ok .absent
  | _ => .error "no such token"

def wordMasker : Masker where
  grammar := .sequence .both (.literal (utf8 "ab")) (.literal (utf8 "c"))
  tokenizer := { converter := wordLookUp, size := 3, endToken := some 2 }
  allowsEnd := true
  special := [2]
  promptLength := 1
  vocabulary := [(0,.bytes (utf8 "ab")),(1,.bytes (utf8 "c"))]
  rows := []

theorem stays_in_grammar_words :
    ∃ (result : Result Nat) (row : Row), wordMasker.Generation [[7,0,1]] result ∧
      result.masker.rows[0]? = some row ∧
      Session.Committed wordMasker.grammar [utf8 "ab",utf8 "c"] row.session ∧
      wordMasker.grammar.Derives (utf8 "abc") row.session.output := by
  have hopen {result : Result Nat} (id : Nat) (row : List (Score Nat)) (hid : 2 ≠ id)
      (hrow : result.scores[0]? = some row) (hscore : row[id]? = some (.other 0)) :
      ∀ (i : Nat) (id' : Int), [(id : Int)][i]? = some id' →
        result.Open i id' ∧ wordMasker.endToken ≠ some id' := by
    rintro (_ | i) id' hid'
    · cases hid'
      exact ⟨⟨id,row,_,rfl,hrow,hscore,nofun⟩,fun h => hid (Int.ofNat.inj (Option.some.inj h))⟩
    · cases hid'
  have hfirst : wordMasker.Generation [[7]] _ :=
    .first ⟨some 3,[[.other 0,.other 0,.other 0]]⟩ (by decide) (by decide +kernel)
  have hsecond : wordMasker.Generation [[7,0]] _ :=
    hfirst.next ⟨some 3,[[.other 0,.other 0,.other 0]]⟩ rfl
      (hopen 0 [.other 0,.negativeInfinity,.negativeInfinity] (by decide) (by decide +kernel) rfl)
      (by decide +kernel)
  have hthird : wordMasker.Generation [[7,0,1]] _ :=
    hsecond.next ⟨some 3,[[.other 0,.other 0,.other 0]]⟩ rfl
      (hopen 1 [.negativeInfinity,.other 0,.negativeInfinity] (by decide) (by decide +kernel) rfl)
      (by decide +kernel)
  have hcreate : create wordMasker.grammar wordMasker.tokenizer true none 1 none = .ok wordMasker :=
    rfl
  obtain ⟨_,hrows⟩ := Generation.stays_in_grammar hcreate (by decide) hthird
  obtain ⟨row,pieces,hrow,hdecoded,hcommitted,_,_,hfinished⟩ := hrows 0 [7,0,1] rfl
  obtain rfl : pieces = [utf8 "ab",utf8 "c"] :=
    (List.map_inj_right fun _ _ => Except.ok.inj).mp hdecoded.symm
  have hend : (some row).map (fun row => row.session.isFinished) = some true := by
    rw [← hrow]
    decide +kernel
  exact ⟨_,row,hthird,hrow,hcommitted,(hfinished (Option.some.inj hend)).2⟩

end Masker

end GuidedDecoding
