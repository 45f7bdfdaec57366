import GuidedDecoding.Masker
import GuidedDecoding.Proofs.Filtering

set_option autoImplicit false

namespace GuidedDecoding

namespace Mask

variable {mask mask' : Mask} {index : Int} {k : Nat}

theorem place_of_nonneg {size i : Nat} (hindex : 0 ≤ index) (h : place size index = .ok i) :
    (i : Int) = index ∧ i < size := by
  unfold place at h
  split at h
  · cases h
  · split at h
    · cases h
      omega
    · split at h
      · omega
      · cases h

theorem open_put {masked : Bool} (hindex : 0 ≤ index) (h : mask.put index masked = .ok mask') :
    mask'[k]? = some false ↔
      if (k : Int) = index then masked = false else mask[k]? = some false := by
  unfold put at h
  cases hi : place mask.length index with
  | error f => simp [hi,Except.map] at h
  | ok i =>
    simp only [hi,Except.map,Except.ok.injEq] at h
    obtain ⟨hplace,hlt⟩ := place_of_nonneg hindex hi
    subst h
    by_cases hki : k = i
    · have hk : (k : Int) = index := by omega
      rw [if_pos hk,hki,List.getElem?_set_self hlt,Option.some.injEq]
    · have hk : (k : Int) ≠ index := by omega
      rw [if_neg hk,List.getElem?_set_ne (Ne.symm hki)]

theorem open_unmask {ids : List Int} (hids : ∀ id ∈ ids, 0 ≤ id) (h : mask.unmask ids = .ok mask') :
    mask'[k]? = some false ↔ mask[k]? = some false ∨ (k : Int) ∈ ids := by
  induction ids generalizing mask with
  | nil =>
    cases h
    simp
  | cons id ids ih =>
    unfold unmask at h
    split at h
    · cases h
    · rename_i mask'' hput
      rw [ih (fun id' hid => hids id' (List.mem_cons_of_mem _ hid)) h,
        open_put (hids id List.mem_cons_self) hput,List.mem_cons]
      split
      · rename_i hk
        simp [hk]
      · rename_i hk
        simp [hk]

theorem open_allowing {valid : List Int} {width : Int} (hvalid : ∀ id ∈ valid, 0 ≤ id)
    (h : allowing valid width = .ok mask) : mask[k]? = some false ↔ (k : Int) ∈ valid := by
  unfold allowing at h
  split at h
  · cases h
  · split at h
    · cases h
    · split at h
      · cases h
      · rw [open_unmask (fun id hid => hvalid id (List.mem_mergeSort.mp hid)) h,
          List.mem_mergeSort,List.getElem?_replicate]
        split <;> simp

theorem open_of_apply {α : Type} {scores : List (Score α)} {score : Score α}
    (hk : (mask.apply scores)[k]? = some score) (hscore : score ≠ .negativeInfinity) :
    mask[k]? = some false := by
  obtain ⟨masked,before,hmasked,_,heq⟩ := List.getElem?_zipWith_eq_some.mp hk
  cases masked with
  | false => exact hmasked
  | true => exact absurd heq.symm hscore

end Mask

theorem Vocabulary.exists_find? {τ : Type} {v : Vocabulary τ} {id : Int} {token : τ}
    (h : (id,token) ∈ v) : ∃ token', v.find? id = some token' ∧ (id,token') ∈ v := by
  induction v with
  | nil => cases h
  | cons entry rest ih =>
    obtain ⟨id₀,token₀⟩ := entry
    by_cases hid : id₀ = id
    · subst hid
      exact ⟨token₀,by simp [find?],List.mem_cons_self⟩
    · rcases List.mem_cons.mp h with heq | hmem
      · exact absurd (Prod.mk.inj heq).1.symm hid
      · obtain ⟨token',hfind,hmem⟩ := ih hmem
        exact ⟨token',by simpa [find?,hid] using hfind,List.mem_cons_of_mem _ hmem⟩

theorem Tokenizer.mem_vocabulary {t : Tokenizer} {special : List Int} {decoded : Vocabulary Bytes}
    {id : Int} {chunk : Chunk} (h : t.vocabulary special = .ok decoded)
    (hmem : (id,chunk) ∈ decoded.chunks) :
    0 ≤ id ∧ id ∉ special ∧ ∃ data, chunk = .bytes data ∧ t.decode id = .ok data := by
  unfold vocabulary at h
  split at h
  · cases h
  · cases h
    obtain ⟨⟨id',data⟩,hentry,heq⟩ := List.mem_map.mp hmem
    obtain ⟨rfl,rfl⟩ := Prod.mk.inj heq
    obtain ⟨id',hid,hdecode⟩ := List.mem_filterMap.mp hentry
    obtain ⟨hrange,hspecial⟩ := List.mem_filter.mp hid
    obtain ⟨n,_,rfl⟩ := List.mem_map.mp hrange
    split at hdecode
    · rename_i data' hdata
      cases hdecode
      exact ⟨Int.natCast_nonneg n,by simpa using hspecial,data,rfl,hdata⟩
    · cases hdecode

namespace Session

variable {s : Session} {vocabulary : Vocabulary Chunk} {id : Int}

theorem probe_of_judge {data : Bytes} (h : s.judge (.bytes data) = .ok (.probed true)) :
    ∃ o, s.probe (.bytes data) = .ok (some o) ∧ fits (some o) = true := by
  unfold judge at h
  split at h
  · cases h
  · split at h
    · cases h
    · cases h
    · cases hp : s.probe (.bytes data) with
      | error f => simp [hp,Except.map] at h
      | ok o =>
        simp only [hp,Except.map,Except.ok.injEq,Verdict.probed.injEq] at h
        cases o with
        | none => cases h
        | some o => exact ⟨o,rfl,h⟩

theorem mem_of_judgeAll {verdicts : List (Int × Verdict)} {verdict : Verdict}
    (h : s.judgeAll vocabulary = .ok verdicts) (hmem : (id,verdict) ∈ verdicts) :
    ∃ token, (id,token) ∈ vocabulary ∧ s.judge token = .ok verdict := by
  induction vocabulary generalizing verdicts with
  | nil =>
    cases h
    cases hmem
  | cons entry rest ih =>
    obtain ⟨id₀,token₀⟩ := entry
    unfold judgeAll at h
    split at h
    · cases h
    · rename_i verdict₀ hj
      cases hall : s.judgeAll rest with
      | error f => simp [hall,Except.map] at h
      | ok verdicts' =>
        simp only [hall,Except.map,Except.ok.injEq] at h
        subst h
        rcases List.mem_cons.mp hmem with heq | hmem
        · obtain ⟨rfl,rfl⟩ := Prod.mk.inj heq
          exact ⟨token₀,List.mem_cons_self,hj⟩
        · obtain ⟨token,htoken,hj⟩ := ih hall hmem
          exact ⟨token,List.mem_cons_of_mem _ htoken,hj⟩

theorem mem_of_validIds {ids : List Int} (h : s.validIds vocabulary = .ok ids) (hmem : id ∈ ids) :
    ∃ token, (id,token) ∈ vocabulary ∧ s.judge token = .ok (.probed true) := by
  unfold validIds at h
  split at h
  · cases h
    cases hmem
  · cases hall : s.judgeAll vocabulary with
    | error f => simp [hall,Except.map] at h
    | ok verdicts =>
      simp only [hall,Except.map,Except.ok.injEq] at h
      subst h
      obtain ⟨⟨id',verdict⟩,hadmitted,rfl⟩ := List.mem_map.mp hmem
      obtain ⟨hjudged,hverdict⟩ := List.mem_filter.mp hadmitted
      obtain ⟨token,htoken,hj⟩ := mem_of_judgeAll hall hjudged
      obtain rfl : verdict = .probed true := by simpa using hverdict
      exact ⟨token,htoken,hj⟩

theorem feed_of_probe {chunk : Chunk} {o : Outcome} (h : s.probe chunk = .ok (some o)) :
    s.isFinished = false ∧ s.feed chunk = .ok (o,s.commit o) := by
  unfold probe at h
  split at h
  · cases h
  · rename_i c required canStop hp
    split at h
    · rename_i o' ha
      cases h
      exact ⟨by simp only [isFinished,hp],by simp only [feed,hp,ha,Except.map]⟩
    · cases h
    · cases h

theorem remaining_commit {o : Outcome} (h : fits (some o) = true) :
    (s.commit o).remaining = [] := by
  cases o with
  | finished output rest => exact List.isEmpty_iff.mp h
  | incomplete c required => rfl

end Session

namespace Masker

/-- The vocabulary is what the tokenizer decodes, and the end token has a place of its own. -/
structure Native (m : Masker) : Prop where
  vocabulary : ∃ decoded, m.tokenizer.vocabulary m.special = .ok decoded ∧
    m.vocabulary = decoded.chunks
  endToken : ∀ id ∈ m.endToken, 0 ≤ id

/-- The session takes the token, as the bytes `data`, and leaves none of them over. -/
structure Admits (m : Masker) (s : Session) (id : Int) (data : Bytes) (o : Outcome) : Prop where
  decoded : m.tokenizer.decode id = .ok data
  taken : m.skips s id = false
  chunk : m.chunkOf id = .ok (.bytes data)
  fed : s.feed (.bytes data) = .ok (o,s.commit o)
  remaining : (s.commit o).remaining = []

variable {m : Masker} {s : Session}

theorem Admits.takeToken {id : Int} {data : Bytes} {o : Outcome} (h : m.Admits s id data o) :
    m.takeToken s id = .ok (s.commit o) := by
  simp only [Masker.takeToken,h.taken,h.chunk,h.fed,Bool.false_eq_true,if_false]

theorem Native.admits (h : m.Native) {width : Nat} {ids : List Int} {id : Int}
    (hvalid : m.validIds s width = .ok ids) (hid : id ∈ ids) :
    0 ≤ id ∧ ∃ data o, m.Admits s id data o := by
  obtain ⟨decoded,hdecoded,hvocabulary⟩ := h.vocabulary
  unfold Masker.validIds at hvalid
  cases hall : s.validIds m.vocabulary with
  | error f => simp [hall,Except.map] at hvalid
  | ok all =>
    simp only [hall,Except.map,Except.ok.injEq] at hvalid
    subst hvalid
    obtain ⟨token,hmem,hjudge⟩ := Session.mem_of_validIds hall (List.mem_filter.mp hid).1
    rw [hvocabulary] at hmem
    obtain ⟨hpos,hspecial,data,rfl,hdata⟩ := Tokenizer.mem_vocabulary hdecoded hmem
    obtain ⟨o,hprobe,hfits⟩ := Session.probe_of_judge hjudge
    obtain ⟨hrunning,hfeed⟩ := Session.feed_of_probe hprobe
    -- The vocabulary may be searched for the token, since its bytes are those of the tokenizer.
    obtain ⟨token,hfind,hmem⟩ := Vocabulary.exists_find? hmem
    obtain ⟨_,_,data',rfl,hdata'⟩ := Tokenizer.mem_vocabulary hdecoded hmem
    obtain rfl := Except.ok.inj (hdata.symm.trans hdata')
    refine ⟨hpos,data,o,hdata,?_,?_,hfeed,Session.remaining_commit hfits⟩
    · simpa [skips,hrunning] using hspecial
    · simp only [chunkOf,hvocabulary,hfind]

/-- What a mask leaves open, but for the end token, the session takes. -/
theorem Native.admits_of_open (h : m.Native) {width k : Nat} {mask : Mask}
    (hmask : m.mask s width = .ok mask) (hk : mask[k]? = some false) (hend : m.endToken ≠ some k) :
    ∃ data o, m.Admits s k data o := by
  unfold Masker.mask at hmask
  split at hmask
  · cases hmask
  · rename_i valid hvalid
    have hmem : (k : Int) ∈ valid := by
      have hpos : ∀ id ∈ valid, 0 ≤ id := fun id hid => (h.admits hvalid hid).1
      unfold maskOf at hmask
      split at hmask
      · cases hmask
      · rename_i allowed hallowed
        split at hmask
        · rename_i id hid
          split at hmask
          · rw [Mask.open_put (h.endToken id hid) hmask] at hk
            split at hk
            · rename_i heq
              subst heq
              exact absurd hid hend
            · exact (Mask.open_allowing hpos hallowed).mp hk
          · cases hmask
            exact (Mask.open_allowing hpos hallowed).mp hk
        · cases hmask
          exact (Mask.open_allowing hpos hallowed).mp hk
    exact (h.admits hvalid hmem).2

end Masker

end GuidedDecoding
