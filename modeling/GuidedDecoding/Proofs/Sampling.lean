import GuidedDecoding.Proofs.Calls

/-!
Whether a call leaves a row something to sample. The mask of a row leaves the admitted tokens open,
but for the place of the end token, which is settled last: it is open where ending is admitted. That
is so where no token is admitted, but a token with the id of the end token counts there too; if it
is the only one and the parse may not stop, nothing is left.
-/

set_option autoImplicit false

namespace GuidedDecoding

namespace Masker

variable {α : Type} {m : Masker} {s : Session} {width k : Nat} {eos : Int} {valid : List Int}
  {mask : Mask}

def Numbered (m : Masker) : Prop := ∀ entry ∈ m.vocabulary, 0 ≤ entry.1

theorem mem_vocabulary_of_validIds {id : Int} (hvalid : m.validIds s width = .ok valid)
    (hid : id ∈ valid) : id < width ∧ ∃ token, (id,token) ∈ m.vocabulary := by
  unfold validIds at hvalid
  cases hall : s.validIds m.vocabulary with
  | error f => simp [hall,Except.map] at hvalid
  | ok all =>
    simp only [hall,Except.map,Except.ok.injEq] at hvalid
    subst hvalid
    obtain ⟨hmem,hlt⟩ := List.mem_filter.mp hid
    obtain ⟨token,htoken,_⟩ := Session.mem_of_validIds hall hmem
    exact ⟨by simpa using hlt,token,htoken⟩

theorem open_maskOf (hpos : 0 ≤ eos) (hend : m.endToken = some eos) (hlt : eos < width)
    (hids : ∀ id ∈ valid, 0 ≤ id) (hmask : m.maskOf s width valid = .ok mask) :
    mask[k]? = some false ↔
      if (k : Int) = eos then m.admitsEnd s valid = true else (k : Int) ∈ valid := by
  unfold maskOf at hmask
  split at hmask
  · cases hmask
  · rename_i allowed hallowed
    simp only [hend,hlt,if_true] at hmask
    rw [Mask.open_put hpos hmask,Mask.open_allowing hids hallowed,Bool.not_eq_false']

theorem exists_open_maskOf (hpos : 0 ≤ eos) (hend : m.endToken = some eos) (hlt : eos < width)
    (hids : ∀ id ∈ valid, 0 ≤ id) (hmask : m.maskOf s width valid = .ok mask) :
    (∃ k : Nat, mask[k]? = some false) ↔
      m.admitsEnd s valid = true ∨ ∃ id ∈ valid, id ≠ eos := by
  simp only [open_maskOf hpos hend hlt hids hmask]
  constructor
  · rintro ⟨k,hk⟩
    split at hk
    · exact .inl hk
    · rename_i hne
      exact .inr ⟨k,hk,hne⟩
  · rintro (hadmits | ⟨id,hid,hne⟩)
    · refine ⟨eos.toNat,?_⟩
      rw [if_pos (Int.toNat_of_nonneg hpos)]
      exact hadmits
    · refine ⟨id.toNat,?_⟩
      rw [Int.toNat_of_nonneg (hids id hid),if_neg hne]
      exact hid

theorem admits_of_absent (habsent : ∀ token, (eos,token) ∉ m.vocabulary)
    (hvalid : m.validIds s width = .ok valid) :
    m.admitsEnd s valid = true ∨ ∃ id ∈ valid, id ≠ eos := by
  cases valid with
  | nil => exact .inl (by simp [admitsEnd])
  | cons id valid =>
    obtain ⟨_,token,htoken⟩ := mem_vocabulary_of_validIds hvalid List.mem_cons_self
    refine .inr ⟨id,List.mem_cons_self,?_⟩
    rintro rfl
    exact habsent token htoken

theorem mask_of_call {batch : List (List Int)} {scores : Scores α} {ids : List Int} {index : Nat}
    (hnumbered : m.Numbered) (hwidth : scores.columns = some width)
    (h : (m.call batch scores).fault = none) (hids : batch[index]? = some ids) :
    ∃ (row : Row) (valid : List Int) (mask : Mask) (before : List (Score α)),
      (m.call batch scores).masker.rows[index]? = some row ∧
      m.validIds row.session width = .ok valid ∧ (∀ id ∈ valid, 0 ≤ id) ∧
      m.mask row.session width = .ok mask ∧ m.maskOf row.session width valid = .ok mask ∧
      scores.rows[index]? = some before ∧
      (m.call batch scores).scores[index]? = some (mask.apply before) := by
  obtain ⟨width',_,before,row,_,hwidth',_,hbefore,hserve,hrow,hafter⟩ := served_of_call h hids
  obtain rfl := Option.some.inj (hwidth.symm.trans hwidth')
  obtain ⟨_,mask,hmask,rfl⟩ := serve_eq_ok.mp hserve
  have hmaskOf := hmask
  unfold Masker.mask at hmaskOf
  split at hmaskOf
  · cases hmaskOf
  · rename_i valid hvalid
    refine ⟨row,valid,mask,before,hrow,hvalid,fun id hid => ?_,hmask,hmaskOf,hbefore,hafter⟩
    obtain ⟨_,token,htoken⟩ := mem_vocabulary_of_validIds hvalid hid
    exact hnumbered _ htoken

/-- What a call without a fault leaves to sample in each row. Some token is open exactly if ending
is admitted or a token other than the end token is; so some token is if the vocabulary does not list
the end token. -/
theorem exists_open_iff {batch : List (List Int)} {scores : Scores α} {ids : List Int} {index : Nat}
    (hnumbered : m.Numbered) (hpos : 0 ≤ eos) (hend : m.endToken = some eos)
    (hwidth : scores.columns = some width) (hlt : eos < width)
    (h : (m.call batch scores).fault = none) (hids : batch[index]? = some ids) :
    ∃ (row : Row) (valid : List Int) (mask : Mask) (before : List (Score α)),
      (m.call batch scores).masker.rows[index]? = some row ∧
      m.validIds row.session width = .ok valid ∧ m.mask row.session width = .ok mask ∧
      scores.rows[index]? = some before ∧
      (m.call batch scores).scores[index]? = some (mask.apply before) ∧
      ((∃ k : Nat, mask[k]? = some false) ↔
        m.admitsEnd row.session valid = true ∨ ∃ id ∈ valid, id ≠ eos) ∧
      ((∀ token, (eos,token) ∉ m.vocabulary) → ∃ k : Nat, mask[k]? = some false) := by
  obtain ⟨row,valid,mask,before,hrow,hvalid,hvalidpos,hmask,hmaskOf,hbefore,hafter⟩ :=
    mask_of_call hnumbered hwidth h hids
  have hopen := exists_open_maskOf hpos hend hlt hvalidpos hmaskOf
  exact ⟨row,valid,mask,before,hrow,hvalid,hmask,hbefore,hafter,hopen,
    fun habsent => hopen.mpr (admits_of_absent habsent hvalid)⟩

def endMasker (token : Int) : Masker where
  grammar := .literal (utf8 "ab")
  tokenizer := { converter := fun _ => .ok (.bytes (utf8 "ab")), size := 2, endToken := some 0 }
  allowsEnd := true
  special := []
  promptLength := 0
  vocabulary := [(token,.bytes (utf8 "ab"))]
  rows := []

theorem exists_open_word :
    ∃ (row : Row) (mask : Mask),
      ((endMasker 1).call [[]] ⟨some 2,[[.other 0,.other 0]]⟩).masker.rows[0]? = some row ∧
      (endMasker 1).mask row.session 2 = .ok mask ∧ ∃ k : Nat, mask[k]? = some false := by
  have hnumbered : (endMasker 1).Numbered := by simp [Numbered,endMasker]
  have hend : (endMasker 1).endToken = some 0 := rfl
  have hcall : ((endMasker 1).call [[]] ⟨some 2,[[.other 0,.other 0]]⟩).fault = none := by
    decide +kernel
  have hids : [([] : List Int)][0]? = some [] := rfl
  obtain ⟨row,_,mask,_,hrow,_,hmask,_,_,_,hopen⟩ :=
    exists_open_iff hnumbered (Int.le_refl 0) hend rfl (by decide) hcall hids
  exact ⟨row,mask,hrow,hmask,hopen (by simp [endMasker])⟩

/-- A word with the id of the end token is all that may come, and is masked: the parse may not stop
before it, and nothing is left to sample. -/
theorem nothing_open_before_word :
    ∃ (m : Masker) (row : Row) (mask : Mask),
      create (.literal (utf8 "ab")) (endMasker 0).tokenizer true (some []) 0
        (some [(0,.bytes (utf8 "ab"))]) = .ok m ∧
      m.Numbered ∧ m.endToken = some 0 ∧ (m.call [[]] ⟨some 1,[[.other 0]]⟩).fault = none ∧
      (m.call [[]] ⟨some 1,[[.other 0]]⟩).masker.rows[0]? = some row ∧
      m.mask row.session 1 = .ok mask ∧
      (m.call [[]] ⟨some 1,[[.other 0]]⟩).scores = [[.negativeInfinity]] ∧
      ∀ k : Nat, mask[k]? ≠ some false := by
  have hcall : ((endMasker 0).call [[]] ⟨some 1,[[.other 0]]⟩).fault = none := by decide +kernel
  have hids : [([] : List Int)][0]? = some [] := rfl
  obtain ⟨_,old,_,row,_,hwidth,hold,_,hserve,hrow,_⟩ := served_of_call hcall hids
  cases hwidth
  obtain ⟨hadvanced,mask,hmask,_⟩ := serve_eq_ok.mp hserve
  cases hold
  cases hadvanced
  have hvalid : ∀ id ∈ [(0 : Int)], 0 ≤ id := by decide
  have hend : (endMasker 0).endToken = some 0 := rfl
  have hmaskOf : (endMasker 0).maskOf ⟨.literal (utf8 "ab"),0,.running (.literal 0)
      (.borrowed (utf8 "ab")) false⟩ 1 [0] = .ok mask := hmask
  have hopen := exists_open_maskOf (Int.le_refl 0) hend (by decide) hvalid hmaskOf
  refine ⟨endMasker 0,_,mask,rfl,by simp [Numbered,endMasker],rfl,hcall,hrow,hmask,
    by decide +kernel,fun k hk => ?_⟩
  obtain hadmits | ⟨id,hid,hne⟩ := hopen.mp ⟨k,hk⟩
  · cases hadmits
  · exact hne (List.mem_singleton.mp hid)

theorem endToken_notMem_of_create {g : Grammar} {t : Tokenizer} {allowsEnd : Bool}
    {promptLength : Int} (h : create g t allowsEnd none promptLength none = .ok m)
    (hend : t.endToken = some eos) (token : Chunk) : (eos,token) ∉ m.vocabulary := by
  intro hmem
  have hspecial : eos ∈ t.special := by
    simp [Tokenizer.special,hend,List.mem_eraseDups]
  unfold create at h
  simp only [Option.getD_none] at h
  cases hdecoded : t.vocabulary t.special with
  | error f => simp [hdecoded,Except.map] at h
  | ok decoded =>
    simp only [hdecoded,Except.map,Except.ok.injEq] at h
    subst h
    exact (Tokenizer.mem_vocabulary hdecoded hmem).2.1 hspecial

/-- With the tokenizer's own vocabulary and special tokens, every row keeps something to sample. -/
theorem exists_open_of_create {g : Grammar} {t : Tokenizer} {allowsEnd : Bool} {promptLength : Int}
    {m₀ : Masker} {batch : List (List Int)} {scores : Scores α} {ids : List Int} {index : Nat}
    (hcreate : create g t allowsEnd none promptLength none = .ok m₀) (hsetup : m₀.SameSetup m)
    (hpos : 0 ≤ eos) (hend : t.endToken = some eos) (hwidth : scores.columns = some width)
    (hlt : eos < width) (h : (m.call batch scores).fault = none) (hids : batch[index]? = some ids) :
    ∃ (mask : Mask) (before : List (Score α)),
      (m.call batch scores).scores[index]? = some (mask.apply before) ∧
      ∃ k : Nat, mask[k]? = some false := by
  have hvocabulary : m.vocabulary = m₀.vocabulary := by rw [hsetup]
  have htokenizer : m.tokenizer = m₀.tokenizer := by rw [hsetup]
  obtain ⟨hnative,_,_,ht,_⟩ := create_eq hcreate (by simp [hend,hpos])
  have hnumbered : m.Numbered := by
    rintro ⟨id,token⟩ hmem
    obtain ⟨decoded,hdecoded,heq⟩ := hnative.vocabulary
    rw [hvocabulary,heq] at hmem
    exact (Tokenizer.mem_vocabulary hdecoded hmem).1
  have hendToken : m.endToken = some eos := by rw [endToken,htokenizer,ht,hend]
  obtain ⟨_,_,mask,before,_,hvalid,hvalidpos,_,hmaskOf,_,hafter⟩ :=
    mask_of_call hnumbered hwidth h hids
  refine ⟨mask,before,hafter,(exists_open_maskOf hpos hendToken hlt hvalidpos hmaskOf).mpr ?_⟩
  exact admits_of_absent (hvocabulary ▸ endToken_notMem_of_create hcreate hend) hvalid

end Masker

end GuidedDecoding
