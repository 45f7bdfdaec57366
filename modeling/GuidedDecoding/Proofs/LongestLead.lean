import GuidedDecoding.Proofs.Leads
import GuidedDecoding.Proofs.Standing

/-!
How far an integer is read. Of its input it takes the longest start that begins the numeral of a
value in range, however the input is cut: it ends there with the value if the start is a numeral
itself, asks for more if the input ends there and some numeral goes on, and fails otherwise.
-/

set_option autoImplicit false

namespace GuidedDecoding

theorem Numeral.text_inj {v v' : Int} (h : utf8 (toString v) = utf8 (toString v')) : v = v' := by
  obtain ⟨negative,k,rfl,hsign⟩ := exists_whole v
  obtain ⟨negative',k',rfl,hsign'⟩ := exists_whole v'
  rw [← whole_written_eq hsign,← whole_written_eq hsign'] at h
  have hlead : (whole negative k).written <+: (whole negative' k').written :=
    h ▸ List.prefix_rfl
  obtain ⟨hnegative,_⟩ := (written_prefix_iff Nat.length_toDigits_pos).mp hlead
  obtain rfl : negative = negative' := hnegative
  rw [whole_written,whole_written] at h
  rw [decimal_inj (List.append_cancel_left h)]

theorem Numeral.written_ne_text {n : Numeral} (hdigits : n.digits = 0) (v : Int) :
    n.written ≠ utf8 (toString v) := by
  obtain ⟨negative,k,rfl,hsign⟩ := exists_whole v
  rw [← whole_written_eq hsign,whole_written,decimal_last]
  intro h
  have hmem : digitByte (k % 10) ∈ n.written := by simp [h]
  have hne := (digit?_digitByte (k % 10) (Nat.mod_lt _ (by omega))).2
  simp only [written,hdigits,if_true,List.append_nil,sign] at hmem
  split at hmem
  · rw [List.mem_singleton.mp hmem] at hne
    cases hne
  · cases hmem

namespace IntegerRange

variable {r : IntegerRange} {n : Numeral} {s u v data rest : Bytes} {b : UInt8} {d : Nat}

theorem Leads.of_prefix (h : r.Leads v) (hu : u <+: v) : r.Leads u := by
  obtain ⟨k,hk,hv⟩ := h
  exact ⟨k,hk,hu.trans hv⟩

theorem Extends.leads (h : r.Extends u) : r.Leads u := by
  obtain ⟨k,hk,hu,_⟩ := h
  exact ⟨k,hk,hu⟩

theorem Open.extends (h : r.Open n) : r.Extends n.written := by
  rcases h with ⟨hdigits,_,hsome⟩ | ⟨hdigits,he⟩
  · obtain ⟨k,hk,hsign⟩ : ∃ k, r.contains k = true ∧ n.written <+: utf8 (toString k) := by
      cases hneg : n.negative with
      | true =>
        obtain ⟨bounds,hm⟩ := Option.isSome_iff_exists.mp (hsome hneg)
        have hlow : r.Has true bounds.1 := has_iff.mpr ⟨_,_,hm,Nat.le_refl _,magnitudes_le hm⟩
        refine ⟨_,hlow.1,Numeral.whole_written_eq hlow.2 ▸ ?_⟩
        simp [Numeral.written,Numeral.sign,hdigits,hneg,Numeral.whole]
      | false =>
        refine ⟨r.least,by simpa [contains] using r.least_le_greatest,?_⟩
        simp [Numeral.written,Numeral.sign,hdigits,hneg]
    exact ⟨k,hk,hsign,Numeral.written_ne_text hdigits k⟩
  · have hpos : 0 < n.digits := hdigits ▸ Nat.length_toDigits_pos
    exact (extendable_iff_extends hpos).mp he

theorem Open.digit_of_leads (h : r.Open n) (hs : r.takesSign n b = false)
    (hl : r.Leads (n.written ++ [b])) : ∃ d, Numeral.digit? b = some d := by
  obtain ⟨negative,k,hk,hlead⟩ := leads_iff.mp hl
  rw [Numeral.whole_written] at hlead
  have hmem : b ∈ (Numeral.whole negative k).sign ++ Numeral.decimal k :=
    hlead.subset (by simp)
  rcases List.mem_append.mp hmem with hsign | hdecimal
  · obtain ⟨rfl,rfl⟩ : negative = true ∧ b = Numeral.minusSign := by
      unfold Numeral.sign at hsign
      split at hsign
      · rename_i hneg
        exact ⟨hneg,List.mem_singleton.mp hsign⟩
      · cases hsign
    cases hw : n.written with
    | nil =>
      obtain ⟨low,high,hm,_⟩ := has_iff.mp hk
      have htaken : r.takesSign n Numeral.minusSign = true := by
        rcases h.balanced with ⟨hdigits,_⟩ | ⟨hdigits,_⟩
        · simp only [Numeral.written,hdigits,if_true,List.append_nil,Numeral.sign] at hw
          split at hw
          · cases hw
          · rename_i hneg
            simp [takesSign,hdigits,hneg,hm]
        · rw [Numeral.written_of_digits hdigits] at hw
          exact absurd (List.append_eq_nil_iff.mp hw).2 (Numeral.decimal_ne_nil _)
      rw [hs] at htaken
      cases htaken
    | cons x w =>
      simp only [hw,Numeral.sign,Numeral.whole,if_true,List.cons_append,List.nil_append,
        List.cons_prefix_cons] at hlead
      exact absurd (hlead.2.subset (by simp)) (Numeral.minusSign_notMem_decimal k)
  · exact Numeral.digit_of_mem_decimal hdecimal

theorem Open.leads_push_iff (h : r.Open n) (hd : Numeral.digit? b = some d) :
    r.Leads (n.written ++ [b]) ↔ r.viable (n.push d) = true := by
  rw [← Numeral.written_push h.balanced hd,viable_iff_leads (Nat.succ_pos _)]

/-- `u` is the longest start of `s` that begins the numeral of a value in range. -/
structure LongestLead (r : IntegerRange) (s u : Bytes) : Prop where
  start : u <+: s
  leads : r.Leads u
  longest : ∀ v, v <+: s → r.Leads v → v <+: u

theorem longestLead_self (h : r.Leads s) : r.LongestLead s s := ⟨List.prefix_rfl,h,fun _ hv _ => hv⟩

theorem longestLead_of_not_leads (hu : r.Leads u) (hb : ¬r.Leads (u ++ [b])) (rest : Bytes) :
    r.LongestLead (u ++ b :: rest) u := by
  refine ⟨List.prefix_append _ _,hu,fun v hv hlead => ?_⟩
  have hnext : u ++ [b] <+: u ++ b :: rest := ⟨rest,by simp⟩
  rcases List.prefix_or_prefix_of_prefix hv hnext with hle | hle
  · rcases List.prefix_concat_iff.mp hle with rfl | hle
    · exact absurd hlead hb
    · exact hle
  · exact absurd (hlead.of_prefix hle) hb

theorem LongestLead.append (h : r.LongestLead s u) (hstop : u ≠ s ∨ ¬r.Extends u) (data : Bytes) :
    r.LongestLead (s ++ data) u := by
  refine ⟨h.start.trans (List.prefix_append _ _),h.leads,fun v hv hlead => ?_⟩
  rcases List.prefix_or_prefix_of_prefix hv (List.prefix_append s data) with hle | hle
  · exact h.longest v hle hlead
  · have hs : s <+: u := h.longest s List.prefix_rfl (hlead.of_prefix hle)
    have heq : u = s := h.start.eq_of_length_le hs.length_le
    have hu : u <+: v := heq ▸ hle
    obtain ⟨k,hk,hvk⟩ := hlead
    by_cases hne : u = utf8 (toString k)
    · exact hne ▸ hvk
    · exact absurd ⟨k,hk,hu.trans hvk,hne⟩ (hstop.resolve_left (absurd heq))

/-- Of `s` the numeral of `k` has been read and `rest` is left, and nothing longer begins a numeral
in range. -/
structure Done (r : IntegerRange) (s : Bytes) (k : Int) (rest : Bytes) : Prop where
  contained : r.contains k = true
  text : s = utf8 (toString k) ++ rest
  longest : r.LongestLead s (utf8 (toString k))
  stops : rest ≠ [] ∨ ¬r.Extends (utf8 (toString k))

/-- The input goes on behind the longest start that begins a numeral in range, which is none
itself. -/
def Dead (r : IntegerRange) (s : Bytes) : Prop :=
  ∃ u, r.LongestLead s u ∧ u ≠ s ∧ ∀ k, r.contains k = true → u ≠ utf8 (toString k)

theorem Done.ne_or {k : Int} (h : r.Done s k rest) :
    utf8 (toString k) ≠ s ∨ ¬r.Extends (utf8 (toString k)) := by
  refine h.stops.imp_left fun hne he => hne ?_
  have htext := h.text
  rw [← he] at htext
  exact List.self_eq_append_right.mp htext

theorem Done.append {k : Int} (h : r.Done s k rest) (data : Bytes) :
    r.Done (s ++ data) k (rest ++ data) where
  contained := h.contained
  text := by rw [h.text,List.append_assoc]
  longest := h.longest.append h.ne_or data
  stops := h.stops.imp_left fun hne he => hne (List.append_eq_nil_iff.mp he).1

theorem Dead.append (h : r.Dead s) (data : Bytes) : r.Dead (s ++ data) := by
  obtain ⟨u,hu,hne,hnone⟩ := h
  refine ⟨u,hu.append (.inl hne) data,fun he => hne ?_,hnone⟩
  have hs := (List.prefix_append s data).length_le
  rw [← he] at hs
  exact hu.start.eq_of_length_le hs

def Reading (r : IntegerRange) (s : Bytes) : Except ParseError (Numeral ⊕ Int × Bytes) → Prop
  | .ok (.inl n) => r.Open n ∧ n.written = s
  | .ok (.inr (k,rest)) => r.Done s k rest
  | .error _ => r.Dead s

theorem Open.close_reading (h : r.Open n) (hb : ¬r.Leads (n.written ++ [b])) (position : Nat)
    (rest : Bytes) :
    r.Reading (n.written ++ b :: rest) ((r.close n position (b :: rest)).map .inr) := by
  have hlongest := longestLead_of_not_leads h.extends.leads hb rest
  unfold IntegerRange.close
  split
  · rename_i hn
    have hw : n.written = utf8 (toString n.value) := h.written_eq hn.1
    exact ⟨hn.2,hw ▸ rfl,hw ▸ hlongest,.inl (List.cons_ne_nil _ _)⟩
  · rename_i hn
    refine ⟨n.written,hlongest,by simp,fun k hk hw => hn ?_⟩
    rcases Nat.eq_zero_or_pos n.digits with hdigits | hdigits
    · exact absurd hw (Numeral.written_ne_text hdigits k)
    · rw [h.written_eq hdigits] at hw
      exact ⟨hdigits,Numeral.text_inj hw ▸ hk⟩

theorem Open.reading (h : r.Open n) (position : Nat) (data : Bytes) :
    r.Reading (n.written ++ data) (r.read n position data) := by
  fun_induction IntegerRange.read r n position data with
  | case1 n position => exact ⟨h,(List.append_nil _).symm⟩
  | case2 n position b data hs ih =>
    obtain ⟨rfl,hdigits,hneg,hopen⟩ := h.sign hs
    simpa only [Numeral.written_sign hdigits hneg,List.append_assoc,List.singleton_append] using
      ih hopen
  | case3 n position b data hs hd =>
    refine h.close_reading (fun hl => ?_) position data
    obtain ⟨d,hd'⟩ := h.digit_of_leads (by simpa using hs) hl
    rw [hd] at hd'
    cases hd'
  | case4 n position b data hs d hd next hv =>
    refine h.close_reading (fun hl => ?_) position data
    have hviable : r.viable next = true := (h.leads_push_iff hd).mp hl
    simp [hviable] at hv
  | case5 n position b data hs d hd next hv he ih =>
    have hw : next.written = n.written ++ [b] := Numeral.written_push h.balanced hd
    simpa only [hw,List.append_assoc,List.singleton_append] using ih (h.push hd he)
  | case6 n position b data hs d hd next hv he =>
    have hw : next.written = n.written ++ [b] := Numeral.written_push h.balanced hd
    have hpos : 0 < next.digits := Nat.succ_pos _
    have hviable : r.viable next = true := by simpa using hv
    have hext : r.extendable next = false := by simpa using he
    obtain ⟨hk,hsign⟩ := contains_of_not_extendable hpos hviable hext
    have hstop : ¬r.Extends next.written := fun hx => by
      rw [(extendable_iff_extends hpos).mpr hx] at hext
      cases hext
    have htext := Numeral.written_eq hpos hsign
    have hself := longestLead_self ((viable_iff_leads hpos).mp hviable)
    have hlongest := hself.append (.inr hstop) data
    rw [List.append_cons,← hw]
    rw [htext] at hlongest hstop ⊢
    exact ⟨hk,rfl,hlongest,.inr hstop⟩

/-- Where a parse of an integer stands once the input `s` has come in. -/
def Ends (r : IntegerRange) (s : Bytes) : Standing → Prop
  | .running c => ∃ n, c = .integer n ∧ r.Open n ∧ n.written = s
  | .finished o rest _ => ∃ k, o = .int k ∧ r.Done s k rest
  | .failed f => ∃ e, f = .parse e ∧ r.Dead s

theorem Ends.feed {standing : Standing} (h : r.Ends s standing) (data : Bytes) :
    r.Ends (s ++ data) (standing.feed (.integer r) data) := by
  cases standing with
  | running c =>
    obtain ⟨n,rfl,hn,rfl⟩ := h
    have hread := hn.reading 0 data
    simp only [Standing.feed,Grammar.advance,IntegerRange.advance]
    cases hr : r.read n 0 data with
    | error e =>
      rw [hr] at hread
      exact ⟨e,rfl,hread⟩
    | ok result =>
      rw [hr] at hread
      rcases result with n' | ⟨k,rest⟩
      · exact ⟨n',rfl,hread⟩
      · exact ⟨k,rfl,hread⟩
  | finished o rest since =>
    obtain ⟨k,rfl,hdone⟩ := h
    exact ⟨k,rfl,hdone.append data⟩
  | failed f =>
    obtain ⟨e,rfl,hdead⟩ := h
    exact ⟨e,rfl,hdead.append data⟩

theorem ends_standing (r : IntegerRange) (chunks : List Bytes) :
    r.Ends chunks.flatten ((Grammar.integer r).standing chunks) := by
  induction chunks using List.reverseRecOn with
  | nil => exact ⟨.start,rfl,r.open_start,rfl⟩
  | append_singleton chunks data ih =>
    rw [Grammar.standing_snoc,List.flatten_append,List.flatten_singleton]
    exact ih.feed data

/-- However its input is cut, an integer takes the longest start of it that begins the numeral of a
value in range, and this start decides how the parse ends. What is left over includes the chunks
that have come after the end. -/
theorem standing_iff_longestLead (r : IntegerRange) (chunks : List Bytes) :
    ∃ u, r.LongestLead chunks.flatten u ∧
      (∀ o rest, (∃ since, (Grammar.integer r).standing chunks = .finished o rest since) ↔
        chunks.flatten = u ++ rest ∧
          (∃ k, o = .int k ∧ r.contains k = true ∧ u = utf8 (toString k)) ∧
          (u ≠ chunks.flatten ∨ ¬r.Extends u)) ∧
      ((∃ c, (Grammar.integer r).standing chunks = .running c) ↔
        u = chunks.flatten ∧ r.Extends u) ∧
      ((∃ e, (Grammar.integer r).standing chunks = .failed (.parse e)) ↔
        u ≠ chunks.flatten ∧ ¬∃ k, r.contains k = true ∧ u = utf8 (toString k)) := by
  have hends := r.ends_standing chunks
  generalize chunks.flatten = s at hends
  cases hstanding : (Grammar.integer r).standing chunks with
  | running c =>
    rw [hstanding] at hends
    obtain ⟨n,rfl,hn,rfl⟩ := hends
    have hext := hn.extends
    refine ⟨n.written,longestLead_self hext.leads,fun o rest => ?_,?_,?_⟩
    · simp [hext]
    · simp [hext]
    · simp
  | finished o rest since =>
    rw [hstanding] at hends
    obtain ⟨k,rfl,hdone⟩ := hends
    refine ⟨utf8 (toString k),hdone.longest,fun o' rest' => ⟨?_,?_⟩,?_,?_⟩
    · rintro ⟨_,⟨⟩⟩
      exact ⟨hdone.text,⟨k,rfl,hdone.contained,rfl⟩,hdone.ne_or⟩
    · rintro ⟨hs,⟨k',rfl,_,hk⟩,_⟩
      obtain rfl := Numeral.text_inj hk
      obtain rfl := List.append_cancel_left (hdone.text.symm.trans hs)
      exact ⟨since,rfl⟩
    · exact ⟨nofun,fun ⟨hs,hext⟩ => (hdone.ne_or.elim (fun hne => hne hs) fun hno => hno hext).elim⟩
    · exact ⟨nofun,fun ⟨_,hnone⟩ => absurd ⟨k,hdone.contained,rfl⟩ hnone⟩
  | failed f =>
    rw [hstanding] at hends
    obtain ⟨e,rfl,u,hu,hne,hnone⟩ := hends
    refine ⟨u,hu,fun o rest => ⟨nofun,?_⟩,⟨nofun,?_⟩,fun _ => ?_,fun _ => ⟨e,rfl⟩⟩
    · rintro ⟨_,⟨k,_,hk,heq⟩,_⟩
      exact absurd heq (hnone k hk)
    · rintro ⟨hs,_⟩
      exact absurd hs hne
    · exact ⟨hne,fun ⟨k,hk,heq⟩ => hnone k hk heq⟩

end IntegerRange

end GuidedDecoding
