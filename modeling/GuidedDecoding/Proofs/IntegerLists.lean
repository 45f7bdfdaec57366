import GuidedDecoding.IntegerList
import GuidedDecoding.Proofs.LongestLead
import GuidedDecoding.Proofs.Series

set_option autoImplicit false

namespace GuidedDecoding

namespace Grammar

theorem advance_literal_append (bytes rest : Bytes) :
    (literal bytes).advance (literal bytes).initial (bytes ++ rest) =
      .ok (.finished .none rest) := by
  have hscan := Literal.scan_append bytes 0 0 bytes [] rest
  rw [List.append_nil,Nat.zero_add,Literal.scan,if_pos rfl] at hscan
  exact hscan

theorem reads_literal (bytes tail : Bytes) : (literal bytes).Reads bytes .none tail := by
  intro data hdata
  by_cases hbytes : bytes <+: data
  · obtain ⟨rest,rfl⟩ := hbytes
    exact .inr ⟨rest,rfl,advance_literal_append bytes rest⟩
  · obtain ⟨left,hleft⟩ :=
      (List.prefix_or_prefix_of_prefix (List.prefix_append bytes tail) hdata).resolve_left hbytes
    cases left with
    | nil =>
      rw [List.append_nil] at hleft
      exact absurd (hleft ▸ List.prefix_rfl) hbytes
    | cons b left =>
      have hscan := Literal.scan_append bytes 0 0 data (b :: left) []
      rw [hleft,List.append_nil,Literal.scan] at hscan
      exact .inl ⟨⟨b :: left,hleft⟩,_,_,hscan⟩

theorem Reads.sequence {first second : Grammar} {u v tail : Bytes} {a b : Value} (keep : Keep)
    (hfirst : first.Reads u a (v ++ tail)) (hsecond : second.Reads v b tail) :
    (Grammar.sequence keep first second).Reads (u ++ v) (keep.combine a b) tail := by
  intro data hdata
  rw [List.append_assoc] at hdata
  obtain ⟨hu,c,required,ha⟩ | ⟨rest,rfl,ha⟩ := hfirst data hdata
  · exact .inl ⟨hu.trans (List.prefix_append u v),_,_,advance_inFirst_of_incomplete keep second ha⟩
  · have hboth := advance_inFirst_of_finished keep second ha
    obtain ⟨hv,c,required,hb⟩ | ⟨left,rfl,hb⟩ :=
      hsecond rest ((List.prefix_append_right_inj u).mp hdata)
    · exact .inl ⟨(List.prefix_append_right_inj u).mpr hv,_,_,
        hboth.trans (keep.proceed_of_incomplete a hb)⟩
    · exact .inr ⟨left,(List.append_assoc u v left).symm,
        hboth.trans (keep.proceed_of_finished a hb)⟩

end Grammar

namespace IntegerRange

variable {r : IntegerRange} {s t u w tail : Bytes} {b : UInt8} {v : Int}

theorem digit_of_leads_text (h : r.Leads (utf8 (toString v) ++ [b])) :
    ∃ d, Numeral.digit? b = some d := by
  obtain ⟨negative,k,hk,hlead⟩ := leads_iff.mp h
  rw [Numeral.whole_written] at hlead
  refine Numeral.digit_of_mem_decimal (k := k) ?_
  cases htext : utf8 (toString v) with
  | nil => exact absurd htext.symm (Numeral.written_ne_text (n := .start) rfl v)
  | cons x xs =>
    rw [htext] at hlead
    cases negative with
    | true =>
      simp only [Numeral.sign,Numeral.whole,if_true,List.cons_append,List.nil_append,
        List.cons_prefix_cons] at hlead
      exact hlead.2.subset (by simp)
    | false =>
      simp only [Numeral.sign,Numeral.whole,Bool.false_eq_true,if_false,List.nil_append] at hlead
      exact hlead.subset (by simp)

theorem longestLead_text (hv : r.contains v = true)
    (htail : ∀ b ∈ tail.head?, Numeral.digit? b = none) :
    r.LongestLead (utf8 (toString v) ++ tail) (utf8 (toString v)) := by
  have hlead : r.Leads (utf8 (toString v)) := ⟨v,hv,List.prefix_rfl⟩
  cases tail with
  | nil =>
    rw [List.append_nil]
    exact longestLead_self hlead
  | cons b tail =>
    refine longestLead_of_not_leads hlead (fun hl => ?_) tail
    obtain ⟨d,hd⟩ := digit_of_leads_text hl
    cases (htail b rfl).symm.trans hd

theorem LongestLead.eq_or_eq (hw : r.LongestLead w t) (hs : s <+: w) (hu : r.LongestLead s u) :
    u = s ∨ u = t := by
  rcases List.prefix_or_prefix_of_prefix hs hw.start with hle | hle
  · have hsu : s <+: u := hu.longest s List.prefix_rfl (hw.leads.of_prefix hle)
    exact .inl (hu.start.eq_of_length_le hsu.length_le)
  · have htu : t <+: u := hu.longest t hle hw.leads
    have hut : u <+: t := hw.longest u (hu.start.trans hs) hu.leads
    exact .inr (hut.eq_of_length_le htu.length_le)

theorem reads_integer (hv : r.contains v = true)
    (htail : ∀ b ∈ tail.head?, Numeral.digit? b = none) :
    (Grammar.integer r).Reads (utf8 (toString v)) (.int v) tail := by
  intro data hdata
  have hlongest := longestLead_text hv htail
  have hread : r.Reading data (r.read .start 0 data) := r.open_start.reading 0 data
  have hadvance : (Grammar.integer r).advance (Grammar.integer r).initial data =
      r.advance .start data := rfl
  rw [hadvance,advance]
  cases hr : r.read .start 0 data with
  | error e =>
    rw [hr] at hread
    obtain ⟨u,hu,hne,hnone⟩ := hread
    rcases hlongest.eq_or_eq hdata hu with heq | heq
    · exact absurd heq hne
    · exact absurd heq (hnone v hv)
  | ok result =>
    rw [hr] at hread
    rcases result with n | ⟨k,rest⟩
    · obtain ⟨hn,rfl⟩ := hread
      exact .inl ⟨hlongest.longest _ hdata hn.extends.leads,_,_,rfl⟩
    · have hk : utf8 (toString k) = utf8 (toString v) := by
        rcases hlongest.eq_or_eq hdata hread.longest with heq | heq
        · by_contra hne
          have hle := hlongest.longest _ (heq ▸ hdata) hread.longest.leads
          exact hread.ne_or.elim (absurd heq) fun hno => hno ⟨v,hv,hle,hne⟩
        · exact heq
      obtain rfl := Numeral.text_inj hk
      exact .inr ⟨rest,hread.text,rfl⟩

theorem whole_of_read {n : Numeral} (h : r.read .start 0 (utf8 (toString v)) = .ok (.inl n)) :
    n = .whole (decide (v < 0)) v.natAbs := by
  have hread : r.Reading (utf8 (toString v)) (r.read .start 0 (utf8 (toString v))) :=
    r.open_start.reading 0 _
  rw [h] at hread
  obtain ⟨hopen,hwritten⟩ := hread
  rcases hopen with ⟨hzero,_,_⟩ | ⟨hdigits,he⟩
  · exact absurd hwritten (Numeral.written_ne_text hzero v)
  · have hpos := extendable_pos he
    rw [Numeral.written_eq (hdigits ▸ Nat.length_toDigits_pos) fun _ => hpos] at hwritten
    obtain rfl := Numeral.text_inj hwritten
    obtain ⟨negative,k,digits⟩ := n
    have hk : 0 < k := hpos
    have hlength : digits = (Nat.toDigits 10 k).length := hdigits
    subst hlength
    cases negative with
    | true => simp [Numeral.whole,Numeral.value,hk]
    | false => simp [Numeral.whole,Numeral.value]

end IntegerRange

namespace IntegerList

variable {l : IntegerList} {values : List Int}

/-- Options from which a grammar can be built, with a separator that no numeral could begin or go on
with. -/
structure Valid (l : IntegerList) : Prop where
  least_le : l.least ≤ l.greatest
  fewest_nonneg : 0 ≤ l.fewest
  fewest_le : ∀ m ∈ l.most, l.fewest ≤ m
  separator : ∃ b rest, utf8 l.separator = b :: rest ∧ Numeral.digit? b = none

def words (l : IntegerList) (values : List Int) : Series :=
  values.map fun v => (utf8 l.separator ++ utf8 (toString v),.int v)

theorem bytes_words (l : IntegerList) (values : List Int) :
    (l.words values).bytes = l.write values :=
  List.flatMap_map ..

theorem length_words (l : IntegerList) (values : List Int) :
    (l.words values).length = values.length := List.length_map _

theorem values_words (l : IntegerList) (values : List Int) :
    (l.words values).values = values.map .int := by simp [words,Series.values]

namespace Valid

def item (h : l.Valid) : Grammar :=
  .sequence .second (.literal (utf8 l.separator)) (.integer ⟨l.least,l.greatest,h.least_le⟩)

theorem separator_ne_nil (h : l.Valid) : utf8 l.separator ≠ [] := by
  obtain ⟨b,rest,hseparator,_⟩ := h.separator
  rw [hseparator]
  exact List.cons_ne_nil b rest

theorem legible_words (h : l.Valid) (hvalues : ∀ v ∈ values, l.least ≤ v ∧ v ≤ l.greatest) :
    Series.Legible h.item (l.words values) := by
  induction values with
  | nil => exact .nil
  | cons v values ih =>
    have hv := hvalues v List.mem_cons_self
    refine .cons (List.append_ne_nil_of_left_ne_nil h.separator_ne_nil _) ?_
      (ih fun u hu => hvalues u (List.mem_cons_of_mem _ hu))
    refine (Grammar.reads_literal _ _).sequence .second
      (IntegerRange.reads_integer ?_ fun b hb => ?_)
    · simpa [IntegerRange.contains] using hv
    · obtain ⟨x,rest,hseparator,hx⟩ := h.separator
      cases values with
      | nil => cases hb
      | cons u values =>
        have hhead : b ∈ (l.words (u :: values)).bytes.head? := hb
        rw [bytes_words,write,List.flatMap_cons,hseparator] at hhead
        cases hhead
        exact hx

theorem plain_item (h : l.Valid) : h.item.Plain where
  choiceFree := .sequence (.literal _) (.integer _)
  repeatFree := .sequence (.literal _) (.integer _)
  total := .sequence (.literal _) (.integer _)

theorem pending_item (h : l.Valid) {v : Int} {c : Checkpoint} {required : Requirement}
    (ha : h.item.advance h.item.initial (utf8 l.separator ++ utf8 (toString v)) =
      .ok (.incomplete c required)) :
    c = .inSecond (.integer (.whole (decide (v < 0)) v.natAbs)) .none := by
  have hseparator := Grammar.advance_literal_append (utf8 l.separator) (utf8 (toString v))
  have hitem := (Grammar.advance_inFirst_of_finished .second
    (.integer ⟨l.least,l.greatest,h.least_le⟩) hseparator).symm.trans ha
  obtain ⟨c',hnumber,rfl⟩ := Keep.proceed_incomplete hitem
  obtain ⟨n,hread,rfl,_⟩ := IntegerRange.advance_incomplete hnumber
  rw [IntegerRange.whole_of_read hread]

theorem exists_grammar (h : l.Valid) :
    ∃ bounds, l.grammar = .ok (.repetition h.item bounds) ∧
      ∀ n : Nat, (∀ m ∈ l.most, (n : Int) ≤ m) → ∀ m ∈ bounds.max, n ≤ m := by
  have hnumbers : Grammar.integers l.least l.greatest =
      .ok (.integer ⟨l.least,l.greatest,h.least_le⟩) := by
    simp only [Grammar.integers,IntegerRange.ofBounds,h.least_le,dif_pos,Except.map]
  obtain ⟨bounds,hbounds,hmost⟩ : ∃ bounds, Bounds.ofInts l.fewest l.most = .ok bounds ∧
      ∀ n : Nat, (∀ m ∈ l.most, (n : Int) ≤ m) → ∀ m ∈ bounds.max, n ≤ m := by
    unfold Bounds.ofInts
    rw [dif_pos h.fewest_nonneg]
    cases hm : l.most with
    | none => exact ⟨_,rfl,fun n _ m hm => by cases hm⟩
    | some m =>
      have hle := h.fewest_le m hm
      have hnonneg := h.fewest_nonneg
      simp only [dif_pos hle]
      refine ⟨_,rfl,fun n hn m' hm' => ?_⟩
      have := hn m rfl
      cases hm'
      omega
  refine ⟨bounds,?_,hmost⟩
  simp only [grammar,hnumbers,Grammar.repeated,hbounds,Except.map]
  rfl

end Valid

end IntegerList

/-- Where a session stands that has been fed the list `values`. The last of them may still go on. -/
inductive Session.Recovers (s : Session) (values : List Int) : Prop where
  | finished : s.phase = .finished (.list (values.map .int)) [] → Recovers s values
  | between {c} : s.checkpoint? = some (.repetition c (values.map .int) false) → Recovers s values
  | pending {before v} :
      values = before ++ [v] →
      s.checkpoint? = some (.repetition
        (.inSecond (.integer (.whole (decide (v < 0)) v.natAbs)) .none) (before.map .int) true) →
      Recovers s values

namespace IntegerList.Valid

variable {l : IntegerList} {values : List Int} {bounds : Bounds} {s s₀ : Session}

theorem recovers_of_along (h : l.Valid) (hvalues : ∀ v ∈ values, l.least ≤ v ∧ v ≤ l.greatest)
    (hmost : ∀ m ∈ bounds.max, values.length ≤ m)
    (halong : Series.Along h.item bounds (l.words values) [] s.standing) : s.Recovers values := by
  have hend := halong.at_end (h.legible_words hvalues) (length_words l values ▸ hmost)
  rw [values_words] at hend
  cases hp : s.phase with
  | finished o rest =>
    simp only [Session.standing,hp] at hend
    obtain ⟨_,hs⟩ | hs | ⟨_,_,_,_,_,_,_,hs⟩ := hend <;> cases hs
    exact .finished hp
  | running c required canStop =>
    have hc : s.checkpoint? = some c := by simp only [Session.checkpoint?,hp]
    simp only [Session.standing,hp] at hend
    obtain ⟨_,hs⟩ | hs | ⟨past,word,x,c',required',hwhole,ha,hs⟩ := hend <;> cases hs
    · exact .between hc
    · obtain ⟨before,last,rfl,rfl,hlast⟩ := List.map_eq_append_iff.mp hwhole
      obtain ⟨v,rfl,hv⟩ := List.map_eq_singleton_iff.mp hlast
      cases hv
      rw [h.pending_item ha,show Series.values (List.map _ before) = before.map .int from
        values_words l before] at hc
      exact .pending rfl hc

theorem exists_feedAll (h : l.Valid) {g : Grammar} (hg : l.grammar = .ok g)
    (hstart : Session.start g = .ok s₀) (hvalues : ∀ v ∈ values, l.least ≤ v ∧ v ≤ l.greatest)
    (hmost : ∀ m ∈ l.most, (values.length : Int) ≤ m) {chunks : List Bytes}
    (hne : ∀ chunk ∈ chunks, chunk ≠ []) (hchunks : chunks.flatten = l.write values) :
    ∃ s, s₀.feedAll chunks = .ok s ∧ s.Recovers values := by
  obtain ⟨bounds,hgrammar,hbounds⟩ := h.exists_grammar
  cases hgrammar.symm.trans hg
  have hmost' := hbounds values.length hmost
  have hfresh := Series.along_start hstart (l.words values)
  rw [bytes_words,← hchunks] at hfresh
  have hwords := h.legible_words hvalues
  obtain ⟨s,hfeed,halong⟩ := hfresh.feedAll h.plain_item hwords (length_words l values ▸ hmost')
    (Session.running_start hstart).grammar hne
  exact ⟨s,hfeed,h.recovers_of_along hvalues hmost' halong⟩

end IntegerList.Valid

end GuidedDecoding
