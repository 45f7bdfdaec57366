import GuidedDecoding.Requirement

set_option autoImplicit false

namespace GuidedDecoding.Requirement

variable {r s : Requirement} {rs ss : List Requirement} {data u agreed : Bytes}
  {others : List Bytes}

theorem incompatible_iff : r.compatible data = false ↔ ¬r.bytes <+: data ∧ ¬data <+: r.bytes := by
  rw [← Bool.not_eq_true,compatible_iff,not_or]

theorem compatible_empty (data : Bytes) : empty.compatible data = true :=
  (compatible_iff _ _).mpr (.inl (List.nil_prefix))

theorem compatible_of_lead (h : r.bytes <+: s.bytes) (hs : s.compatible data = true) :
    r.compatible data = true := by
  rw [compatible_iff] at hs ⊢
  rcases hs with hs | hdata
  · exact .inl (h.trans hs)
  · exact List.prefix_or_prefix_of_prefix h hdata

theorem incompatible_of_lead (h : r.bytes <+: s.bytes) (hr : r.compatible data = false) :
    s.compatible data = false := by
  cases hs : s.compatible data with
  | false => rfl
  | true =>
    rw [compatible_of_lead h hs] at hr
    cases hr

theorem prefix_narrow_iff :
    u <+: (narrow agreed others).getD [] ↔ u <+: agreed ∧ ∀ other ∈ others, u <+: other := by
  induction others generalizing agreed with
  | nil => simp [narrow]
  | cons other others ih =>
    rw [narrow,List.forall_mem_cons,← and_assoc,← Bytes.prefix_agreement_iff]
    split
    · -- The early end: what starts nothing but the empty string starts the others too.
      rename_i hnil
      rw [hnil]
      constructor
      · intro hu
        obtain rfl := List.prefix_nil.mp hu
        exact ⟨List.prefix_rfl,fun _ _ => List.nil_prefix⟩
      · exact And.left
    · exact ih

theorem commonPrefix_bytes (r : Requirement) (rs : List Requirement) :
    (commonPrefix (r :: rs)).bytes = (narrow r.bytes (rs.map bytes)).getD [] := by
  rw [commonPrefix,agreement?]
  cases narrow r.bytes (rs.map bytes) <;> rfl

/-- What starts every one of the demands starts what they have in common, and nothing else does. -/
theorem prefix_commonPrefix_iff (hrs : rs ≠ []) :
    u <+: (commonPrefix rs).bytes ↔ ∀ r ∈ rs, u <+: r.bytes := by
  obtain ⟨first,others,rfl⟩ := List.exists_cons_of_ne_nil hrs
  rw [commonPrefix_bytes,prefix_narrow_iff,List.forall_mem_cons,List.forall_mem_map]

theorem lead_of_commonPrefix (h : r ∈ rs) : (commonPrefix rs).bytes <+: r.bytes :=
  (prefix_commonPrefix_iff (List.ne_nil_of_mem h)).mp List.prefix_rfl r h

theorem commonPrefix_congr (hrs : rs ≠ []) (h : ∀ u, u ∈ ss.map bytes ↔ u ∈ rs.map bytes) :
    (commonPrefix ss).bytes = (commonPrefix rs).bytes := by
  have hss : ss ≠ [] := by
    rintro rfl
    obtain ⟨first,others,rfl⟩ := List.exists_cons_of_ne_nil hrs
    exact absurd ((h first.bytes).mpr List.mem_cons_self) List.not_mem_nil
  have hbytes (u : Bytes) {ts : List Requirement} (hts : ts ≠ []) :
      u <+: (commonPrefix ts).bytes ↔ ∀ v ∈ ts.map bytes, u <+: v := by
    rw [prefix_commonPrefix_iff hts,List.forall_mem_map]
  have hsame (u : Bytes) : u <+: (commonPrefix ss).bytes ↔ u <+: (commonPrefix rs).bytes := by
    simp only [hbytes u hss,hbytes u hrs,h]
  have hle : (commonPrefix ss).bytes <+: (commonPrefix rs).bytes := (hsame _).mp List.prefix_rfl
  have hge : (commonPrefix rs).bytes <+: (commonPrefix ss).bytes := (hsame _).mpr List.prefix_rfl
  exact hle.eq_of_length_le hge.length_le

/-- The common start is the longest byte string that starts every one of the demands. It stays the
same in any order of them, if some are repeated, and wherever their bytes come from, and it agrees
with all that agrees with one of them. -/
theorem commonPrefix_greatest (hrs : rs ≠ []) :
    (∀ r ∈ rs, (commonPrefix rs).bytes <+: r.bytes) ∧
      (∀ u, (∀ r ∈ rs, u <+: r.bytes) → u <+: (commonPrefix rs).bytes) ∧
      (∀ ss : List Requirement, (∀ u, u ∈ ss.map bytes ↔ u ∈ rs.map bytes) →
        (commonPrefix ss).bytes = (commonPrefix rs).bytes) ∧
      ∀ data, (∃ r ∈ rs, r.compatible data = true) → (commonPrefix rs).compatible data = true := by
  refine ⟨fun r hr => lead_of_commonPrefix hr,fun u => (prefix_commonPrefix_iff hrs).mpr,
    fun ss => commonPrefix_congr hrs,fun data hdata => ?_⟩
  obtain ⟨r,hr,hcompatible⟩ := hdata
  exact compatible_of_lead (lead_of_commonPrefix hr) hcompatible

theorem commonPrefix_greatest_words :
    let rs := [borrowed (utf8 "abc"),owned (utf8 "abd"),owned (utf8 "abc")]
    rs ≠ [] ∧ (commonPrefix rs).bytes <+: utf8 "abd" ∧ utf8 "ab" <+: (commonPrefix rs).bytes ∧
      (commonPrefix [borrowed (utf8 "abd"),borrowed (utf8 "abc")]).bytes = (commonPrefix rs).bytes ∧
      (commonPrefix rs).compatible (utf8 "abdx") = true := by
  intro rs
  have hrs : rs ≠ [] := List.cons_ne_nil _ _
  obtain ⟨hlower,hgreatest,hsame,hcompatible⟩ := commonPrefix_greatest hrs
  have hboth (u : Bytes) :
      u ∈ [utf8 "abd",utf8 "abc"] ↔ u ∈ [utf8 "abc",utf8 "abd",utf8 "abc"] := by
    simp only [List.mem_cons,List.not_mem_nil,or_false]
    grind
  exact ⟨hrs,hlower (owned (utf8 "abd")) (by decide),hgreatest _ (by decide),hsame _ hboth,
    hcompatible _ ⟨owned (utf8 "abd"),by decide,by decide⟩⟩

end GuidedDecoding.Requirement
