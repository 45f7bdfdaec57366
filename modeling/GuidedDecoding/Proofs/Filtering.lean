import GuidedDecoding.Proofs.Necessity
import GuidedDecoding.Proofs.Sessions

/-!
Whether the demand of a session may stand in for a probe. Ruling out what conflicts with the demand
changes no answer exactly if every departure from the demanded bytes by one byte is refused. Steady
grammars meet this after any step, and firm ones before the first.
-/

set_option autoImplicit false

namespace GuidedDecoding

namespace Requirement

/-- The last byte of `data` is where it first differs from what is demanded. -/
def Departs (r : Requirement) (data : Bytes) : Prop :=
  ∃ lead x y, data = lead ++ [x] ∧ lead ++ [y] <+: r.bytes ∧ x ≠ y

variable {r : Requirement} {data : Bytes}

theorem Departs.incompatible (h : r.Departs data) : r.compatible data = false := by
  obtain ⟨lead,x,y,rfl,hy,hne⟩ := h
  have hlength : (lead ++ [x]).length = (lead ++ [y]).length := by simp
  have hdiffer : lead ++ [y] ≠ lead ++ [x] := by simpa using hne.symm
  refine incompatible_iff.mpr ⟨fun hr => ?_,fun hr => ?_⟩
  · exact hdiffer ((hy.trans hr).eq_of_length hlength.symm)
  · have hsame := List.prefix_of_prefix_length_le hy hr (Nat.le_of_eq hlength.symm)
    exact hdiffer (hsame.eq_of_length hlength.symm)

theorem exists_departs (h : r.compatible data = false) :
    ∃ lead more, data = lead ++ more ∧ r.Departs lead := by
  obtain ⟨hlead,hdata⟩ := incompatible_iff.mp h
  obtain ⟨origin,bytes⟩ := r
  induction bytes generalizing data with
  | nil => exact absurd List.nil_prefix hlead
  | cons y bytes ih =>
    cases data with
    | nil => exact absurd List.nil_prefix hdata
    | cons x data =>
      by_cases hx : x = y
      · subst hx
        simp only [List.cons_prefix_cons,true_and] at hlead hdata
        obtain ⟨_,more,rfl,lead,a,b,rfl,hb,hne⟩ := ih
          (incompatible_iff.mpr ⟨hlead,hdata⟩) hlead hdata
        exact ⟨x :: (lead ++ [a]),more,rfl,x :: lead,a,b,rfl,List.cons_prefix_cons.mpr ⟨rfl,hb⟩,hne⟩
      · exact ⟨[x],data,rfl,[],x,y,rfl,List.cons_prefix_cons.mpr ⟨rfl,List.nil_prefix⟩,hx⟩

end Requirement

namespace Session

/-- The ids of the tokens that a probe admits, in the vocabulary's order. -/
def probedIds (s : Session) : Vocabulary Bytes → Except Fault (List Int)
  | [] => .ok []
  | (id,token) :: rest =>
    if token = [] then probedIds s rest
    else
      match s.probe (.bytes token) with
      | .error f => .error f
      | .ok o => (probedIds s rest).map fun ids => if fits o then id :: ids else ids

/-- A session answers as if it probed everything. -/
def Faithful (s : Session) : Prop :=
  (∀ data : Bytes, s.accepts (.bytes data) = (s.probe (.bytes data)).map Option.isSome) ∧
    ∀ vocabulary : Vocabulary Bytes, s.validIds vocabulary.chunks = s.probedIds vocabulary

variable {s : Session} {data : Bytes}

theorem agrees_bytes (s : Session) (data : Bytes) :
    s.agrees (.bytes data) = .ok (s.required.compatible data) := by
  unfold agrees
  split
  · rename_i hempty
    have hnil : s.required.bytes <+: data := by
      rw [List.isEmpty_iff.mp hempty]
      exact List.nil_prefix
    rw [(Requirement.compatible_iff _ _).mpr (.inl hnil)]
  · rfl

theorem accepts_bytes (h : s.isFinished = false) (data : Bytes) :
    s.accepts (.bytes data) =
      if s.required.compatible data then (s.probe (.bytes data)).map Option.isSome
      else .ok false := by
  simp only [accepts,h,agrees_bytes,Bool.false_eq_true,if_false]
  cases s.required.compatible data <;> rfl

theorem admit_judge
    (hrefuse : ∀ data, s.required.compatible data = false → s.probe (.bytes data) = .ok none)
    (token : Bytes) :
    (s.judge (.bytes token)).map (· == .probed true) =
      if token = [] then .ok false else (s.probe (.bytes token)).map fits := by
  cases token with
  | nil => rfl
  | cons b token =>
    have hvacant : (Chunk.bytes (b :: token)).isVacant = false := rfl
    simp only [judge,hvacant,agrees_bytes,Bool.false_eq_true,if_false]
    cases hc : s.required.compatible (b :: token) with
    | false =>
      rw [hrefuse _ hc]
      rfl
    | true =>
      cases s.probe (.bytes (b :: token)) with
      | error f => rfl
      | ok o => cases hfits : fits o <;> simp [Except.map,hfits]

theorem probedIds_cons (s : Session) (id : Int) (token : Bytes) (rest : Vocabulary Bytes) :
    s.probedIds ((id,token) :: rest) =
      match if token = [] then .ok false else (s.probe (.bytes token)).map fits with
      | .error f => .error f
      | .ok admitted => (s.probedIds rest).map fun ids => if admitted then id :: ids else ids := by
  rw [probedIds]
  by_cases hempty : token = []
  · simp only [hempty,if_true,Bool.false_eq_true,if_false]
    cases s.probedIds rest <;> rfl
  · simp only [hempty,if_false]
    cases s.probe (.bytes token) <;> rfl

theorem judgeAll_eq_probedIds
    (hrefuse : ∀ data, s.required.compatible data = false → s.probe (.bytes data) = .ok none)
    (vocabulary : Vocabulary Bytes) :
    ((s.judgeAll vocabulary.chunks).map fun verdicts =>
      (verdicts.filter fun (_,verdict) => verdict == .probed true).map Prod.fst) =
        s.probedIds vocabulary := by
  induction vocabulary with
  | nil => rfl
  | cons entry rest ih =>
    obtain ⟨id,token⟩ := entry
    have hchunks : Vocabulary.chunks ((id,token) :: rest) =
        (id,.bytes token) :: Vocabulary.chunks rest := rfl
    rw [hchunks,judgeAll,probedIds_cons,← admit_judge hrefuse token,← ih]
    cases s.judge (.bytes token) with
    | error f => rfl
    | ok verdict =>
      cases s.judgeAll (Vocabulary.chunks rest) with
      | error f => rfl
      | ok verdicts => cases hv : verdict == .probed true <;> simp [Except.map,hv]

theorem phase_of_not_finished (h : s.isFinished = false) :
    ∃ c required canStop, s.phase = .running c required canStop := by
  unfold isFinished at h
  split at h
  · rename_i c required canStop hp
    exact ⟨c,required,canStop,hp⟩
  · cases h

theorem probe_none_iff {c : Checkpoint} {required : Requirement} {canStop : Bool}
    (hp : s.phase = .running c required canStop) :
    s.probe (.bytes data) = .ok none ↔ ∃ e, s.grammar.advance c data = .error (.parse e) := by
  rw [probe_bytes hp]
  rcases s.grammar.advance c data with (e | f) | o <;> simp

theorem refused_of_departures (h : s.isFinished = false)
    (hdeparts : ∀ data, s.required.Departs data → s.probe (.bytes data) = .ok none)
    (hdata : s.required.compatible data = false) : s.probe (.bytes data) = .ok none := by
  obtain ⟨c,required,canStop,hp⟩ := phase_of_not_finished h
  obtain ⟨lead,more,rfl,hlead⟩ := Requirement.exists_departs hdata
  obtain ⟨e,he⟩ := (probe_none_iff hp).mp (hdeparts lead hlead)
  exact (probe_none_iff hp).mpr ⟨e,(s.grammar.advance_final c).parseError he⟩

theorem faithful_iff (h : s.isFinished = false) :
    s.Faithful ↔ ∀ data, s.required.Departs data → s.probe (.bytes data) = .ok none := by
  constructor
  · intro hfaithful data hdeparts
    have haccepts := hfaithful.1 data
    simp only [accepts_bytes h,hdeparts.incompatible,Bool.false_eq_true,if_false] at haccepts
    cases hprobe : s.probe (.bytes data) with
    | error f => simp [hprobe,Except.map] at haccepts
    | ok o =>
      cases o with
      | none => rfl
      | some o => simp [hprobe,Except.map] at haccepts
  · intro hdeparts
    have hrefuse (data : Bytes) (hdata : s.required.compatible data = false) :
        s.probe (.bytes data) = .ok none := refused_of_departures h hdeparts hdata
    constructor
    · intro data
      rw [accepts_bytes h]
      cases hc : s.required.compatible data with
      | true => rfl
      | false =>
        rw [hrefuse data hc]
        rfl
    · intro vocabulary
      simp only [validIds,h,Bool.false_eq_true,if_false]
      exact judgeAll_eq_probedIds hrefuse vocabulary

variable {g : Grammar} {w : Bytes}

theorem Reached.refuses (h : Reached g w s) (hs : s.isFinished = false) (hsteady : g.Steady)
    (hfirm : s.steps = 0 → g.Firm) (hdata : s.required.compatible data = false) :
    s.probe (.bytes data) = .ok none := by
  obtain ⟨c,required,canStop,hp⟩ := phase_of_not_finished hs
  have hrunning := h.running
  have hrequired : s.required = required := by simp only [Session.required,hp]
  rw [hrequired] at hdata
  rw [probe_none_iff hp,hrunning.grammar]
  have hdemanded := hrunning.demanded hp
  generalize hn : s.steps = n at hdemanded
  cases hdemanded with
  | opening ha => exact (hfirm hn).refuses ha data hdata
  | matched _ => exact refuses_empty _ data hdata
  | rejected _ => exact refuses_empty _ data hdata
  | step hc ha => exact hsteady.refuses hc ha data hdata

/-- When the demand of a session may stand in for a probe: exactly if departures from it are
refused, and so in every steady grammar once it has been fed, and in a firm one from the start. -/
theorem Reached.filter_faithful (h : Reached g w s) (hs : s.isFinished = false) :
    (s.Faithful ↔ ∀ data, s.required.Departs data → s.probe (.bytes data) = .ok none) ∧
      (g.Steady → (s.steps = 0 → g.Firm) → s.Faithful) := by
  refine ⟨faithful_iff hs,fun hsteady hfirm => (faithful_iff hs).mpr fun data hdeparts => ?_⟩
  exact h.refuses hs hsteady hfirm hdeparts.incompatible

/-- A literal after a list that may be left out: the first item is demanded, and the literal alone
is ruled out although it completes the parse. -/
theorem filter_before_optional_list :
    ∃ s, Reached (.sequence .both (.repetition (.literal (utf8 "ab")) ⟨0,none,nofun⟩)
        (.literal (utf8 "x"))) [] s ∧ s.isFinished = false ∧
      s.accepts (.bytes (utf8 "x")) = .ok false ∧
      s.validIds (Vocabulary.chunks [(7,utf8 "x")]) = .ok [] ∧
      s.probedIds [(7,utf8 "x")] = .ok [7] ∧ ¬s.Faithful := by
  refine ⟨_,.start rfl,rfl,rfl,rfl,rfl,fun hfaithful => ?_⟩
  have hids : (Except.ok [] : Except Fault (List Int)) = .ok [7] := hfaithful.2 [(7,utf8 "x")]
  cases hids

theorem filter_faithful_list :
    ∃ s, Reached (.repetition (.literal (utf8 "ab")) ⟨1,none,nofun⟩) [] s ∧ s.Faithful := by
  refine ⟨_,.start rfl,?_⟩
  have hs := (Reached.filter_faithful
    (.start rfl : Reached (.repetition (.literal (utf8 "ab")) ⟨1,none,nofun⟩) [] _) rfl).2
  exact hs (.repetition (.literal _) fun _ => .literal _)
    fun _ => .repetition Nat.one_pos (.literal _)

end Session

end GuidedDecoding
