import GuidedDecoding.Proofs.Asking

set_option autoImplicit false

namespace GuidedDecoding

namespace Repetition

/-- Why a repetition ends that has put out `outputs` and leaves `rest`. -/
inductive Stops (item : Grammar) (bounds : Bounds) (outputs : List Value) (rest : Bytes) :
    Prop where
  | refused {e} :
      item.advance item.initial rest = .error (.parse e) → Stops item bounds outputs rest
  | idle {x} :
      item.advance item.initial rest = .ok (.finished x rest) → outputs.getLast? = some x →
      Stops item bounds outputs rest
  | full : bounds.isCeiling outputs.length = true → Stops item bounds outputs rest

variable {item : Grammar} {bounds : Bounds} {later inProgress : Bool} {current : Checkpoint}
  {outputs : List Value} {data rest : Bytes} {x o : Value} {result : Attempt}

theorem idle_of_stalls (hcurrent : later = false ∧ inProgress = true ∨ current = item.initial)
    (ha : item.advance current data = .ok (.finished x rest))
    (hstall : stalls later inProgress data rest = true) :
    item.advance item.initial rest = .ok (.finished x rest) := by
  rcases hcurrent with ⟨rfl,rfl⟩ | rfl
  · cases hstall
  · have hfresh : stalls false false data rest = true := by
      cases later with
      | true => exact stalls_fresh ha ▸ hstall
      | false =>
        cases inProgress with
        | true => cases hstall
        | false => exact hstall
    obtain rfl := rest_eq_of_stalls ha hfresh
    exact ha

theorem stops_of_rounds
    (h : Rounds item.toItem bounds later current outputs inProgress data result)
    (hcurrent : later = false ∧ inProgress = true ∨ current = item.initial)
    (hresult : result = .ok (.finished o rest)) :
    ∃ more, o = .list (outputs ++ more) ∧ Stops item bounds (outputs ++ more) rest := by
  induction h with
  | stop ha hend =>
    cases hresult
    simp only [mayEnd,Bool.and_eq_true,Bool.not_eq_true'] at hend
    rcases hcurrent with ⟨_,hbegun⟩ | rfl
    · cases hbegun.symm.trans hend.1
    · exact ⟨[],by simp,.refused ha⟩
  | fail _ _ => cases hresult
  | fault _ => cases hresult
  | inside _ => cases hresult
  | ceiling _ hceil =>
    cases hresult
    exact ⟨_,rfl,.full hceil⟩
  | between _ _ => exact absurd hresult pause_ne_finished
  | stall ha _ _ hstall _ =>
    cases hresult
    exact ⟨_,rfl,.idle (idle_of_stalls hcurrent ha hstall) List.getLast?_concat⟩
  | short _ _ _ _ _ => cases hresult
  | next _ _ _ _ _ ih =>
    obtain ⟨more,rfl,hstops⟩ := ih (.inr rfl) hresult
    rw [List.append_assoc] at hstops ⊢
    exact ⟨_,rfl,hstops⟩

end Repetition

namespace Grammar

variable {item : Grammar} {bounds : Bounds} {w data rest : Bytes} {current : Checkpoint}
  {outputs : List Value} {inProgress : Bool} {o : Value}

/-- A repetition that finishes has put out what it had before and more. If there was room for
another item, none could have followed: it fails on the bytes left over, or matches nothing there,
as the last one has done. -/
theorem Fed.maximal_munch
    (h : (Grammar.repetition item bounds).Fed w (.repetition current outputs inProgress))
    (ha : (Grammar.repetition item bounds).advance (.repetition current outputs inProgress) data =
      .ok (.finished o rest)) :
    ∃ more, o = .list (outputs ++ more) ∧
      ((∀ m ∈ bounds.max, (outputs ++ more).length < m) →
        (∃ e, item.advance item.initial rest = .error (.parse e)) ∨
          ∃ x, item.advance item.initial rest = .ok (.finished x rest) ∧
            (outputs ++ more).getLast? = some x) := by
  obtain ⟨_,_,_,hc,_,hbegun,⟨hmax,rfl,_⟩ | ⟨hmax,_⟩⟩ := h.ready.repetition <;> cases hc
  · simp only [advance,Repetition.advance_of_max_zero hmax] at ha
    cases ha
    exact ⟨[],rfl,fun hroom => absurd (hroom 0 hmax) (Nat.not_lt_zero _)⟩
  · have hcurrent : false = false ∧ inProgress = true ∨ current = item.initial := by
      cases inProgress with
      | true => exact .inl ⟨rfl,rfl⟩
      | false => exact .inr (hbegun rfl)
    obtain ⟨more,rfl,hstops⟩ :=
      Repetition.stops_of_rounds ((advance_repetition hmax).mp ha) hcurrent rfl
    refine ⟨more,rfl,fun hroom => ?_⟩
    cases hstops with
    | refused he => exact .inl ⟨_,he⟩
    | idle hx hlast => exact .inr ⟨_,hx,hlast⟩
    | full hceil =>
      rw [Bounds.isCeiling_eq_false.mpr hroom] at hceil
      cases hceil

def eitherWord : Grammar := .choice (.literal (utf8 "a")) [.literal (utf8 "abc")]

theorem maximal_munch_fallback :
    ∃ current, (Grammar.repetition eitherWord ⟨0,none,nofun⟩).advance
        (.repetition current [] true) (utf8 "x") =
          .ok (.finished (.list ([] ++ [.branch 0 .none])) (utf8 "bx")) ∧
      ∃ e, eitherWord.advance eitherWord.initial (utf8 "bx") = .error (.parse e) := by
  have hfed : (Grammar.repetition eitherWord ⟨0,none,nofun⟩).Fed ([] ++ utf8 "ab")
      (.repetition (.choice [none,some (.literal 2)] (some ⟨0,.none⟩) (utf8 "b")) [] true) :=
    .feed .start rfl
  have hitem : eitherWord.advance
      (.choice [none,some (.literal 2)] (some ⟨0,.none⟩) (utf8 "b")) (utf8 "x") =
        .ok (.finished (.branch 0 .none) (utf8 "bx")) := rfl
  have hend : (Grammar.repetition eitherWord ⟨0,none,nofun⟩).advance
      (.repetition (.choice [none,some (.literal 2)] (some ⟨0,.none⟩) (utf8 "b")) [] true)
      (utf8 "x") = .ok (.finished (.list ([] ++ [.branch 0 .none])) (utf8 "bx")) :=
    (advance_repetition (by decide)).mpr
      (.next hitem rfl (by decide) rfl (.stop rfl rfl))
  obtain ⟨more,_,hmunch⟩ := hfed.maximal_munch hend
  rcases hmunch nofun with hfails | ⟨x,hx,_⟩
  · exact ⟨_,hend,hfails⟩
  · cases hx

end Grammar

end GuidedDecoding
