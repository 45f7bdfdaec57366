import GuidedDecoding.Proofs.Increments
import GuidedDecoding.Proofs.Segments
import GuidedDecoding.Proofs.Sessions

set_option autoImplicit false

namespace GuidedDecoding.Session

theorem Reached.started_or_stepped {g : Grammar} {w : Bytes} {s : Session} {c : Checkpoint}
    {required : Requirement} {canStop : Bool} (h : Reached g w s)
    (hp : s.phase = .running c required canStop) :
    w = [] ∧ Session.start g = .ok s ∨
      ∃ before data c₀, w = before ++ data ∧ g.Fed before c₀ ∧
        g.advance c₀ data = .ok (.incomplete c required) ∧ canStop = required.isEmpty := by
  cases h with
  | start h => exact .inl ⟨rfl,h⟩
  | @feed before s₀ chunk data o _ h hdata hfeed =>
    obtain ⟨c₀,required₀,canStop₀,hp₀,ha,rfl⟩ := feed_ok hdata hfeed
    rw [h.running.grammar] at ha
    have hfed := h.running.fed hp₀
    cases o with
    | finished o rest => cases hp
    | incomplete c' required' =>
      cases hp
      exact .inr ⟨before,data,c₀,rfl,hfed,ha,rfl⟩
  | reset h hreset =>
    rw [Session.reset,h.running.grammar] at hreset
    exact .inl ⟨rfl,hreset⟩

variable {item : Grammar} {bounds : Bounds} {w : Bytes} {s : Session} {current : Checkpoint}
  {outputs : List Value} {inProgress : Bool}

/-- The item has been asked with no bytes, before it was fed any, and has answered by what the
session demands. -/
def AsksItem (item : Grammar) (s : Session) : Prop :=
  ∃ c c', item.Fed [] c ∧ item.advance c [] = .ok (.incomplete c' s.required)

theorem start_repetition (hempty : ∀ o, ¬item.Derives [] o) (hcount : bounds.contains 0 = true)
    (h : start (.repetition item bounds) = .ok s) :
    s.canStop = s.required.isEmpty ∧ (s.required = .empty ∨ AsksItem item s) := by
  have hpause {o : Outcome}
      (ho : (Grammar.repetition item bounds).advance (Grammar.repetition item bounds).initial [] =
        .ok o) : s.canStop = s.required.isEmpty ∧
          (s.required = .empty ∨ ∃ c, o = .incomplete c s.required) := by
    simp only [start,ho] at h
    cases o with
    | incomplete c required =>
      cases h
      exact ⟨rfl,.inr ⟨c,rfl⟩⟩
    | finished x rest =>
      cases h
      exact ⟨rfl,.inl rfl⟩
  by_cases hmax : bounds.max = some 0
  · obtain ⟨hstop,hrequired⟩ := hpause (Repetition.advance_of_max_zero hmax)
    exact ⟨hstop,hrequired.imp id fun ⟨_,hc⟩ => nomatch hc⟩
  · have hend : Repetition.mayEnd bounds [] false = true := hcount
    rcases ha : item.advance item.initial [] with (e | f) | (⟨x,rest⟩ | ⟨c,required⟩)
    · obtain ⟨hstop,hrequired⟩ :=
        hpause ((Grammar.advance_repetition hmax).mpr (.stop ha hend))
      exact ⟨hstop,hrequired.imp id fun ⟨_,hc⟩ => nomatch hc⟩
    · have hfault :
          (Grammar.repetition item bounds).advance (.repetition item.initial [] false) [] =
            .error (.fault f) := (Grammar.advance_repetition hmax).mpr (.fault ha)
      simp only [start,Grammar.initial,hfault] at h
      cases h
    · obtain rfl := Grammar.rest_of_finished_nil ha
      exact absurd ha (Grammar.consumes_of_no_empty_word hempty [] x)
    · obtain ⟨hstop,hrequired⟩ := hpause ((Grammar.advance_repetition hmax).mpr (.inside ha))
      refine ⟨hstop,hrequired.imp id ?_⟩
      rintro ⟨_,⟨⟩⟩
      exact ⟨_,_,.start,ha⟩

theorem Reached.required_of_ended (h : Reached (.repetition item bounds) w s)
    (hc : s.checkpoint? = some (.repetition current outputs false)) (hsteps : 0 < s.steps)
    (hcount : bounds.contains outputs.length = true) : s.required = .empty := by
  obtain ⟨required,canStop,hp⟩ := phase_of_checkpoint? hc
  have hrequired : s.required = required := by simp only [Session.required,hp]
  obtain ⟨rfl,hstart⟩ | ⟨_,_,_,rfl,hfed,ha,_⟩ := h.started_or_stepped hp
  · exact absurd (fresh_of_start hstart).1 (Nat.ne_of_gt hsteps)
  · obtain ⟨_,_,_,hpauses⟩ := hfed.segmented_of_incomplete ha
    cases hpauses with
    | between _ hnone => exact hrequired.trans (hnone hcount)

theorem Reached.demand_of_item (hempty : ∀ o, ¬item.Derives [] o)
    (h : Reached (.repetition item bounds) w s)
    (hc : s.checkpoint? = some (.repetition current outputs inProgress)) :
    ∃ words v, item.Segmented w outputs current words v ∧ (inProgress = false → v = []) ∧
      (v = [] → bounds.contains outputs.length = true →
        s.canStop = s.required.isEmpty ∧ (s.required = .empty ∨ AsksItem item s)) := by
  obtain ⟨required,canStop,hp⟩ := phase_of_checkpoint? hc
  have hrequired : s.required = required := by simp only [Session.required,hp]
  have hstop : s.canStop = canStop := by simp only [Session.canStop,hp]
  obtain ⟨rfl,hstart⟩ | ⟨before,data,c₀,rfl,hfed,ha,hcan⟩ := h.started_or_stepped hp
  · obtain ⟨_,hinitial,_⟩ := fresh_of_start hstart
    cases hc.symm.trans hinitial
    exact ⟨[],[],⟨rfl,by simp,rfl,.start⟩,fun _ => rfl,
      fun _ hcount => start_repetition hempty hcount hstart⟩
  · obtain ⟨words,v,hsegmented,hpauses⟩ := hfed.segmented_of_incomplete ha
    rw [hstop,hrequired]
    cases hpauses with
    | between hv hnone =>
      exact ⟨words,v,hsegmented,fun _ => hv,fun _ hcount => ⟨hcan,.inl (hnone hcount)⟩⟩
    | inside hc hitem hbytes =>
      refine ⟨words,v,hsegmented,fun h => absurd h (by decide),fun hv _ => ⟨hcan,.inr ?_⟩⟩
      obtain ⟨rfl,rfl⟩ := List.append_eq_nil_iff.mp (hbytes.symm.trans hv)
      exact ⟨_,_,hc,hrequired ▸ hitem⟩

/-- Between two items, where the count is legal, a session can stop if it demands nothing. It
demands nothing if its last step has ended an item; otherwise it demands nothing or what an item
does that has been fed nothing. -/
theorem Reached.demand_between_items (hempty : ∀ o, ¬item.Derives [] o)
    (h : Reached (.repetition item bounds) w s)
    (hc : s.checkpoint? = some (.repetition current outputs inProgress)) :
    ∃ words v, item.Segmented w outputs current words v ∧ (inProgress = false → v = []) ∧
      (v = [] → bounds.contains outputs.length = true →
        s.canStop = s.required.isEmpty ∧ (s.required = .empty ∨ AsksItem item s) ∧
          (0 < s.steps → inProgress = false → s.required = .empty)) := by
  obtain ⟨words,v,hsegmented,hnone,hdemand⟩ := h.demand_of_item hempty hc
  refine ⟨words,v,hsegmented,hnone,fun hv hcount => ?_⟩
  obtain ⟨hstop,hrequired⟩ := hdemand hv hcount
  refine ⟨hstop,hrequired,fun hsteps hended => ?_⟩
  subst hended
  exact h.required_of_ended hc hsteps hcount

theorem demand_after_literal :
    ∃ s, Reached (.repetition (.literal (utf8 "ab")) ⟨0,none,nofun⟩) (utf8 "ab") s ∧ s.steps = 1 ∧
      ∃ words, (Grammar.literal (utf8 "ab")).Segmented (utf8 "ab") [.none] (.literal 0) words [] ∧
        s.required = .empty := by
  have hlist : Reached (.repetition (.literal (utf8 "ab")) ⟨0,none,nofun⟩) ([] ++ utf8 "ab") _ :=
    .feed (.start rfl) (rfl : (Chunk.bytes (utf8 "ab")).toView = .ok (utf8 "ab")) rfl
  obtain ⟨words,v,hsegmented,hv,hdemand⟩ :=
    hlist.demand_between_items (Grammar.no_empty_word_literal (by decide)) rfl
  obtain rfl := hv rfl
  exact ⟨_,hlist,rfl,words,hsegmented,(hdemand rfl rfl).2.2 Nat.one_pos rfl⟩

/-- An item that demands nothing while it has been fed nothing leaves a repetition free to stop
between any two items. -/
theorem Reached.canStop_between_items (hempty : ∀ o, ¬item.Derives [] o)
    (hitem : ∀ c c' required, item.Fed [] c → item.advance c [] = .ok (.incomplete c' required) →
      required.bytes = [])
    (h : Reached (.repetition item bounds) w s)
    (hc : s.checkpoint? = some (.repetition current outputs inProgress)) :
    ∃ words v, item.Segmented w outputs current words v ∧
      (v = [] → bounds.contains outputs.length = true →
        s.canStop = true ∧ s.required.bytes = []) := by
  obtain ⟨words,v,hsegmented,_,hdemand⟩ := h.demand_of_item hempty hc
  refine ⟨words,v,hsegmented,fun hv hcount => ?_⟩
  obtain ⟨hstop,hrequired⟩ := hdemand hv hcount
  have hnone : s.required.bytes = [] := by
    rcases hrequired with hrequired | ⟨c,c',hfed,ha⟩
    · rw [hrequired]
      rfl
    · exact hitem c c' _ hfed ha
  rw [hstop,Requirement.isEmpty,hnone]
  exact ⟨rfl,rfl⟩

/-- A list that may be empty, before it has been fed anything: it demands its first item, and a
session over it does not say that it can stop. -/
theorem demand_before_literal :
    ∃ (item : Grammar) (bounds : Bounds) (s : Session) (current : Checkpoint)
      (outputs : List Value) (inProgress : Bool),
      (∀ o, ¬item.Derives [] o) ∧ Reached (.repetition item bounds) [] s ∧
      s.checkpoint? = some (.repetition current outputs inProgress) ∧
      item.Segmented [] outputs current [] [] ∧ bounds.contains outputs.length = true ∧
      s.canStop = false ∧ s.required.bytes = utf8 "ab" := by
  refine ⟨.literal (utf8 "ab"),⟨0,none,nofun⟩,_,_,_,_,Grammar.no_empty_word_literal (by decide),
    .start rfl,rfl,⟨rfl,by simp,rfl,.start⟩,rfl,rfl,rfl⟩

end GuidedDecoding.Session
