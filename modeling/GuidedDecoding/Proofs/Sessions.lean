import GuidedDecoding.Proofs.Stopping
import GuidedDecoding.Session

set_option autoImplicit false

namespace GuidedDecoding.Session

/-- `Reached g w s`: `s` is a session over `g` that has been fed the bytes `w`, in any pieces, since
it was started or last reset. -/
inductive Reached (g : Grammar) : Bytes → Session → Prop where
  | start {s} : Session.start g = .ok s → Reached g [] s
  | feed {w s chunk data o s'} :
      Reached g w s → chunk.toView = .ok data → s.feed chunk = .ok (o,s') → Reached g (w ++ data) s'
  | reset {w s s'} : Reached g w s → s.reset = .ok s' → Reached g [] s'

/-- Where the demand of a running session comes from: an advance over no bytes if nothing has been
fed, or else the last step. -/
inductive Demanded (g : Grammar) : Nat → Checkpoint → Requirement → Bool → Prop where
  | opening {c required} :
      g.advance g.initial [] = .ok (.incomplete c required) →
      Demanded g 0 g.initial required required.isEmpty
  | matched {o rest} :
      g.advance g.initial [] = .ok (.finished o rest) → Demanded g 0 g.initial .empty true
  | rejected {e} :
      g.advance g.initial [] = .error (.parse e) → Demanded g 0 g.initial .empty false
  | step {n c₀ c data required} :
      g.Ready c₀ → g.advance c₀ data = .ok (.incomplete c required) →
      Demanded g n c required required.isEmpty

structure Running (g : Grammar) (w : Bytes) (s : Session) : Prop where
  grammar : s.grammar = g
  fed : ∀ {c required canStop}, s.phase = .running c required canStop → g.Fed w c
  demanded : ∀ {c required canStop}, s.phase = .running c required canStop →
    Demanded g s.steps c required canStop

variable {g : Grammar} {s s' : Session} {w : Bytes} {c : Checkpoint} {required : Requirement}
  {canStop : Bool}

theorem running_start (h : start g = .ok s) : Running g [] s := by
  unfold start at h
  split at h
  · rename_i ha
    cases h
    refine ⟨rfl,fun hp => ?_,fun hp => ?_⟩ <;> cases hp
    · exact .start
    · exact .opening ha
  · rename_i ha
    cases h
    refine ⟨rfl,fun hp => ?_,fun hp => ?_⟩ <;> cases hp
    · exact .start
    · exact .matched ha
  · rename_i ha
    cases h
    refine ⟨rfl,fun hp => ?_,fun hp => ?_⟩ <;> cases hp
    · exact .start
    · exact .rejected ha
  · cases h

theorem fresh_of_start (h : start g = .ok s) :
    s.steps = 0 ∧ s.checkpoint? = some g.initial ∧ s.remaining = [] := by
  unfold start at h
  split at h <;> cases h <;> exact ⟨rfl,rfl,rfl⟩

theorem feed_ok {chunk : Chunk} {data : Bytes} {o : Outcome} (hdata : chunk.toView = .ok data)
    (h : s.feed chunk = .ok (o,s')) :
    ∃ c required canStop, s.phase = .running c required canStop ∧
      s.grammar.advance c data = .ok o ∧ s' = s.commit o := by
  unfold feed at h
  split at h
  · cases h
  · rename_i c required canStop hp
    simp only [Grammar.advanceChunk,hdata] at h
    cases ha : s.grammar.advance c data with
    | error e => simp [ha,Except.map] at h
    | ok o' =>
      simp only [ha,Except.map,Except.ok.injEq,Prod.mk.injEq] at h
      obtain ⟨rfl,rfl⟩ := h
      exact ⟨c,required,canStop,hp,ha,rfl⟩

theorem Reached.running (h : Reached g w s) : Running g w s := by
  induction h with
  | start h => exact running_start h
  | @feed w s chunk data o s' _ hdata hfeed ih =>
    obtain ⟨c,required,canStop,hp,ha,rfl⟩ := feed_ok hdata hfeed
    have hfed := ih.fed hp
    rw [ih.grammar] at ha
    cases o with
    | finished output remaining => exact ⟨ih.grammar,nofun,nofun⟩
    | incomplete c' required' =>
      refine ⟨ih.grammar,fun hp => ?_,fun hp => ?_⟩ <;> cases hp
      · exact hfed.feed ha
      · exact .step hfed.ready ha
  | reset _ hreset ih =>
    rw [Session.reset,ih.grammar] at hreset
    exact running_start hreset

theorem phase_of_checkpoint? (h : s.checkpoint? = some c) :
    ∃ required canStop, s.phase = .running c required canStop := by
  unfold checkpoint? at h
  split at h
  · rename_i required canStop hp
    cases h
    exact ⟨required,canStop,hp⟩
  · cases h

theorem probe_bytes (hp : s.phase = .running c required canStop) (data : Bytes) :
    s.probe (.bytes data) =
      match s.grammar.advance c data with
      | .ok o => .ok (some o)
      | .error (.parse _) => .ok none
      | .error (.fault f) => .error f := by
  simp only [probe,hp]
  rfl

theorem Demanded.ends {n : Nat} (hg : g.Candid) (h : Demanded g n c required canStop)
    (hstop : canStop = true) : ∃ o, g.Completes c [] o [] := by
  cases h with
  | opening ha =>
    obtain ⟨o,ho⟩ := hg.ends g.ready_initial ha (List.isEmpty_iff.mp hstop)
    exact ⟨o,g.ready_initial.completes ha ho⟩
  | @matched o rest ha =>
    obtain rfl := Grammar.rest_of_finished_nil ha
    exact ⟨o,g.ready_initial.completes ha ⟨rfl,rfl⟩⟩
  | rejected _ => cases hstop
  | step hc ha => exact hg.ends hc ha (List.isEmpty_iff.mp hstop)

/-- When ending a session leaves a valid parse: at the end of a match, and so whenever the session
can stop if the grammar is candid. No other checkpoint can finish without reading on. -/
theorem Reached.word_of_completes (h : Reached g w s) (hc : s.checkpoint? = some c) :
    (∀ o, g.Completes c [] o [] → g.Derives w o) ∧
      (∀ data o, s.probe (.bytes data) = .ok (some (.finished o data)) → g.Completes c [] o []) ∧
      (g.Candid → s.canStop = true → ∃ o, g.Derives w o) := by
  obtain ⟨required,canStop,hp⟩ := phase_of_checkpoint? hc
  have hrunning := h.running
  have hfed := hrunning.fed hp
  have hword (o : Value) (ho : g.Completes c [] o []) : g.Derives w o := by
    obtain ⟨u,hw,hu⟩ := hfed.derives ho
    rw [List.append_nil,List.append_nil] at hw
    exact hw ▸ hu
  refine ⟨hword,fun data o hprobe => ?_,fun hcandid hstop => ?_⟩
  · rw [probe_bytes hp,hrunning.grammar] at hprobe
    have ha : g.advance c data = .ok (.finished o data) := by
      split at hprobe
      · rename_i outcome ha
        simp only [Except.ok.injEq,Option.some.injEq] at hprobe
        exact hprobe ▸ ha
      · simp at hprobe
      · simp at hprobe
    have hend : g.Completes c (data ++ []) o data :=
      hfed.ready.completes ha ⟨rfl,(List.append_nil data).symm⟩
    have hshift : g.Completes c ([] ++ data) o ([] ++ data) := by simpa using hend
    exact hshift.of_append
  · simp only [Session.canStop,hp] at hstop
    obtain ⟨o,ho⟩ := (hrunning.demanded hp).ends hcandid hstop
    exact ⟨o,hword o ho⟩

theorem word_of_completes_list :
    (Grammar.repetition (.literal (utf8 "ab")) ⟨0,none,nofun⟩).Derives ([] ++ utf8 "ab")
        (.list [.none]) ∧
      ∃ o, (Grammar.sequence .both (.literal (utf8 "x"))
        (.repetition (.literal (utf8 "ab")) ⟨0,none,nofun⟩)).Derives ([] ++ utf8 "xab") o := by
  have hlist : Reached (.repetition (.literal (utf8 "ab")) ⟨0,none,nofun⟩) ([] ++ utf8 "ab") _ :=
    .feed (.start rfl) (rfl : (Chunk.bytes (utf8 "ab")).toView = .ok (utf8 "ab")) rfl
  have hafter : Reached (.sequence .both (.literal (utf8 "x"))
      (.repetition (.literal (utf8 "ab")) ⟨0,none,nofun⟩)) ([] ++ utf8 "xab") _ :=
    .feed (.start rfl) (rfl : (Chunk.bytes (utf8 "xab")).toView = .ok (utf8 "xab")) rfl
  have hitems : (Grammar.repetition (.literal (utf8 "ab")) ⟨0,none,nofun⟩).Candid :=
    .repetition (.insistent (.literal _)) (.inl (Nat.zero_le _))
  have hcandid : (Grammar.sequence .both (.literal (utf8 "x"))
      (.repetition (.literal (utf8 "ab")) ⟨0,none,nofun⟩)).Candid :=
    .sequence (.insistent (.literal _)) hitems (.inl (.literal _))
  exact ⟨(hlist.word_of_completes rfl).1 _ (.enough rfl),
    (hafter.word_of_completes rfl).2.2 hcandid rfl⟩

/-- Two alternatives that part after `ab`: nothing is demanded there, and yet `ab` is no word. -/
theorem canStop_before_fork :
    ∃ s, Reached (.choice (.literal (utf8 "abc")) [.literal (utf8 "abd")]) (utf8 "ab") s ∧
      s.isFinished = false ∧ s.canStop = true ∧
      ∀ o, ¬(Grammar.choice (.literal (utf8 "abc")) [.literal (utf8 "abd")]).Derives
        (utf8 "ab") o := by
  have hview : (Chunk.bytes (utf8 "ab")).toView = .ok (utf8 "ab") := rfl
  have hreached : Reached (.choice (.literal (utf8 "abc")) [.literal (utf8 "abd")])
      ([] ++ utf8 "ab") _ := .feed (.start rfl) hview rfl
  refine ⟨_,hreached,rfl,rfl,?_⟩
  intro o h
  generalize hw : utf8 "ab" = w at h
  cases h with
  | @choice _ _ i g _ x hg hx =>
    rcases i with _ | _ | i
    · obtain rfl := Option.some.inj hg
      cases hx
      exact absurd hw (by decide)
    · obtain rfl := Option.some.inj hg
      cases hx
      exact absurd hw (by decide)
    · cases hg

end GuidedDecoding.Session
