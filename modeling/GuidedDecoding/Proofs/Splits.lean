import GuidedDecoding.Proofs.Increments
import GuidedDecoding.Proofs.Standing
import GuidedDecoding.Proofs.Total

set_option autoImplicit false

namespace GuidedDecoding

namespace Standing

/-- Both run, or both have failed, or both have the same match with the same bytes unread. -/
inductive Alike : Standing → Standing → Prop where
  | running {c c'} : Alike (.running c) (.running c')
  | finished {o rest since since'} : Alike (.finished o rest since) (.finished o rest since')
  | failed {f f'} : Alike (.failed f) (.failed f')

/-- One step over a whole input against steps over its pieces. -/
inductive AtOnce : Attempt → Standing → Prop where
  | running {c required} : AtOnce (.ok (.incomplete c required)) (.running c)
  | finished {o rest since} : AtOnce (.ok (.finished o rest)) (.finished o rest since)
  | failed {f f'} : AtOnce (.error f) (.failed f')

theorem atOnce_ofAttempt (attempt : Attempt) : AtOnce attempt (ofAttempt attempt) := by
  rcases attempt with f | (⟨o,rest⟩ | ⟨c,required⟩)
  · exact .failed
  · exact .finished
  · exact .running

theorem AtOnce.alike {attempt : Attempt} {s s' : Standing} (h : AtOnce attempt s)
    (h' : AtOnce attempt s') : Alike s s' := by
  cases h with
  | running =>
    cases h' with
    | running => exact .running
  | finished =>
    cases h' with
    | finished => exact .finished
  | failed =>
    cases h' with
    | failed => exact .failed

def proceed (keep : Keep) (a : Value) : Standing → Standing
  | .running c => .running (.inSecond c a)
  | .finished b rest since => .finished (keep.combine a b) rest since
  | .failed f => .failed f

theorem Alike.proceed {s s' : Standing} (h : Alike s s') (keep : Keep) (a : Value) :
    Alike (s.proceed keep a) (s'.proceed keep a) := by
  cases h with
  | running => exact .running
  | finished => exact .finished
  | failed => exact .failed

theorem ofAttempt_proceed (keep : Keep) (second : Checkpoint → Bytes → Attempt) (c : Checkpoint)
    (a : Value) (data : Bytes) :
    ofAttempt (keep.proceed second c a data) = (ofAttempt (second c data)).proceed keep a := by
  unfold Keep.proceed
  rcases second c data with f | (⟨b,rest⟩ | ⟨c',required⟩) <;> rfl

theorem feed_proceed (keep : Keep) (first second : Grammar) (a : Value) (s : Standing)
    (data : Bytes) :
    (s.proceed keep a).feed (.sequence keep first second) data =
      (s.feed second data).proceed keep a := by
  cases s with
  | running c => exact ofAttempt_proceed keep second.advance c a data
  | finished b rest since => rfl
  | failed f => rfl

def mapped (t : Transform) : Standing → Standing
  | .finished x rest since =>
    match t.apply x with
    | .ok o => .finished o rest since
    | .error f => .failed f
  | s => s

theorem Alike.mapped {s s' : Standing} (h : Alike s s') (t : Transform) :
    Alike (s.mapped t) (s'.mapped t) := by
  cases h with
  | running => exact .running
  | @finished x rest since since' =>
    simp only [Standing.mapped]
    cases t.apply x with
    | ok o => exact .finished
    | error f => exact .failed
  | failed => exact .failed

theorem ofAttempt_on (t : Transform) (attempt : Attempt) :
    ofAttempt (t.on attempt) = (ofAttempt attempt).mapped t := by
  rcases attempt with f | (⟨x,rest⟩ | ⟨c,required⟩)
  · rfl
  · simp only [Transform.on,ofAttempt,mapped]
    cases t.apply x <;> rfl
  · rfl

theorem feed_mapped (body : Grammar) (t : Transform) (s : Standing) (data : Bytes) :
    (s.mapped t).feed (.mapped body t) data = (s.feed body data).mapped t := by
  cases s with
  | running c => exact ofAttempt_on t (body.advance c data)
  | finished x rest since =>
    simp only [feed,mapped]
    cases t.apply x <;> rfl
  | failed f => rfl

/-- A sequence stands where its first part does, until that has ended. Then it stands where its
second part does, fed with what the first has left over. -/
inductive Sequel (keep : Keep) (second : Grammar) : Standing → Standing → Prop where
  | running {c} : Sequel keep second (.running c) (.running (.inFirst c))
  | finished {a since pieces} : pieces ≠ [] →
      Sequel keep second (.finished a pieces.flatten since)
        ((second.standing pieces).proceed keep a)
  | failed {f} : Sequel keep second (.failed f) (.failed f)

end Standing

namespace Grammar

/-- Where a parse has ended, and with what, does not depend on how its input is split. -/
def SplitInvariant (g : Grammar) : Prop :=
  ∀ chunks chunks' : List Bytes, chunks ≠ [] → chunks' ≠ [] → chunks.flatten = chunks'.flatten →
    (g.standing chunks).Alike (g.standing chunks')

theorem atOnce_standing {g : Grammar} (hfree : g.ChoiceFree) (hrepeat : g.RepeatFree)
    (htotal : g.Total) {chunks : List Bytes} (hne : chunks ≠ []) :
    Standing.AtOnce (g.advance g.initial chunks.flatten) (g.standing chunks) := by
  induction chunks using List.reverseRecOn with
  | nil => exact absurd rfl hne
  | append_singleton chunks data ih =>
    rw [standing_snoc,List.flatten_append,List.flatten_singleton]
    -- Nothing has been fed before the first chunk, which is not the same as an empty chunk.
    rcases List.eq_nil_or_concat chunks with rfl | ⟨_,_,hchunks⟩
    · exact Standing.atOnce_ofAttempt _
    · have hlast := ih (by simp [hchunks])
      generalize hs : g.standing chunks = s at hlast
      generalize ha : g.advance g.initial chunks.flatten = attempt at hlast
      cases hlast with
      | @running c required =>
        have hcarried := advance_carried hfree (fun _ : True => hrepeat)
          (fun h => absurd trivial h) g.ready_initial ha (b := data)
        rw [Standing.feed]
        rcases hx : g.advance c data with (e | f) | outcome
        · obtain ⟨e',he⟩ := hcarried.parse trivial e hx
          rw [he]
          exact .failed
        · exact absurd hx (htotal.faultless (fed_of_standing hs) data f)
        · rw [hcarried.ok outcome hx]
          exact Standing.atOnce_ofAttempt _
      | finished =>
        rw [(g.advance_final g.initial).finished ha]
        exact .finished
      | @failed f =>
        cases f with
        | parse e =>
          rw [(g.advance_final g.initial).parseError ha]
          exact .failed
        | fault f => exact absurd ha (htotal.faultless .start _ f)

theorem splitInvariant_of_choiceFree {g : Grammar} (hfree : g.ChoiceFree) (hrepeat : g.RepeatFree)
    (htotal : g.Total) : g.SplitInvariant := by
  intro chunks chunks' hne hne' hflatten
  have h := atOnce_standing hfree hrepeat htotal hne
  rw [hflatten] at h
  exact h.alike (atOnce_standing hfree hrepeat htotal hne')

theorem sequel_standing (keep : Keep) (first second : Grammar) (chunks : List Bytes) :
    Standing.Sequel keep second (first.standing chunks)
      ((sequence keep first second).standing chunks) := by
  induction chunks using List.reverseRecOn with
  | nil => exact .running
  | append_singleton chunks data ih =>
    rw [standing_snoc,standing_snoc]
    generalize first.standing chunks = s at ih
    generalize (sequence keep first second).standing chunks = s' at ih
    cases ih with
    | @running c =>
      simp only [Standing.feed,advance]
      rcases first.advance c data with f | (⟨a,rest⟩ | ⟨c',required⟩)
      · exact .failed
      · have hstart : (Standing.ofAttempt (second.advance second.initial rest)) =
            second.standing [rest] := rfl
        simp only [Standing.ofAttempt_proceed,hstart]
        have h : Standing.Sequel keep second (.finished a [rest].flatten 0) _ :=
          .finished (List.cons_ne_nil rest [])
        rwa [List.flatten_singleton] at h
      · exact .running
    | @finished a since pieces hpieces =>
      rw [Standing.feed_proceed,← standing_snoc]
      have h : Standing.Sequel keep second (.finished a (pieces ++ [data]).flatten (since + 1)) _ :=
        .finished (List.append_ne_nil_of_left_ne_nil hpieces [data])
      rwa [List.flatten_append,List.flatten_singleton] at h
    | failed => exact .failed

theorem SplitInvariant.sequence {keep : Keep} {first second : Grammar}
    (hfirst : first.SplitInvariant) (hsecond : second.SplitInvariant) :
    (Grammar.sequence keep first second).SplitInvariant := by
  intro chunks chunks' hne hne' hflatten
  have hs := sequel_standing keep first second chunks
  have hs' := sequel_standing keep first second chunks'
  have halike := hfirst chunks chunks' hne hne' hflatten
  generalize first.standing chunks = s at hs halike
  generalize first.standing chunks' = s' at hs' halike
  generalize (Grammar.sequence keep first second).standing chunks = t at hs ⊢
  generalize (Grammar.sequence keep first second).standing chunks' = t' at hs' ⊢
  cases hs with
  | running =>
    cases halike with
    | running =>
      cases hs' with
      | running => exact .running
  | @finished a since pieces hpieces =>
    generalize hrest : pieces.flatten = rest at halike
    cases halike with
    | finished =>
      cases hs' with
      | finished hpieces' => exact (hsecond _ _ hpieces hpieces' hrest).proceed keep a
  | failed =>
    cases halike with
    | failed =>
      cases hs' with
      | failed => exact .failed

theorem standing_mapped (body : Grammar) (t : Transform) (chunks : List Bytes) :
    (mapped body t).standing chunks = (body.standing chunks).mapped t := by
  induction chunks using List.reverseRecOn with
  | nil => rfl
  | append_singleton chunks data ih =>
    rw [standing_snoc,standing_snoc,ih,Standing.feed_mapped]

theorem SplitInvariant.mapped {body : Grammar} {t : Transform} (h : body.SplitInvariant) :
    (Grammar.mapped body t).SplitInvariant := by
  intro chunks chunks' hne hne' hflatten
  rw [standing_mapped,standing_mapped]
  exact (h chunks chunks' hne hne' hflatten).mapped t

end Grammar

end GuidedDecoding
