import GuidedDecoding.Proofs.Sessions
import GuidedDecoding.Proofs.Standing
import GuidedDecoding.Session.Operation

/-!
A session is what the feeds that went through have made of it. Whatever else is done with it, and
whatever fails, a fresh session that is given only those feeds comes to the same state, and its
checkpoint is the one to which advances over their data lead.
-/

set_option autoImplicit false

namespace GuidedDecoding.Session

variable {g : Grammar} {s s' s₀ : Session} {ops more : List Operation}

def after (s : Session) (ops : List Operation) : Session :=
  ((s.performAll ops).getLast?.map Prod.fst).getD s

def log (s : Session) (ops : List Operation) : List (Operation × Answer) :=
  ops.zip ((s.performAll ops).map Prod.snd)

/-- A feed that went through: what was fed, and what it came to. -/
abbrev Step := Chunk × Outcome

def Step.operation (step : Step) : Operation := .feed step.1

def keep (steps : List Step) : Operation × Answer → List Step
  | (.feed chunk,.outcome o) => steps ++ [(chunk,o)]
  | (.reset,_) => []
  | _ => steps

/-- The feeds that went through since the last reset. -/
def kept (s : Session) (ops : List Operation) : List Step := (s.log ops).foldl keep []

def standing (s : Session) : Standing :=
  match s.phase with
  | .running c _ _ => .running c
  | .finished output remaining => .finished output remaining 0

theorem length_performAll (s : Session) (ops : List Operation) :
    (s.performAll ops).length = ops.length := by
  induction ops generalizing s with
  | nil => rfl
  | cons op ops ih => simp [performAll,ih]

theorem after_cons (s : Session) (op : Operation) (ops : List Operation) :
    s.after (op :: ops) = (s.perform op).1.after ops := by
  simp only [after,performAll,List.getLast?_cons]
  cases ((s.perform op).1.performAll ops).getLast? <;> rfl

theorem performAll_append (s : Session) (ops more : List Operation) :
    s.performAll (ops ++ more) = s.performAll ops ++ (s.after ops).performAll more := by
  induction ops generalizing s with
  | nil => rfl
  | cons op ops ih => simp only [List.cons_append,performAll,ih,after_cons]

theorem after_snoc (s : Session) (ops : List Operation) (op : Operation) :
    s.after (ops ++ [op]) = ((s.after ops).perform op).1 := by
  simp only [after,performAll_append,performAll,List.getLast?_concat,Option.map_some,
    Option.getD_some]

theorem kept_snoc (s : Session) (ops : List Operation) (op : Operation) :
    s.kept (ops ++ [op]) = keep (s.kept ops) (op,((s.after ops).perform op).2) := by
  have hlength : ops.length = ((s.performAll ops).map Prod.snd).length := by
    rw [List.length_map,length_performAll]
  simp only [kept,log,performAll_append,performAll,List.map_append,List.map_cons,List.map_nil,
    List.zip_append hlength,List.zip_cons_cons,List.zip_nil_right,List.foldl_append,
    List.foldl_cons,List.foldl_nil]

/-- How a session `s` over `g` comes about from a fresh one `s₀` by the feeds `steps`. -/
structure Folds (g : Grammar) (s₀ : Session) (steps : List Step) (s : Session) : Prop where
  grammar : s.grammar = g
  again : s₀.after (steps.map Step.operation) = s
  same : s₀.kept (steps.map Step.operation) = steps
  count : s.steps = steps.length
  finished : s.isFinished = true ↔
    ∃ chunk o rest, steps.getLast? = some (chunk,.finished o rest)
  threaded : ∃ pieces, steps.map (fun step => step.1.toView) = pieces.map .ok ∧
    g.standing pieces = s.standing

theorem standing_start (h : start g = .ok s₀) : s₀.standing = .running g.initial := by
  unfold start at h
  split at h <;> cases h <;> rfl

theorem folds_start (h : start g = .ok s₀) : Folds g s₀ [] s₀ := by
  obtain ⟨hsteps,hcheckpoint,_⟩ := fresh_of_start h
  obtain ⟨required,canStop,hp⟩ := phase_of_checkpoint? hcheckpoint
  refine ⟨(running_start h).grammar,rfl,rfl,hsteps,?_,[],rfl,(standing_start h).symm⟩
  simp [isFinished,hp]

theorem exists_view_of_feed {chunk : Chunk} {o : Outcome} (h : s.feed chunk = .ok (o,s')) :
    ∃ data, chunk.toView = .ok data := by
  unfold feed at h
  split at h
  · cases h
  · simp only [Grammar.advanceChunk] at h
    cases hview : chunk.toView with
    | error f =>
      rw [hview] at h
      cases h
    | ok data => exact ⟨data,rfl⟩

theorem perform_feed {chunk : Chunk} {o : Outcome} (h : s.feed chunk = .ok (o,s')) :
    s.perform (.feed chunk) = (s',.outcome o) := by
  simp only [perform,h]

theorem Folds.feed {steps : List Step} {chunk : Chunk} {o : Outcome} (h : Folds g s₀ steps s)
    (hfeed : s.feed chunk = .ok (o,s')) : Folds g s₀ (steps ++ [(chunk,o)]) s' := by
  obtain ⟨data,hview⟩ := exists_view_of_feed hfeed
  obtain ⟨c,required,canStop,hp,ha,rfl⟩ := feed_ok hview hfeed
  obtain ⟨pieces,hpieces,hstanding⟩ := h.threaded
  have hoperations : (steps ++ [(chunk,o)]).map Step.operation =
      steps.map Step.operation ++ [.feed chunk] := by
    rw [List.map_append]
    rfl
  refine ⟨?_,?_,?_,?_,?_,pieces ++ [data],?_,?_⟩
  · cases o <;> exact h.grammar
  · rw [hoperations,after_snoc,h.again,perform_feed hfeed]
  · rw [hoperations,kept_snoc,h.same,h.again,perform_feed hfeed]
    rfl
  · rw [List.length_append,List.length_singleton,← h.count]
    cases o <;> rfl
  · rw [List.getLast?_concat]
    cases o with
    | finished x rest => exact ⟨fun _ => ⟨chunk,x,rest,rfl⟩,fun _ => rfl⟩
    | incomplete c' required' => exact ⟨nofun,nofun⟩
  · rw [List.map_append,List.map_append,hpieces,List.map_singleton,List.map_singleton,hview]
  · rw [Grammar.standing_snoc,hstanding]
    simp only [standing,hp,Standing.feed,← h.grammar,ha]
    cases o <;> rfl

/-- No operation but a feed that goes through and a reset has any effect. -/
theorem Folds.perform {steps : List Step} (hstart : start g = .ok s₀) (h : Folds g s₀ steps s)
    (op : Operation) : Folds g s₀ (keep steps (op,(s.perform op).2)) (s.perform op).1 := by
  cases op with
  | feed chunk =>
    cases hfeed : s.feed chunk with
    | ok result =>
      rw [perform_feed hfeed]
      exact h.feed hfeed
    | error e =>
      simp only [Session.perform,hfeed]
      exact h
  | probe chunk => exact h
  | accepts chunk => exact h
  | reset =>
    have hreset : s.reset = .ok s₀ := by rw [Session.reset,h.grammar,hstart]
    simp only [Session.perform,hreset]
    exact folds_start hstart
  | render => exact h
  | filter vocabulary => exact h

theorem folds_of_performAll (h : start g = .ok s₀) (ops : List Operation) :
    Folds g s₀ (s₀.kept ops) (s₀.after ops) := by
  induction ops using List.reverseRecOn with
  | nil => exact folds_start h
  | append_singleton ops op ih =>
    rw [kept_snoc,after_snoc]
    exact ih.perform h op

theorem feed_of_finished {chunk : Chunk} (h : s.isFinished = true) :
    s.perform (.feed chunk) = (s,.failed (.fault (.sessionFinished s.steps))) := by
  unfold isFinished at h
  split at h
  · cases h
  · rename_i hp
    simp only [perform,feed,hp]

/-- Whatever is done with a session, and whatever of it fails, the session is that of the feeds
since the last reset that went through, one after another from a fresh start, and those alone go
through in the same way. It counts them, it has finished if the last of them has, it stands where
advances over their data lead, and once it has finished it refuses every feed and stays as it is. -/
theorem after_eq_fold_of_kept {g : Grammar} {s₀ : Session} (h : start g = .ok s₀)
    (ops : List Operation) :
    s₀.after ((s₀.kept ops).map Step.operation) = s₀.after ops ∧
      s₀.kept ((s₀.kept ops).map Step.operation) = s₀.kept ops ∧
      (s₀.after ops).steps = (s₀.kept ops).length ∧
      ((s₀.after ops).isFinished = true ↔
        ∃ chunk o rest, (s₀.kept ops).getLast? = some (chunk,.finished o rest)) ∧
      (∃ pieces, (s₀.kept ops).map (fun step => step.1.toView) = pieces.map .ok ∧
        g.standing pieces = (s₀.after ops).standing) ∧
      ((s₀.after ops).isFinished = true → ∀ chunk, (s₀.after ops).perform (.feed chunk) =
        (s₀.after ops,.failed (.fault (.sessionFinished (s₀.after ops).steps)))) := by
  have hfolds := folds_of_performAll h ops
  exact ⟨hfolds.again,hfolds.same,hfolds.count,hfolds.finished,hfolds.threaded,
    fun hfinished _ => feed_of_finished hfinished⟩

def barring : Transform where
  name := "boom"
  apply _ := .error (.fault (.transformFailed "ValueError" "boom"))

def barred : Grammar :=
  .sequence .both (.literal (utf8 "ab"))
    (.choice (.mapped (.literal (utf8 "c")) barring) [.literal (utf8 "d")])

theorem after_eq_fold_of_kept_barred :
    ∃ s₀, start barred = .ok s₀ ∧
      s₀.after [.feed (utf8 "a"),.feed (utf8 "b"),.feed (utf8 "d")] =
        s₀.after [.feed (utf8 "ab"),.reset,.feed (.text "ab"),.feed (utf8 "a"),.feed (utf8 "x"),
          .feed (utf8 "b"),.feed (utf8 "c"),.probe (utf8 "d"),.feed (utf8 "d"),.feed (utf8 "d")] ∧
      (s₀.after [.feed (utf8 "a"),.feed (utf8 "b"),.feed (utf8 "d")]).steps = 3 := by
  have hstart : start barred = .ok _ := rfl
  obtain ⟨hagain,_,hsteps,_⟩ := after_eq_fold_of_kept hstart
    [.feed (utf8 "ab"),.reset,.feed (.text "ab"),.feed (utf8 "a"),.feed (utf8 "x"),
      .feed (utf8 "b"),.feed (utf8 "c"),.probe (utf8 "d"),.feed (utf8 "d"),.feed (utf8 "d")]
  exact ⟨_,hstart,hagain,hagain ▸ hsteps⟩

end GuidedDecoding.Session
