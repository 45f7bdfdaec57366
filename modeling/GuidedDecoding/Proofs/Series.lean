import GuidedDecoding.Proofs.Delivery
import GuidedDecoding.Proofs.Replay

set_option autoImplicit false

namespace GuidedDecoding

theorem Bounds.max_of_isCeiling {bounds : Bounds} {n : Nat} (hroom : ∀ m ∈ bounds.max, n < m)
    (h : bounds.isCeiling ((n + 1 : Nat) : Int) = true) : bounds.max = some (n + 1) := by
  cases hm : bounds.max with
  | none => simp [isCeiling,hm] at h
  | some m =>
    have hlt := hroom m hm
    simp [isCeiling,hm] at h
    congr 1
    omega

abbrev Series := List (Bytes × Value)

namespace Series

def bytes (words : Series) : Bytes := words.flatMap Prod.fst

def values (words : Series) : List Value := words.map Prod.snd

end Series

/-- Neither a choice nor a repetition, so nothing is held back, and no transform that fails. -/
structure Grammar.Plain (item : Grammar) : Prop where
  choiceFree : item.ChoiceFree
  repeatFree : item.RepeatFree
  total : item.Total

/-- Of `word` with `tail` behind it, every start is read as part of the word, or else as the word
with the bytes that follow left over. -/
def Grammar.Reads (item : Grammar) (word : Bytes) (x : Value) (tail : Bytes) : Prop :=
  ∀ data, data <+: word ++ tail →
    (data <+: word ∧
      ∃ c required, item.advance item.initial data = .ok (.incomplete c required)) ∨
    ∃ rest, data = word ++ rest ∧ item.advance item.initial data = .ok (.finished x rest)

namespace Series

inductive Legible (item : Grammar) : Series → Prop where
  | nil : Legible item []
  | cons {word x words} :
      word ≠ [] → item.Reads word x (bytes words) → Legible item words →
      Legible item ((word,x) :: words)

/-- Where a repetition stands in the series `whole`, of which `more` is still to come. -/
inductive Along (item : Grammar) (bounds : Bounds) (whole : Series) (more : Bytes) :
    Standing → Prop where
  | between {past words} :
      whole = past ++ words → (∀ m ∈ bounds.max, past.length < m) → bytes words = more →
      Along item bounds whole more (.running (.repetition item.initial (values past) false))
  | inside {past words word x read left c required} :
      whole = past ++ (word,x) :: words → (∀ m ∈ bounds.max, past.length < m) →
      item.advance item.initial read = .ok (.incomplete c required) → read ++ left = word →
      left ++ bytes words = more →
      Along item bounds whole more (.running (.repetition c (values past) true))
  | full {past words rest since} :
      whole = past ++ words → bounds.max = some past.length → rest ++ more = bytes words →
      Along item bounds whole more (.finished (.list (values past)) rest since)
  | closed :
      bounds.max = some 0 → bytes whole = more →
      Along item bounds whole more (.running (.repetition item.initial [] false))

variable {item : Grammar} {bounds : Bounds} {whole past words : Series} {more : Bytes}

theorem bytes_cons (word : Bytes) (x : Value) (words : Series) :
    bytes ((word,x) :: words) = word ++ bytes words := rfl

theorem values_snoc (past : Series) (word : Bytes) (x : Value) :
    values (past ++ [(word,x)]) = values past ++ [x] := by simp [values]

theorem length_values (words : Series) : (values words).length = words.length := List.length_map _

theorem Legible.of_append (h : Legible item (past ++ words)) : Legible item words := by
  induction past with
  | nil => exact h
  | cons entry past ih =>
    cases h with
    | cons _ _ h => exact ih h

theorem Legible.eq_nil (h : Legible item words) (hbytes : bytes words = []) : words = [] := by
  cases h with
  | nil => rfl
  | cons hword _ _ => exact absurd (List.append_eq_nil_iff.mp hbytes).1 hword

theorem left_of_split {data word tail left : Bytes} (hdata : data ++ more = word ++ tail)
    (hleft : data ++ left = word) : left ++ tail = more := by
  rw [← hleft,List.append_assoc] at hdata
  exact (List.append_cancel_left hdata).symm

theorem exists_rounds_of_finished {later inProgress : Bool} {current : Checkpoint}
    {data rest word : Bytes} {x : Value} (hfresh : Faultless (item.advance item.initial))
    (hwhole : whole = past ++ (word,x) :: words) (hroom : ∀ m ∈ bounds.max, past.length < m)
    (ha : item.advance current data = .ok (.finished x rest)) (hrest : rest ++ more = bytes words)
    (hstall : Repetition.stalls later inProgress data rest = false)
    (hnext : rest ≠ [] → ∀ past, whole = past ++ words → (∀ m ∈ bounds.max, past.length < m) →
      ∃ result,
        Repetition.Rounds item.toItem bounds true item.initial (values past) false rest result ∧
          Along item bounds whole more (.ofAttempt result)) :
    ∃ result,
      Repetition.Rounds item.toItem bounds later current (values past) inProgress data result ∧
        Along item bounds whole more (.ofAttempt result) := by
  have hpast : whole = (past ++ [(word,x)]) ++ words := by
    rw [hwhole,List.append_assoc]
    rfl
  have hlength : (values past ++ [x]).length = past.length + 1 := by
    rw [List.length_append,length_values]
    rfl
  cases hceil : bounds.isCeiling (values past ++ [x]).length with
  | true =>
    refine ⟨_,.ceiling ha hceil,?_⟩
    rw [hlength] at hceil
    rw [← values_snoc past word x]
    exact .full hpast ((Bounds.max_of_isCeiling hroom hceil).trans (by simp)) hrest
  | false =>
    have hroom' : ∀ m ∈ bounds.max, (past ++ [(word,x)]).length < m := by
      have h := Bounds.isCeiling_eq_false.mp hceil
      rw [hlength] at h
      simpa using h
    by_cases hne : rest = []
    · subst hne
      obtain ⟨required,hp⟩ : ∃ required, Repetition.pause item.toItem bounds (values past ++ [x]) =
          .ok (.incomplete (.repetition item.initial (values past ++ [x]) false) required) :=
        Repetition.exists_pause _ _ hfresh
      refine ⟨_,.between ha hceil,?_⟩
      rw [hp,← values_snoc past word x]
      exact .between hpast hroom' hrest.symm
    · obtain ⟨result,hrounds,halong⟩ := hnext hne _ hpast hroom'
      rw [values_snoc] at hrounds
      exact ⟨result,.next ha hceil hne hstall hrounds,halong⟩

theorem Legible.exists_rounds (hwords : Legible item words)
    (hfresh : Faultless (item.advance item.initial)) (later : Bool) {data : Bytes}
    (hwhole : whole = past ++ words) (hroom : ∀ m ∈ bounds.max, past.length < m) (hne : data ≠ [])
    (hdata : data ++ more = bytes words) :
    ∃ result,
      Repetition.Rounds item.toItem bounds later item.initial (values past) false data result ∧
        Along item bounds whole more (.ofAttempt result) := by
  induction hwords generalizing past later data with
  | nil => exact absurd (List.append_eq_nil_iff.mp hdata).1 hne
  | @cons word x words hword hreads _ ih =>
    obtain ⟨⟨left,hleft⟩,c,required,ha⟩ | ⟨rest,rfl,ha⟩ := hreads data ⟨more,hdata⟩
    · exact ⟨_,.inside ha,.inside hwhole hroom ha hleft (left_of_split hdata hleft)⟩
    · rw [bytes_cons,List.append_assoc] at hdata
      have hrest := List.append_cancel_left hdata
      have hlt := List.length_pos_iff.mpr hword
      have hstall : Repetition.stalls later false (word ++ rest) rest = false := by
        cases later <;> simp [Repetition.stalls] <;> omega
      exact exists_rounds_of_finished hfresh hwhole hroom ha hrest hstall
        fun hne _ hwhole hroom => ih true hwhole hroom hne hrest

/-- What two steps come to in an item is what one step over both comes to, if that is a success. -/
theorem advance_of_both {read data : Bytes} {c : Checkpoint} {required : Requirement}
    {outcome : Outcome} (hitem : item.Plain)
    (ha : item.advance item.initial read = .ok (.incomplete c required))
    (hboth : item.advance item.initial (read ++ data) = .ok outcome) :
    item.advance c data = .ok outcome := by
  have hcarried := Grammar.advance_carried hitem.choiceFree (fun _ : True => hitem.repeatFree)
    (fun h => absurd trivial h) item.ready_initial ha (b := data)
  rcases hx : item.advance c data with (e | f) | outcome'
  · obtain ⟨e',he⟩ := hcarried.parse trivial e hx
    cases he.symm.trans hboth
  · exact absurd hx (hitem.total.faultless (.feed .start ha) data f)
  · exact (hcarried.ok outcome' hx).symm.trans hboth

theorem Legible.exists_rounds_inside {word read data left : Bytes} {x : Value} {c : Checkpoint}
    {required : Requirement} (hwords : Legible item ((word,x) :: words)) (hitem : item.Plain)
    (hwhole : whole = past ++ (word,x) :: words) (hroom : ∀ m ∈ bounds.max, past.length < m)
    (hread : item.advance item.initial read = .ok (.incomplete c required))
    (hword : read ++ left = word) (hdata : left ++ bytes words = data ++ more) :
    ∃ result,
      Repetition.Rounds item.toItem bounds false c (values past) true data result ∧
        Along item bounds whole more (.ofAttempt result) := by
  have hfresh : Faultless (item.advance item.initial) := hitem.total.faultless .start
  cases hwords with
  | cons _ hreads hwords =>
    have hsplit : (read ++ data) ++ more = word ++ bytes words := by
      rw [← hword,List.append_assoc,List.append_assoc,hdata]
    obtain ⟨⟨left',hleft⟩,c',required',ha⟩ | ⟨rest,hrest,ha⟩ :=
      hreads (read ++ data) ⟨more,hsplit⟩
    · have hstep := advance_of_both hitem hread ha
      exact ⟨_,.inside hstep,.inside hwhole hroom ha hleft (left_of_split hsplit hleft)⟩
    · have hstep := advance_of_both hitem hread ha
      rw [hrest,List.append_assoc] at hsplit
      have hleft := List.append_cancel_left hsplit
      exact exists_rounds_of_finished hfresh hwhole hroom hstep hleft rfl
        fun hne _ hwhole hroom => hwords.exists_rounds hfresh true hwhole hroom hne hleft

theorem Along.of_rounds {current : Checkpoint} {outputs : List Value} {inProgress : Bool}
    {data : Bytes} (hroom : ∀ m ∈ bounds.max, past.length < m)
    (h : ∃ result,
      Repetition.Rounds item.toItem bounds false current outputs inProgress data result ∧
        Along item bounds whole more (.ofAttempt result)) :
    Along item bounds whole more
      (Standing.feed (.repetition item bounds) data
        (.running (.repetition current outputs inProgress))) := by
  have hmax : bounds.max ≠ some 0 := fun hzero => absurd (hroom 0 hzero) (Nat.not_lt_zero _)
  obtain ⟨result,hrounds,halong⟩ := h
  have ha := (Grammar.advance_repetition hmax).mpr hrounds
  rw [Standing.feed,ha]
  exact halong

theorem Along.feed {s : Standing} {data : Bytes} (hitem : item.Plain)
    (hlegible : Legible item whole) (h : Along item bounds whole (data ++ more) s)
    (hne : data ≠ []) : Along item bounds whole more (s.feed (.repetition item bounds) data) := by
  cases h with
  | @between past words hwhole hroom hmore =>
    have hwords : Legible item words := (hwhole ▸ hlegible).of_append
    exact .of_rounds hroom
      (hwords.exists_rounds (hitem.total.faultless .start) false hwhole hroom hne hmore.symm)
  | @inside past words word x read left c required hwhole hroom hread hword hmore =>
    have hwords : Legible item ((word,x) :: words) := (hwhole ▸ hlegible).of_append
    exact .of_rounds hroom
      (hwords.exists_rounds_inside hitem hwhole hroom hread hword hmore)
  | full hwhole hmax hmore =>
    rw [← List.append_assoc] at hmore
    exact .full hwhole hmax hmore
  | closed hmax hmore =>
    have ha : (Grammar.repetition item bounds).advance (.repetition item.initial [] false) data =
        .ok (.finished (.list (values [])) data) := Repetition.advance_of_max_zero hmax
    rw [Standing.feed,ha]
    exact .full rfl hmax hmore.symm

theorem Along.of_finished {o : Value} {rest : Bytes} {since : Nat}
    (hmost : ∀ m ∈ bounds.max, whole.length ≤ m)
    (h : Along item bounds whole more (.finished o rest since)) :
    o = .list (values whole) ∧ rest = [] ∧ more = [] := by
  cases h with
  | @full past words _ _ hwhole hmax hmore =>
    have hle := hmost _ hmax
    rw [hwhole,List.length_append] at hle
    obtain rfl : words = [] := List.length_eq_zero_iff.mp (by omega)
    rw [List.append_nil] at hwhole
    obtain ⟨rfl,rfl⟩ := List.append_eq_nil_iff.mp hmore
    exact ⟨hwhole ▸ rfl,rfl,rfl⟩

/-- Once the series has come in, its values have been put out, or all but the last of them, which
more bytes could still change. -/
theorem Along.at_end {s : Standing} (hlegible : Legible item whole)
    (hmost : ∀ m ∈ bounds.max, whole.length ≤ m) (h : Along item bounds whole [] s) :
    (∃ since, s = .finished (.list (values whole)) [] since) ∨
      s = .running (.repetition item.initial (values whole) false) ∨
      ∃ past word x c required, whole = past ++ [(word,x)] ∧
        item.advance item.initial word = .ok (.incomplete c required) ∧
        s = .running (.repetition c (values past) true) := by
  have hstands := h
  cases h with
  | @between past words hwhole _ hmore =>
    obtain rfl := ((hwhole ▸ hlegible).of_append : Legible item words).eq_nil hmore
    rw [List.append_nil] at hwhole
    exact .inr (.inl (hwhole ▸ rfl))
  | @inside past words word x read left c required hwhole _ hread hword hmore =>
    obtain ⟨rfl,hbytes⟩ := List.append_eq_nil_iff.mp hmore
    rw [List.append_nil] at hword
    subst hword
    have hwords : Legible item ((read,x) :: words) := (hwhole ▸ hlegible).of_append
    cases hwords with
    | cons _ _ hwords =>
      obtain rfl := hwords.eq_nil hbytes
      exact .inr (.inr ⟨past,read,x,c,required,hwhole,hread,rfl⟩)
  | full _ _ _ =>
    obtain ⟨ho,rfl,_⟩ := hstands.of_finished hmost
    rw [ho]
    exact .inl ⟨_,rfl⟩
  | closed hmax _ =>
    obtain rfl : whole = [] := List.length_eq_zero_iff.mp (Nat.le_zero.mp (hmost 0 hmax))
    exact .inr (.inl rfl)

theorem Along.feed_session {s : Session} {data : Bytes} (hitem : item.Plain)
    (hlegible : Legible item whole) (hg : s.grammar = .repetition item bounds)
    (hs : s.isFinished = false) (h : Along item bounds whole (data ++ more) s.standing)
    (hne : data ≠ []) :
    ∃ o s', s.feed (.bytes data) = .ok (o,s') ∧ s'.grammar = .repetition item bounds ∧
      Along item bounds whole more s'.standing := by
  obtain ⟨c,required,canStop,hp⟩ := Session.phase_of_not_finished hs
  have hstanding : s.standing = .running c := by simp only [Session.standing,hp]
  rw [hstanding] at h
  have halong := h.feed hitem hlegible hne
  rw [Standing.feed] at halong
  cases ha : (Grammar.repetition item bounds).advance c data with
  | error f =>
    rw [ha] at halong
    cases halong
  | ok o =>
    rw [ha] at halong
    have hfeed : s.feed (.bytes data) = .ok (o,s.commit o) := by
      simp only [Session.feed,hp,hg,Grammar.advanceChunk,Chunk.toView,ha,Except.map]
    refine ⟨o,s.commit o,hfeed,?_,?_⟩
    · cases o <;> exact hg
    · cases o <;> exact halong

theorem Along.feedAll {s : Session} {chunks : List Bytes} (hitem : item.Plain)
    (hlegible : Legible item whole) (hmost : ∀ m ∈ bounds.max, whole.length ≤ m)
    (hg : s.grammar = .repetition item bounds)
    (h : Along item bounds whole chunks.flatten s.standing) (hne : ∀ chunk ∈ chunks, chunk ≠ []) :
    ∃ s', s.feedAll chunks = .ok s' ∧ Along item bounds whole [] s'.standing := by
  induction chunks generalizing s with
  | nil => exact ⟨s,rfl,h⟩
  | cons chunk chunks ih =>
    have hchunk := hne chunk List.mem_cons_self
    have hs : s.isFinished = false := by
      cases hp : s.phase with
      | running c required canStop => simp only [Session.isFinished,hp]
      | finished o rest =>
        have hstanding : s.standing = .finished o rest 0 := by simp only [Session.standing,hp]
        rw [hstanding] at h
        have hnone := (h.of_finished hmost).2.2
        rw [List.flatten_cons,List.append_eq_nil_iff] at hnone
        exact absurd hnone.1 hchunk
    obtain ⟨o,s₁,hfeed,hg₁,halong⟩ := h.feed_session hitem hlegible hg hs hchunk
    obtain ⟨s',hall,hend⟩ :=
      ih hg₁ halong fun other hother => hne other (List.mem_cons_of_mem _ hother)
    refine ⟨s',?_,hend⟩
    simp only [Session.feedAll,hfeed]
    exact hall

theorem exists_start (bounds : Bounds) (htotal : item.Total) :
    ∃ s, Session.start (.repetition item bounds) = .ok s := by
  obtain ⟨⟨o,rest⟩ | ⟨c,required⟩,ha⟩ :=
    (.repetition htotal : (Grammar.repetition item bounds).Total).exists_outcome
  · exact ⟨_,by rw [Session.start,ha]⟩
  · exact ⟨_,by rw [Session.start,ha]⟩

theorem along_start {s : Session} (h : Session.start (.repetition item bounds) = .ok s)
    (words : Series) : Along item bounds words (bytes words) s.standing := by
  rw [Session.standing_start h]
  by_cases hmax : bounds.max = some 0
  · exact .closed hmax rfl
  · have hroom : ∀ m ∈ bounds.max, ([] : Series).length < m := fun m hm =>
      Nat.pos_of_ne_zero fun hzero => hmax (hzero ▸ hm)
    exact .between rfl hroom rfl

end Series

end GuidedDecoding
