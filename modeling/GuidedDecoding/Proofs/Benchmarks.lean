import GuidedDecoding.Proofs.IntegerLists
import GuidedDecoding.Report.Benchmark

set_option autoImplicit false

namespace GuidedDecoding

namespace Printing

variable {α β : Type}

/-- Whatever has been printed before, no parse error comes up. -/
def Unrefused (p : Printing α) : Prop := ∀ printed e, (p.run.run printed).1 ≠ .error (.parse e)

theorem Unrefused.transcript {p : Printing α} (h : p.Unrefused) (e : ParseError) :
    p.transcript.2 ≠ .error (.parse e) := h "" e

theorem unrefused_pure (a : α) : Unrefused (pure a) := by
  intro printed e h
  cases h

theorem Unrefused.bind {p : Printing α} {f : α → Printing β} (hp : p.Unrefused)
    (hf : ∀ a, (f a).Unrefused) : (p >>= f).Unrefused := by
  intro printed e h
  rw [ExceptT.run_bind,StateT.run_bind] at h
  rcases hrun : p.run.run printed with ⟨e' | a,printed'⟩
  · rw [hrun] at h
    cases h
    exact hp printed e (congrArg Prod.fst hrun)
  · rw [hrun] at h
    exact hf a printed' e h

theorem unrefused_raise (f : Fault) : (raise f : Printing α).Unrefused := by
  intro printed e h
  cases h

theorem unrefused_guard {c : Prop} [Decidable c] (f : Fault) {next : Unit → Printing β}
    (h : (next ()).Unrefused) : (if c then raise f >>= next else next ()).Unrefused := by
  split
  · intro printed e h
    cases h
  · exact h

theorem unrefused_ofFaulty (x : Except Fault α) : (ofFaulty x).Unrefused := by
  cases x with
  | ok a => exact unrefused_pure a
  | error f => exact unrefused_raise f

theorem Unrefused.bind_ofFaulty {x : Except Fault α} {f : α → Printing β}
    (hf : ∀ a, x = .ok a → (f a).Unrefused) : (ofFaulty x >>= f).Unrefused := by
  cases x with
  | ok a =>
    rw [ofFaulty,pure_bind]
    exact hf a rfl
  | error fault =>
    intro printed e h
    cases h

theorem unrefused_ofExcept {x : Except Failure α} (hx : ∀ e, x ≠ .error (.parse e)) :
    (ofExcept x).Unrefused := by
  intro printed e h
  cases x with
  | ok a => cases h
  | error failure =>
    cases h
    exact hx e rfl

theorem unrefused_text (s : String) : (text s).Unrefused := by
  intro printed e h
  cases h

theorem unrefused_drawing (d : Layout.Drawing) : (drawing d).Unrefused :=
  (unrefused_ofFaulty _).bind fun _ => unrefused_text _

theorem unrefused_line (markup : String) : (line markup).Unrefused :=
  ((unrefused_ofFaulty _).bind fun _ => unrefused_pure _).bind fun _ => unrefused_drawing _

theorem unrefused_header (title : Datum) : (header title).Unrefused := by
  refine (unrefused_line _).bind fun _ => (unrefused_line _).bind fun _ => ?_
  split
  · exact unrefused_raise _
  · exact (unrefused_line _).bind fun _ => unrefused_line _

theorem unrefused_info (message : Datum) : (info message).Unrefused := unrefused_line _

theorem unrefused_table (t : Layout.Table) : (table t).Unrefused :=
  (unrefused_line _).bind fun _ => (unrefused_drawing _).bind fun _ => unrefused_line _

end Printing

theorem Bytes.ne_nil_of_mem_pieces {size : Nat} {data piece : Bytes}
    (h : piece ∈ data.pieces size) : piece ≠ [] := by
  fun_induction Bytes.pieces size data with
  | case1 data hdata ih =>
    rcases List.mem_cons.mp h with rfl | h
    · simp [hdata.2,Nat.ne_of_gt hdata.1]
    · exact ih h
  | case2 data _ => cases h

theorem IntegerList.Valid.exists_cycle {l : IntegerList} (h : l.Valid) (count : Int) :
    ∃ values, l.cycle count = .ok values ∧ ∀ v ∈ values, l.least ≤ v ∧ v ≤ l.greatest := by
  have hle := h.least_le
  have hspan : 0 < l.greatest - l.least + 1 := by omega
  have hne : ¬(0 < count ∧ l.greatest - l.least + 1 = 0) := by omega
  refine ⟨_,if_neg hne,fun v hv => ?_⟩
  obtain ⟨i,_,rfl⟩ := List.mem_map.mp hv
  have hnonneg := Int.fmod_nonneg_of_pos (i : Int) hspan
  have hlt := Int.fmod_lt_of_pos (i : Int) hspan
  omega

namespace Report.Benchmark

variable {item : Grammar} {bounds : Bounds} {whole : Series} {b : Benchmark}

theorem exists_feedAll_of_along {s : Session} {chunks : List Bytes} (hitem : item.Plain)
    (hlegible : Series.Legible item whole) (hg : s.grammar = .repetition item bounds)
    (h : Series.Along item bounds whole chunks.flatten s.standing)
    (hne : ∀ chunk ∈ chunks, chunk ≠ []) : ∃ steps, feedAll s chunks = .ok steps := by
  induction chunks generalizing s with
  | nil => exact ⟨0,rfl⟩
  | cons chunk chunks ih =>
    cases hs : s.isFinished with
    | true => exact ⟨0,by simp only [feedAll,hs,if_true]⟩
    | false =>
      obtain ⟨o,s',hfeed,hg',halong⟩ := h.feed_session hitem hlegible hg hs
        (hne chunk List.mem_cons_self)
      obtain ⟨steps,hsteps⟩ := ih hg' halong fun other hother =>
        hne other (List.mem_cons_of_mem _ hother)
      refine ⟨steps + 1,?_⟩
      simp only [feedAll,hs,hfeed,hsteps,Except.map,Bool.false_eq_true,if_false]

theorem exists_parseOnce (hvalid : b.options.Valid) (hsize : 1 ≤ b.chunkSize) {g : Grammar}
    (hg : b.options.grammar = .ok g) :
    ∃ input steps, b.options.sample b.items = .ok input ∧
      parseOnce g (b.chunks input) = .ok steps := by
  obtain ⟨bounds,hgrammar,_⟩ := hvalid.exists_grammar
  cases hgrammar.symm.trans hg
  obtain ⟨values,hcycle,hvalues⟩ := hvalid.exists_cycle b.items
  obtain ⟨s,hstart⟩ := Series.exists_start bounds hvalid.plain_item.total
  have hflatten : (b.chunks (b.options.write values)).flatten = b.options.write values :=
    Bytes.flatten_pieces _ _ (by omega)
  have halong := Series.along_start hstart (b.options.words values)
  rw [IntegerList.bytes_words,← hflatten] at halong
  obtain ⟨steps,hsteps⟩ := exists_feedAll_of_along hvalid.plain_item
    (hvalid.legible_words hvalues) (Session.running_start hstart).grammar halong
    fun _ => Bytes.ne_nil_of_mem_pieces
  refine ⟨b.options.write values,steps,?_,?_⟩
  · rw [IntegerList.sample,hcycle]
    rfl
  · simp only [parseOnce,hstart,hsteps]

/-- Each iteration parses the input anew, so all of them take as many steps as the first. -/
theorem parseTimes_eq (g : Grammar) (chunks : List Bytes) (steps times : Nat) :
    parseTimes g chunks steps times =
      if times = 0 then .ok steps else (parseOnce g chunks).map (steps + · * times) := by
  induction times generalizing steps with
  | zero => rfl
  | succ times ih =>
    rw [parseTimes]
    cases hparse : parseOnce g chunks with
    | error e => rfl
    | ok more =>
      simp only [ih,hparse,Except.map,Nat.succ_ne_zero,if_false]
      split
      · subst times
        rw [Nat.zero_add,Nat.mul_one]
      · rw [Nat.add_assoc,Nat.mul_succ,Nat.add_comm more]

theorem exists_parseAll (hvalid : b.options.Valid) (hsize : 1 ≤ b.chunkSize) {g : Grammar}
    (hg : b.options.grammar = .ok g) :
    ∃ input steps, b.options.sample b.items = .ok input ∧
      b.parseAll g (b.chunks input) = .ok steps := by
  obtain ⟨input,steps,hinput,honce⟩ := exists_parseOnce hvalid hsize hg
  refine ⟨input,steps * b.iterations.toNat,hinput,?_⟩
  rw [parseAll,parseTimes_eq,honce]
  split
  · rename_i htimes
    rw [htimes,Nat.mul_zero]
  · simp only [Except.map,Nat.zero_add]

theorem unrefused_announce (l : IntegerList) : l.announce.Unrefused :=
  (Printing.unrefused_info _).bind fun _ => (Printing.unrefused_info _).bind fun _ =>
    (Printing.unrefused_info _).bind fun _ => Printing.unrefused_line _

theorem unrefused_report (w : Stopwatch)
    (hparse : ∀ g input, b.options.grammar = .ok g → b.options.sample b.items = .ok input →
      ∀ e, b.parseAll g (b.chunks input) ≠ .error (.parse e)) : (b.report w).Unrefused := by
  unfold report
  refine (Printing.unrefused_header _).bind fun _ => (unrefused_announce _).bind fun _ => ?_
  dsimp only
  refine Printing.unrefused_guard _
    (.bind_ofFaulty fun g hg => .bind_ofFaulty fun input hinput => ?_)
  refine (Printing.unrefused_info _).bind fun _ =>
    (Printing.unrefused_ofExcept (hparse g input hg hinput)).bind fun steps =>
      (Printing.unrefused_ofFaulty _).bind fun throughput => ?_
  exact Printing.unrefused_guard _
    ((Printing.unrefused_table _).bind fun _ => Printing.unrefused_pure _)

end Report.Benchmark

namespace IntegerList

/-- A list that is cut into pieces is read back from them. If each of its values is in range and
there are no more of them than may be, all pieces can be fed, and then the session has finished with
the values, or stands behind them, or behind all but the last of them, which it holds as a number
that may go on. A benchmark of such lists is never refused, also if it makes one that is too
long. -/
theorem round_trip (l : IntegerList) (h : l.Valid) :
    ∃ g s₀, l.grammar = .ok g ∧ Session.start g = .ok s₀ ∧
      (∀ (values : List Int) (chunks : List Bytes),
        (∀ v ∈ values, l.least ≤ v ∧ v ≤ l.greatest) → (∀ m ∈ l.most, (values.length : Int) ≤ m) →
        (∀ chunk ∈ chunks, chunk ≠ []) → chunks.flatten = l.write values →
        ∃ s, s₀.feedAll chunks = .ok s ∧ s.Recovers values) ∧
      ∀ b : Report.Benchmark, b.options = l → 1 ≤ b.chunkSize →
        (∃ input steps, l.sample b.items = .ok input ∧
          b.parseAll g (b.chunks input) = .ok steps) ∧
        ∀ w e, (b.report w).transcript.2 ≠ .error (.parse e) := by
  obtain ⟨bounds,hg,_⟩ := h.exists_grammar
  obtain ⟨s₀,hstart⟩ := Series.exists_start bounds h.plain_item.total
  refine ⟨_,s₀,hg,hstart,fun values chunks hvalues hmost hne hchunks =>
    h.exists_feedAll hg hstart hvalues hmost hne hchunks,?_⟩
  rintro b rfl hsize
  have hparse := Report.Benchmark.exists_parseAll h hsize hg
  refine ⟨hparse,fun w =>
    (Report.Benchmark.unrefused_report w fun g' input hg' hinput e he => ?_).transcript⟩
  obtain ⟨input',steps,hinput',hsteps⟩ := hparse
  cases hg.symm.trans hg'
  cases hinput'.symm.trans hinput
  cases hsteps.symm.trans he

def hyphenated : IntegerList := { separator := "-", least := -12, greatest := 34, most := some 2 }

theorem round_trip_hyphenated :
    ∃ g s₀ s, hyphenated.grammar = .ok g ∧ Session.start g = .ok s₀ ∧
      s₀.feedAll [utf8 "--",utf8 "5-1",utf8 "2"] = .ok s ∧ s.Recovers [-5,12] ∧
      ∀ w e, (Report.Benchmark.report { options := hyphenated, items := 3 } w).transcript.2 ≠
        .error (.parse e) := by
  have hvalid : hyphenated.Valid := ⟨by decide,by decide,by decide,45,[],by decide,by decide⟩
  obtain ⟨g,s₀,hg,hstart,hfeed,hreport⟩ := round_trip hyphenated hvalid
  obtain ⟨s,hs,hrecovers⟩ := hfeed [-5,12] [utf8 "--",utf8 "5-1",utf8 "2"] (by decide) (by decide)
    (by decide) (by decide)
  exact ⟨g,s₀,s,hg,hstart,hs,hrecovers,
    (hreport { options := hyphenated, items := 3 } rfl (by decide)).2⟩

end IntegerList

end GuidedDecoding
