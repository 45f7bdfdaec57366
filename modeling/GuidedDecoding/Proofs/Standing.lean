import GuidedDecoding.Proofs.Completion
import Mathlib.Data.List.Induction

set_option autoImplicit false

namespace GuidedDecoding

inductive Standing where
  | running (c : Checkpoint)
  /-- A match; `since` chunks have come after the one that ended it, and the rest includes them. -/
  | finished (output : Value) (rest : Bytes) (since : Nat)
  | failed (failure : Failure)

namespace Standing

def ofAttempt : Attempt → Standing
  | .ok (.incomplete c _) => .running c
  | .ok (.finished o rest) => .finished o rest 0
  | .error f => .failed f

def feed (g : Grammar) (data : Bytes) : Standing → Standing
  | .running c => ofAttempt (g.advance c data)
  | .finished o rest since => .finished o (rest ++ data) (since + 1)
  | .failed f => .failed f

def after (g : Grammar) (s : Standing) (chunks : List Bytes) : Standing :=
  chunks.foldl (fun s data => s.feed g data) s

def checkpoint? : Standing → Option Checkpoint
  | .running c => some c
  | _ => none

variable {g : Grammar} {s : Standing} {c : Checkpoint} {data : Bytes} {o : Value} {rest : Bytes}
  {since : Nat}

@[simp] theorem after_nil (g : Grammar) (s : Standing) : s.after g [] = s := rfl

@[simp] theorem after_cons (g : Grammar) (s : Standing) (data : Bytes) (chunks : List Bytes) :
    s.after g (data :: chunks) = (s.feed g data).after g chunks := rfl

theorem after_append (g : Grammar) (s : Standing) (chunks more : List Bytes) :
    s.after g (chunks ++ more) = (s.after g chunks).after g more :=
  List.foldl_append

theorem checkpoint?_eq_some : s.checkpoint? = some c ↔ s = .running c := by
  cases s <;> simp [checkpoint?]

theorem feed_running (h : s.feed g data = .running c) :
    ∃ c₀ required, s = .running c₀ ∧ g.advance c₀ data = .ok (.incomplete c required) := by
  cases s with
  | running c₀ =>
    simp only [feed,ofAttempt] at h
    split at h
    · rename_i required ha
      cases h
      exact ⟨c₀,required,rfl,ha⟩
    · cases h
    · cases h
  | finished o rest since => cases h
  | failed f => cases h

theorem feed_finished (h : s.feed g data = .finished o rest since) :
    (∃ c, s = .running c ∧ g.advance c data = .ok (.finished o rest) ∧ since = 0) ∨
      ∃ rest' since', s = .finished o rest' since' ∧ rest = rest' ++ data ∧ since = since' + 1 := by
  cases s with
  | running c =>
    simp only [feed,ofAttempt] at h
    split at h
    · cases h
    · rename_i ha
      cases h
      exact .inl ⟨c,rfl,ha,rfl⟩
    · cases h
  | finished o' rest' since' =>
    cases h
    exact .inr ⟨rest',since',rfl,rfl,rfl⟩
  | failed f => cases h

theorem feed_failed {f : Failure} (h : s.feed g data = .failed f) :
    (∃ c, s = .running c ∧ g.advance c data = .error f) ∨ s = .failed f := by
  cases s with
  | running c =>
    simp only [feed,ofAttempt] at h
    split at h
    · cases h
    · cases h
    · rename_i ha
      cases h
      exact .inl ⟨c,rfl,ha⟩
  | finished o rest since => cases h
  | failed f' =>
    cases h
    exact .inr rfl

end Standing

namespace Grammar

variable {g : Grammar} {chunks : List Bytes} {data : Bytes} {c : Checkpoint}

/-- Where a parse stands that has been fed `chunks` from the start. -/
def standing (g : Grammar) (chunks : List Bytes) : Standing :=
  (Standing.running g.initial).after g chunks

theorem standing_snoc (g : Grammar) (chunks : List Bytes) (data : Bytes) :
    g.standing (chunks ++ [data]) = (g.standing chunks).feed g data := by
  rw [standing,Standing.after_append]
  rfl

theorem fed_of_standing (h : g.standing chunks = .running c) : g.Fed chunks.flatten c := by
  induction chunks using List.reverseRecOn generalizing c with
  | nil =>
    cases h
    exact .start
  | append_singleton chunks data ih =>
    rw [standing_snoc] at h
    obtain ⟨c₀,required,hs,ha⟩ := Standing.feed_running h
    rw [List.flatten_append,List.flatten_singleton]
    exact (ih hs).feed ha

theorem paused_of_standing (hne : chunks ≠ []) (h : g.standing chunks = .running c) :
    g.Paused c := by
  induction chunks using List.reverseRecOn with
  | nil => exact absurd rfl hne
  | append_singleton chunks data _ =>
    rw [standing_snoc] at h
    obtain ⟨c₀,required,hs,ha⟩ := Standing.feed_running h
    exact (fed_of_standing hs).ready.paused ha

end Grammar

end GuidedDecoding
