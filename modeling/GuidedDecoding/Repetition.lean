import GuidedDecoding.Outcome

/-!
Repetition proceeds in rounds, one item a round. A round either settles the step or hands the bytes
after its item to the next one. Only the first round can resume an item; every later one begins an
item afresh, and goes on only if the item consumed something, so the rounds come to an end.
-/

set_option autoImplicit false

namespace GuidedDecoding

structure Item where
  initial : Checkpoint
  advance : Checkpoint → Bytes → Attempt

namespace Repetition

inductive Round where
  | settled (result : Attempt)
  | again (outputs : List Value) (rest : Bytes)

def freshDemand (item : Item) : Except Failure Requirement :=
  match item.advance item.initial [] with
  | .ok (.incomplete _ required) => .ok required
  | .ok (.finished _ _) => .ok .empty
  | .error (.parse _) => .ok .empty
  | .error (.fault f) => .error (.fault f)

/-- A pause between items: nothing is demanded if the count is legal, else another item is. -/
def pause (item : Item) (bounds : Bounds) (outputs : List Value) : Attempt :=
  let state : Checkpoint := .repetition item.initial outputs false
  if bounds.contains outputs.length then .ok (.incomplete state .empty)
  else (freshDemand item).map fun required => .incomplete state required

/-- What follows an item that has just finished before `rest`. The ceiling comes first, then the end
of the input, then the item that made no progress. -/
def afterItem (item : Item) (bounds : Bounds) (outputs : List Value) (rest : Bytes)
    (stalled : Bool) : Round :=
  if bounds.isCeiling outputs.length then .settled (.ok (.finished (.list outputs) rest))
  else if rest.isEmpty then .settled (pause item bounds outputs)
  else if !stalled then .again outputs rest
  else if bounds.contains outputs.length then .settled (.ok (.finished (.list outputs) rest))
  else .settled (.error (.parse { reason := .emptyRepetition outputs.length bounds.min }))

/-- Whether a failing item ends the repetition legally. An item that has begun cannot be undone. -/
def mayEnd (bounds : Bounds) (outputs : List Value) (inProgress : Bool) : Bool :=
  !inProgress && bounds.contains outputs.length

def round (item : Item) (bounds : Bounds) (stalled : Bytes → Bool) (current : Checkpoint)
    (outputs : List Value) (inProgress : Bool) (data : Bytes) : Round :=
  match item.advance current data with
  | .error (.parse e) =>
    if mayEnd bounds outputs inProgress then .settled (.ok (.finished (.list outputs) data))
    else .settled (.error (.parse e))
  | .error (.fault f) => .settled (.error (.fault f))
  | .ok (.incomplete c required) =>
    .settled (.ok (.incomplete (.repetition c outputs true) required))
  | .ok (.finished output rest) =>
    afterItem item bounds (outputs ++ [output]) rest (stalled rest)

theorem not_stalled_of_round {item : Item} {bounds : Bounds} {stalled : Bytes → Bool}
    {current : Checkpoint} {outputs outputs' : List Value} {inProgress : Bool} {data rest : Bytes}
    (h : round item bounds stalled current outputs inProgress data = .again outputs' rest) :
    stalled rest = false := by
  unfold round afterItem at h
  grind

def run (item : Item) (bounds : Bounds) (outputs : List Value) (data : Bytes) : Attempt :=
  match _h : round item bounds (fun rest => data.length ≤ rest.length) item.initial outputs false
      data with
  | .settled result => result
  | .again outputs' rest => run item bounds outputs' rest
termination_by data.length
decreasing_by
  have := not_stalled_of_round _h
  simpa using this

theorem run_eq (item : Item) (bounds : Bounds) (outputs : List Value) (data : Bytes) :
    run item bounds outputs data =
      match round item bounds (fun rest => data.length ≤ rest.length) item.initial outputs false
          data with
      | .settled result => result
      | .again outputs' rest => run item bounds outputs' rest := by
  rw [run]
  split <;> simp_all

/-- The first round may resume an item. A resumed item always counts as progress, even if it gives
back bytes of an earlier step. -/
def firstRound (item : Item) (bounds : Bounds) (current : Checkpoint) (outputs : List Value)
    (inProgress : Bool) (data : Bytes) : Round :=
  round item bounds (fun rest => !inProgress && rest.length == data.length) current outputs
    inProgress data

def advance (item : Item) (bounds : Bounds) (current : Checkpoint) (outputs : List Value)
    (inProgress : Bool) (data : Bytes) : Attempt :=
  if bounds.max = some 0 then .ok (.finished (.list []) data)
  else
    match firstRound item bounds current outputs inProgress data with
    | .settled result => result
    | .again outputs' rest => run item bounds outputs' rest

end Repetition

end GuidedDecoding
