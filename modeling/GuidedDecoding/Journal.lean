import GuidedDecoding.Advance
import GuidedDecoding.Event

/-!
The events of an advance, in the order in which they happen. The control flow is that of `advance`,
whose results decide what comes next; the events themselves decide nothing.
-/

set_option autoImplicit false

namespace GuidedDecoding

abbrev ItemEvents := Checkpoint → Bytes → List Event

namespace Repetition

/-- The events of a round: those of the item, then a stop, or those of asking a fresh item. -/
def roundEvents (item : Item) (events : ItemEvents) (bounds : Bounds) (current : Checkpoint)
    (outputs : List Value) (inProgress : Bool) (data : Bytes) : List Event :=
  events current data ++
    match item.advance current data with
    | .error (.parse _) =>
      if mayEnd bounds outputs inProgress then [.repetitionStopped outputs.length data.length]
      else []
    | .ok (.finished _ []) =>
      let count := outputs.length + 1
      if bounds.isCeiling count || bounds.contains count then [] else events item.initial []
    | _ => []

def runEvents (item : Item) (events : ItemEvents) (bounds : Bounds) (outputs : List Value)
    (data : Bytes) : List Event :=
  roundEvents item events bounds item.initial outputs false data ++
    match _h : round item bounds (fun rest => data.length ≤ rest.length) item.initial outputs false
        data with
    | .settled _ => []
    | .again outputs' rest => runEvents item events bounds outputs' rest
termination_by data.length
decreasing_by
  have := not_stalled_of_round _h
  simpa using this

def advanceEvents (item : Item) (events : ItemEvents) (bounds : Bounds) (current : Checkpoint)
    (outputs : List Value) (inProgress : Bool) (data : Bytes) : List Event :=
  if bounds.max = some 0 then []
  else
    roundEvents item events bounds current outputs inProgress data ++
      match firstRound item bounds current outputs inProgress data with
      | .settled _ => []
      | .again outputs' rest => runEvents item events bounds outputs' rest

end Repetition

namespace Choice

def dropEvents (index : Nat) : Attempt → List Event
  | .error (.parse e) => [.alternativeDropped index e.reason]
  | _ => []

/-- A fault ends the step before the later alternatives are tried. -/
def isFault : Attempt → Bool
  | .error (.fault _) => true
  | _ => false

end Choice

mutual

def Grammar.events : Grammar → Checkpoint → Bytes → List Event
  | .literal _, _, _ => []
  | .integer _, _, _ => []
  | .sequence _ first second, c, data =>
    match c with
    | .inFirst inner =>
      first.events inner data ++
        match first.advance inner data with
        | .ok (.finished _ rest) => second.events second.initial rest
        | _ => []
    | .inSecond inner _ => second.events inner data
    | _ => []
  | .choice first others, c, data =>
    match c with
    | .choice (some inner :: slots) _ _ =>
      let result := first.advance inner data
      first.events inner data ++ Choice.dropEvents 0 result ++
        if Choice.isFault result then [] else Grammar.slotEvents others 1 slots data
    | .choice (none :: slots) _ _ => Grammar.slotEvents others 1 slots data
    | _ => []
  | .repetition item bounds, c, data =>
    match c with
    | .repetition current outputs inProgress =>
      Repetition.advanceEvents ⟨item.initial,item.advance⟩ item.events bounds current outputs
        inProgress data
    | _ => []
  | .mapped body _, c, data => body.events c data

def Grammar.slotEvents :
    List Grammar → (index : Nat) → List (Option Checkpoint) → Bytes → List Event
  | g :: gs, index, some inner :: slots, data =>
    let result := g.advance inner data
    g.events inner data ++ Choice.dropEvents index result ++
      if Choice.isFault result then [] else Grammar.slotEvents gs (index + 1) slots data
  | _ :: gs, index, none :: slots, data => Grammar.slotEvents gs (index + 1) slots data
  | _, _, _, _ => []

end

def Grammar.chunkEvents (g : Grammar) (c : Checkpoint) (chunk : Chunk) : List Event :=
  match chunk.toView with
  | .error _ => []
  | .ok data => g.events c data

end GuidedDecoding
