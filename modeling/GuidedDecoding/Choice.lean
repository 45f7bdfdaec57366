import GuidedDecoding.Outcome

/-!
How a choice settles a step. All running alternatives have advanced over the same bytes; here their
results are put together. The choice stays open while an alternative is incomplete, and keeps a
match made meanwhile as its fallback, with the bytes that the match left over. Once nothing runs any
more, the longest match of the step wins, the earlier one on a tie, or else the fallback.
-/

set_option autoImplicit false

namespace GuidedDecoding.Choice

/-- What the alternative of one slot did; `none` if the slot was already empty. -/
abbrev SlotResult := Option Attempt

def nextSlot : SlotResult → Option Checkpoint
  | some (.ok (.incomplete c _)) => some c
  | _ => none

def requirement? : SlotResult → Option Requirement
  | some (.ok (.incomplete _ required)) => some required
  | _ => none

def fault? : SlotResult → Option Fault
  | some (.error (.fault f)) => some f
  | _ => none

def parseError? : SlotResult → Option ParseError
  | some (.error (.parse e)) => some e
  | _ => none

/-- The match that leaves the fewest bytes over, the earliest of several; slots count from
`index`. -/
def longest (index : Nat) : List SlotResult → Option (Branch × Bytes)
  | [] => none
  | some (.ok (.finished output rest)) :: results =>
    match longest (index + 1) results with
    | none => some (⟨index,output⟩,rest)
    | some best =>
      if rest.length ≤ best.2.length then some (⟨index,output⟩,rest) else some best
  | _ :: results => longest (index + 1) results

def lastError (results : List SlotResult) : Option ParseError :=
  (results.filterMap parseError?).getLast?

/-- The end of a choice in which nothing runs any more. -/
def close (fallback : Option Branch) (leftover data : Bytes) (results : List SlotResult) :
    Attempt :=
  match longest 0 results with
  | some (best,rest) => .ok (.finished best.toValue rest)
  | none =>
    match fallback with
    | some earlier => .ok (.finished earlier.toValue (leftover ++ data))
    | none =>
      match lastError results with
      | none => .error (.parse { reason := .noAlternativeLeft })
      | some e => .error (.parse { e with reason := .noAlternativeMatched e.reason })

/-- The fallback after a step that leaves alternatives running. A match of this step takes
the place of an earlier one. -/
def nextFallback (fallback : Option Branch) (leftover data : Bytes) (results : List SlotResult) :
    Option Branch × Bytes :=
  match longest 0 results with
  | some (best,rest) => (some best,rest)
  | none => (fallback,if fallback.isSome then leftover ++ data else [])

/-- What a choice demands: nothing once it can end with a fallback, the demand of a single running
alternative as it is, and of several what they agree on. -/
def demand (fallback : Option Branch) : List Requirement → Requirement
  | [required] => if fallback.isSome then .empty else required
  | required => if fallback.isSome then .empty else .commonPrefix required

def settle (fallback : Option Branch) (leftover data : Bytes) (results : List SlotResult) :
    Attempt :=
  match results.findSome? fault? with
  | some f => .error (.fault f)
  | none =>
    let required := results.filterMap requirement?
    if required.isEmpty then close fallback leftover data results
    else
      let (fallback,leftover) := nextFallback fallback leftover data results
      .ok (.incomplete (.choice (results.map nextSlot) fallback leftover)
        (demand fallback required))

end GuidedDecoding.Choice
