import GuidedDecoding.Choice
import GuidedDecoding.Primitive
import GuidedDecoding.Repetition

/-!
Advancing a grammar from a checkpoint over newly available bytes. `advance` is a function of its
arguments alone; it follows the grammar's structure, and a checkpoint of another grammar's shape is
a fault.
-/

set_option autoImplicit false

namespace GuidedDecoding

/-- The second part of a sequence, from `c`, after the first has put out `a`. -/
def Keep.proceed (keep : Keep) (second : Checkpoint → Bytes → Attempt) (c : Checkpoint) (a : Value)
    (data : Bytes) : Attempt :=
  match second c data with
  | .error e => .error e
  | .ok (.incomplete c' required) => .ok (.incomplete (.inSecond c' a) required)
  | .ok (.finished b rest) => .ok (.finished (keep.combine a b) rest)

def Transform.on (t : Transform) : Attempt → Attempt
  | .ok (.finished output rest) =>
    match t.apply output with
    | .ok v => .ok (.finished v rest)
    | .error e => .error e
  | other => other

mutual

def Grammar.advance : Grammar → Checkpoint → Bytes → Attempt
  | .literal bytes, c, data =>
    match c with
    | .literal matched => Literal.advance bytes matched data
    | _ => .error (.fault .foreignCheckpoint)
  | .integer range, c, data =>
    match c with
    | .integer numeral => range.advance numeral data
    | _ => .error (.fault .foreignCheckpoint)
  | .sequence keep first second, c, data =>
    match c with
    | .inFirst inner =>
      match first.advance inner data with
      | .error e => .error e
      | .ok (.incomplete c' required) => .ok (.incomplete (.inFirst c') required)
      | .ok (.finished a rest) => keep.proceed second.advance second.initial a rest
    | .inSecond inner a => keep.proceed second.advance inner a data
    | _ => .error (.fault .foreignCheckpoint)
  | .choice first others, c, data =>
    match c with
    | .choice [] fallback leftover => Choice.settle fallback leftover data []
    | .choice (slot :: slots) fallback leftover =>
      Choice.settle fallback leftover data
        (slot.map (fun inner => first.advance inner data) :: Grammar.advanceSlots others slots data)
    | _ => .error (.fault .foreignCheckpoint)
  | .repetition item bounds, c, data =>
    match c with
    | .repetition current outputs inProgress =>
      Repetition.advance ⟨item.initial,item.advance⟩ bounds current outputs inProgress data
    | _ => .error (.fault .foreignCheckpoint)
  | .mapped body transform, c, data => transform.on (body.advance c data)

/-- Advances the alternatives whose slots are filled. Slots and alternatives are paired off in
order; what has no partner is left out. -/
def Grammar.advanceSlots :
    List Grammar → List (Option Checkpoint) → Bytes → List Choice.SlotResult
  | g :: gs, slot :: slots, data =>
    slot.map (fun inner => g.advance inner data) :: Grammar.advanceSlots gs slots data
  | _, _, _ => []

end

theorem Grammar.advanceSlots_eq_zipWith (gs : List Grammar) (slots : List (Option Checkpoint))
    (data : Bytes) :
    advanceSlots gs slots data =
      List.zipWith (fun g slot => slot.map fun inner => g.advance inner data) gs slots := by
  induction gs generalizing slots with
  | nil => simp [advanceSlots]
  | cons g gs ih => cases slots <;> simp [advanceSlots,ih]

theorem Grammar.advance_choice (first : Grammar) (others : List Grammar)
    (slots : List (Option Checkpoint)) (fallback : Option Branch) (leftover data : Bytes) :
    advance (.choice first others) (.choice slots fallback leftover) data =
      Choice.settle fallback leftover data (advanceSlots (first :: others) slots data) := by
  cases slots with
  | nil => rfl
  | cons slot slots => rfl

def Grammar.advanceChunk (g : Grammar) (c : Checkpoint) (chunk : Chunk) : Attempt :=
  match chunk.toView with
  | .error f => .error (.fault f)
  | .ok data => g.advance c data

end GuidedDecoding
