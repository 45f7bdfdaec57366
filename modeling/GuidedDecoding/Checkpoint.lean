import GuidedDecoding.Grammar
import GuidedDecoding.Requirement

set_option autoImplicit false

namespace GuidedDecoding

inductive Checkpoint where
  | literal (matched : Nat)
  | integer (numeral : Numeral)
  | inFirst (inner : Checkpoint)
  | inSecond (inner : Checkpoint) (firstOutput : Value)
  /-- One slot per alternative, empty once it is done; the best match so far; what it left over. -/
  | choice (slots : List (Option Checkpoint)) (fallback : Option Branch) (leftover : Bytes)
  /-- The item under way, the outputs of the finished ones, and whether the item has begun. -/
  | repetition (item : Checkpoint) (outputs : List Value) (inProgress : Bool)
  deriving BEq, Repr, Inhabited

mutual

def Grammar.initial : Grammar → Checkpoint
  | .literal _ => .literal 0
  | .integer _ => .integer .start
  | .sequence _ first _ => .inFirst first.initial
  | .choice first others => .choice (some first.initial :: Grammar.initialSlots others) none []
  | .repetition item _ => .repetition item.initial [] false
  | .mapped body _ => body.initial

def Grammar.initialSlots : List Grammar → List (Option Checkpoint)
  | [] => []
  | g :: gs => some g.initial :: Grammar.initialSlots gs

end

theorem Grammar.initialSlots_eq_map (gs : List Grammar) :
    initialSlots gs = gs.map fun g => some g.initial := by
  induction gs with
  | nil => rfl
  | cons g gs ih => simp [initialSlots,ih]

namespace Checkpoint

private def truth (b : Bool) : String := if b then "True" else "False"

private def tupleOf : List String → String
  | [item] => "(" ++ item ++ ",)"
  | items => "(" ++ ", ".intercalate items ++ ")"

mutual

def render : Checkpoint → String
  | literal matched => s!"LiteralState(matched={matched})"
  | integer numeral => numeral.render
  | inFirst inner => s!"InFirst(checkpoint=" ++ inner.render ++ ")"
  | inSecond inner firstOutput =>
    "InSecond(checkpoint=" ++ inner.render ++ ", first_output=" ++ firstOutput.render ++ ")"
  | choice slots fallback leftover =>
    "ChoiceState(checkpoints=" ++ tupleOf (renderSlots slots) ++ ", fallback=" ++
      ((fallback.map fun b => b.toValue.render).getD "None") ++ ", leftover=" ++
      Quoted.bytes leftover ++ ")"
  | repetition item outputs inProgress =>
    "RepeatState(child=" ++ item.render ++ ", outputs=" ++ (Value.tuple outputs).render ++
      ", in_progress=" ++ truth inProgress ++ ")"

def renderSlots : List (Option Checkpoint) → List String
  | [] => []
  | none :: slots => "None" :: renderSlots slots
  | some inner :: slots => inner.render :: renderSlots slots

end

def live (slots : List (Option Checkpoint)) : Nat := slots.countP Option.isSome

def describe : Checkpoint → String
  | repetition _ outputs inProgress =>
    "outputs=" ++ (Value.list outputs).render ++ (if inProgress then " (item in progress)" else "")
  | c => c.render

end Checkpoint

end GuidedDecoding
