import GuidedDecoding.Checkpoint

set_option autoImplicit false

namespace GuidedDecoding

inductive Outcome where
  | finished (output : Value) (remaining : Bytes)
  /-- The input ran out. `required` starts any legal continuation. -/
  | incomplete (checkpoint : Checkpoint) (required : Requirement)
  deriving BEq, Repr

abbrev Attempt := Except Failure Outcome

def Outcome.canStop : Outcome → Bool
  | .finished _ _ => true
  | .incomplete _ required => required.isEmpty

end GuidedDecoding
