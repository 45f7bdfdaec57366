import GuidedDecoding.Masker.Journal

set_option autoImplicit false

namespace GuidedDecoding.Masker

variable {α : Type}

inductive Operation (α : Type) where
  | call (batch : List (List Int)) (scores : Scores α)
  | reset
  | render
  | inspect
  | allowing (valid : List Int) (width : Int)

inductive Answer (α : Type) where
  | scored (scores : List (List (Score α))) (fault : Option Fault)
  | done
  | text (s : String)
  | mask (m : Mask)

/-- Does one operation. A call that fails midway keeps what it did before and answers; a mask of its
own that cannot be made is a fault. -/
def perform (m : Masker) : Operation α → Except Fault (Masker × Answer α)
  | .call batch scores =>
    let result := m.call batch scores
    .ok (result.masker,.scored result.scores result.fault)
  | .reset => .ok (m.reset,.done)
  | .render => .ok (m,.text m.render)
  | .inspect => .ok (m,.done)
  | .allowing valid width => (Mask.allowing valid.eraseDups width).map fun mask => (m,.mask mask)

def performAll (m : Masker) : List (Operation α) → Except Fault (List (Masker × Answer α))
  | [] => .ok []
  | op :: ops =>
    match m.perform op with
    | .error f => .error f
    | .ok step => (performAll step.1 ops).map (step :: ·)

def operationEvents (m : Masker) : Operation α → List Event
  | .call batch scores => m.callEvents batch scores
  | .reset => [.maskingReset]
  | _ => []

def performAllEvents (m : Masker) : List (Operation α) → List Event
  | [] => []
  | op :: ops =>
    m.operationEvents op ++
      match m.perform op with
      | .error _ => []
      | .ok step => performAllEvents step.1 ops

end GuidedDecoding.Masker
