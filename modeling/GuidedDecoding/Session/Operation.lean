import GuidedDecoding.Session.Journal

set_option autoImplicit false

namespace GuidedDecoding.Session

inductive Operation where
  | feed (chunk : Chunk)
  | probe (chunk : Chunk)
  | accepts (chunk : Chunk)
  | reset
  | render
  | filter (vocabulary : Vocabulary Chunk)

inductive Answer where
  | outcome (o : Outcome)
  | probed (o : Option Outcome)
  | accepted (b : Bool)
  | done
  | text (s : String)
  | ids (valid : List Int)
  | failed (e : Failure)

def Answer.ofFaulty {α : Type} (answer : α → Answer) : Except Fault α → Answer
  | .ok a => answer a
  | .error f => .failed (.fault f)

/-- Does one operation. Only a feed and a reset change the session, and neither does if it fails. -/
def perform (s : Session) : Operation → Session × Answer
  | .feed chunk =>
    match s.feed chunk with
    | .ok (o,next) => (next,.outcome o)
    | .error e => (s,.failed e)
  | .probe chunk => (s,.ofFaulty .probed (s.probe chunk))
  | .accepts chunk => (s,.ofFaulty .accepted (s.accepts chunk))
  | .reset =>
    match s.reset with
    | .ok next => (next,.done)
    | .error f => (s,.failed (.fault f))
  | .render => (s,.text s.render)
  | .filter vocabulary =>
    (s,.ofFaulty (fun valid => .ids (valid.mergeSort (· ≤ ·))) (s.validIds vocabulary))

def performAll (s : Session) : List Operation → List (Session × Answer)
  | [] => []
  | op :: ops =>
    let step := s.perform op
    step :: performAll step.1 ops

def operationEvents (s : Session) : Operation → List Event
  | .feed chunk => s.feedEvents chunk
  | .probe chunk => s.probeEvents chunk
  | .accepts chunk => s.acceptsEvents chunk
  | .reset => resetEvents s.grammar
  | .render => []
  | .filter vocabulary => s.filterEvents vocabulary

def performAllEvents (s : Session) : List Operation → List Event
  | [] => []
  | op :: ops => s.operationEvents op ++ performAllEvents (s.perform op).1 ops

end GuidedDecoding.Session
