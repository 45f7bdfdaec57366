import GuidedDecoding.Journal
import GuidedDecoding.Session

set_option autoImplicit false

namespace GuidedDecoding.Session

def resetEvents (g : Grammar) : List Event := g.events g.initial []

def startEvents (g : Grammar) : List Event :=
  resetEvents g ++
    match start g with
    | .ok _ => [.sessionStarted g]
    | .error _ => []

def probeEvents (s : Session) (chunk : Chunk) : List Event :=
  match s.phase with
  | .finished .. => []
  | .running c _ _ => s.grammar.chunkEvents c chunk

def feedEvents (s : Session) (chunk : Chunk) : List Event :=
  s.probeEvents chunk ++
    match s.feed chunk with
    | .ok (.finished output _,next) => [.parseFinished next.steps output]
    | .error (.parse e) => [.inputRejected (chunk.memory?.getD []) s.steps e.reason]
    | _ => []

def acceptsEvents (s : Session) (chunk : Chunk) : List Event :=
  match s.agrees chunk with
  | .ok true => s.probeEvents chunk
  | _ => []

def judgeEvents (s : Session) (token : Chunk) : List Event :=
  if token.isVacant then [] else s.acceptsEvents token

def judgeAllEvents (s : Session) : Vocabulary Chunk → List Event
  | [] => []
  | (_,token) :: rest =>
    s.judgeEvents token ++
      match s.judge token with
      | .error _ => []
      | .ok _ => judgeAllEvents s rest

def filterEvents (s : Session) (vocabulary : Vocabulary Chunk) : List Event :=
  if s.isFinished then []
  else
    s.judgeAllEvents vocabulary ++
      match s.judgeAll vocabulary with
      | .error _ => []
      | .ok verdicts =>
        let count (p : Verdict → Bool) : Nat := verdicts.countP fun (_,verdict) => p verdict
        [.vocabularyFiltered s.steps (count (· == .probed true)) vocabulary.length
          (count (· != .unprobed)) s.required]

end GuidedDecoding.Session
