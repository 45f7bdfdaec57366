import GuidedDecoding.Advance
import GuidedDecoding.Vocabulary

/-!
A session follows one parse through a generation. Feeding commits bytes; probing only asks what they
would do. The demand of a running session is the one reported by its last step, or by an advance
over no bytes if there was none.
-/

set_option autoImplicit false

namespace GuidedDecoding

inductive Phase where
  | running (checkpoint : Checkpoint) (required : Requirement) (canStop : Bool)
  | finished (output : Value) (remaining : Bytes)
  deriving BEq, Repr

structure Session where
  grammar : Grammar
  steps : Nat
  phase : Phase

namespace Session

def isFinished (s : Session) : Bool :=
  match s.phase with
  | .running .. => false
  | .finished .. => true

def checkpoint? (s : Session) : Option Checkpoint :=
  match s.phase with
  | .running c _ _ => some c
  | .finished .. => none

def required (s : Session) : Requirement :=
  match s.phase with
  | .running _ required _ => required
  | .finished .. => .empty

def canStop (s : Session) : Bool :=
  match s.phase with
  | .running _ _ canStop => canStop
  | .finished .. => true

def output (s : Session) : Value :=
  match s.phase with
  | .running .. => .none
  | .finished output _ => output

/-- The bytes of the finishing step that the parse did not consume. -/
def remaining (s : Session) : Bytes :=
  match s.phase with
  | .running .. => []
  | .finished _ remaining => remaining

/-- A fresh session. An advance over no bytes tells what the grammar demands at the outset. -/
def start (g : Grammar) : Except Fault Session :=
  match g.advance g.initial [] with
  | .ok (.incomplete _ required) => .ok ⟨g,0,.running g.initial required required.isEmpty⟩
  | .ok (.finished _ _) => .ok ⟨g,0,.running g.initial .empty true⟩
  | .error (.parse _) => .ok ⟨g,0,.running g.initial .empty false⟩
  | .error (.fault f) => .error f

def reset (s : Session) : Except Fault Session := start s.grammar

def commit (s : Session) : Outcome → Session
  | .finished output remaining => ⟨s.grammar,s.steps + 1,.finished output remaining⟩
  | .incomplete c required => ⟨s.grammar,s.steps + 1,.running c required required.isEmpty⟩

/-- Commits bytes. A failure leaves the session as it was. -/
def feed (s : Session) (chunk : Chunk) : Except Failure (Outcome × Session) :=
  match s.phase with
  | .finished .. => .error (.fault (.sessionFinished s.steps))
  | .running c _ _ => (s.grammar.advanceChunk c chunk).map fun o => (o,s.commit o)

/-- What feeding would come to; `none` if the bytes are no part of a parse from here. -/
def probe (s : Session) (chunk : Chunk) : Except Fault (Option Outcome) :=
  match s.phase with
  | .finished .. => .ok none
  | .running c _ _ =>
    match s.grammar.advanceChunk c chunk with
    | .ok o => .ok (some o)
    | .error (.parse _) => .ok none
    | .error (.fault f) => .error f

/-- Whether bytes agree with the demand, which rules most of them out without a probe. -/
def agrees (s : Session) (chunk : Chunk) : Except Fault Bool :=
  if s.required.isEmpty then .ok true
  else chunk.toBytes.map s.required.compatible

def accepts (s : Session) (chunk : Chunk) : Except Fault Bool :=
  if s.isFinished then .ok false
  else
    match s.agrees chunk with
    | .error f => .error f
    | .ok false => .ok false
    | .ok true => (s.probe chunk).map Option.isSome

inductive Verdict where
  | unprobed
  | probed (valid : Bool)
  deriving DecidableEq, Repr

/-- A probe admits a token unless bytes are left over after the whole grammar has finished. -/
def fits : Option Outcome → Bool
  | some (.finished _ remaining) => remaining.isEmpty
  | some (.incomplete _ _) => true
  | none => false

/-- A token of no bytes would not advance the parse, so it is never valid. -/
def judge (s : Session) (token : Chunk) : Except Fault Verdict :=
  if token.isVacant then .ok .unprobed
  else
    match s.agrees token with
    | .error f => .error f
    | .ok false => .ok .unprobed
    | .ok true => (s.probe token).map fun o => .probed (fits o)

def judgeAll (s : Session) : Vocabulary Chunk → Except Fault (List (Int × Verdict))
  | [] => .ok []
  | (id,token) :: rest =>
    match s.judge token with
    | .error f => .error f
    | .ok verdict => (judgeAll s rest).map ((id,verdict) :: ·)

def validIds (s : Session) (vocabulary : Vocabulary Chunk) : Except Fault (List Int) :=
  if s.isFinished then .ok []
  else
    (s.judgeAll vocabulary).map fun verdicts =>
      (verdicts.filter fun (_,verdict) => verdict == .probed true).map Prod.fst

def render (s : Session) : String :=
  let finished := if s.isFinished then "True" else "False"
  s!"ParseSession(steps={s.steps}, finished={finished}, required_next={s.required.render})"

end Session

end GuidedDecoding
