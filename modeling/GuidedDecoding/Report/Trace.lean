import GuidedDecoding.IntegerList

set_option autoImplicit false

namespace GuidedDecoding.Report

/-- What feeding chunks came to: the steps taken, the session after them, and whether every chunk
was taken. -/
structure Traced where
  steps : List Printing.TraceStep
  session : Session
  complete : Bool

def Traced.push (step : Printing.TraceStep) (t : Traced) : Traced :=
  { t with steps := step :: t.steps }

def stepOf (data : Bytes) (status : Printing.Status) (detail : String)
    (required : Bytes := []) : Printing.TraceStep :=
  { input := some data, status := some status, required := required, detail := detail }

def traceChunks (s : Session) : List Bytes → Except Fault Traced
  | [] => .ok ⟨[],s,true⟩
  | data :: chunks =>
    if s.isFinished then .ok ⟨[stepOf data .failed "parse already finished"],s,false⟩
    else
      match s.feed (.bytes data) with
      | .error (.parse e) => .ok ⟨[stepOf data .failed e.message],s,false⟩
      | .error (.fault f) => .error f
      | .ok (.finished _ _,next) =>
        (traceChunks next chunks).map (.push (stepOf data .finished next.describeFinish))
      | .ok (.incomplete c required,next) =>
        (traceChunks next chunks).map
          (.push (stepOf data .incomplete c.describe required.bytes))

def trace (l : IntegerList) (chunks : List String) : Printing Bool := do
  Printing.header "ParseGuard - Parse Trace"
  l.announce
  let session ← l.startSession
  let traced ← Printing.ofFaulty (traceChunks session (chunks.map utf8))
  Printing.trace traced.steps
  traced.session.warnUnconsumed
  if traced.complete then
    if traced.session.canStop then Printing.success "Input so far is a valid place to stop"
    else
      Printing.info ("Must continue with " ++ Markup.quotedBytes traced.session.required.bytes)
  return traced.complete

end GuidedDecoding.Report
