import GuidedDecoding.IntegerList

set_option autoImplicit false

namespace GuidedDecoding.Report

def check (l : IntegerList) (input : String) : Printing Bool := do
  Printing.header "ParseGuard - Check"
  l.announce
  let session ← l.startSession
  match session.feed (.bytes (utf8 input)) with
  | .error (.parse e) =>
    Printing.outcome Printing.Status.failed s!"{e.message} (at byte {e.position})" .absent
    return false
  | .error (.fault f) => Printing.raise f
  | .ok (.finished _ _,next) =>
    Printing.outcome Printing.Status.finished next.describeFinish .absent
    next.warnUnconsumed
    return true
  | .ok (.incomplete c required,_) =>
    Printing.outcome Printing.Status.incomplete c.describe required.bytes
    return true

end GuidedDecoding.Report
