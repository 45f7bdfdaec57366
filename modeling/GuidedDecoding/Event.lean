import GuidedDecoding.Chunk
import GuidedDecoding.Grammar
import GuidedDecoding.Requirement
import GuidedDecoding.Text.Grouped

set_option autoImplicit false

namespace GuidedDecoding

inductive Severity where
  | debug
  | info
  | warning
  deriving DecidableEq, Repr

def Severity.rank : Severity → Nat
  | .debug => 10
  | .info => 20
  | .warning => 30

inductive Event where
  | alternativeDropped (index : Nat) (reason : Reason)
  | repetitionStopped (items left : Nat)
  | sessionStarted (grammar : Grammar)
  | inputRejected (data : Bytes) (step : Nat) (reason : Reason)
  | parseFinished (step : Nat) (output : Value)
  | vocabularyFiltered (step valid total probed : Nat) (required : Requirement)
  | vocabularyStarted (tokens : Nat)
  | tokenSkipped (cause : Fault)
  | vocabularyDecoded (tokens special : Nat)
  | maskingStarted (vocabulary : Nat) (endToken : Option Int) (promptLength : Int)
  | maskingReset
  | nothingContinues (step : Nat) (required : Requirement)
  | tokenViolates (token : Int) (chunk : Chunk) (reason : Reason)

namespace Event

def severity : Event → Severity
  | vocabularyStarted _ => .info
  | vocabularyDecoded _ _ => .info
  | tokenSkipped _ => .warning
  | nothingContinues _ _ => .warning
  | tokenViolates _ _ _ => .warning
  | _ => .debug

def message : Event → String
  | alternativeDropped index reason => s!"Choice dropped alternative {index}: {reason.message}"
  | repetitionStopped items left =>
    s!"Repeat stopped after {items} item(s) with {left} byte(s) left"
  | sessionStarted grammar => s!"ParseSession initialized for {grammar.render}"
  | inputRejected data step reason =>
    s!"Rejected {Quoted.bytes data} at step {step}: {reason.message}"
  | parseFinished step output => s!"Parse finished at step {step}: {output.render}"
  | vocabularyFiltered step valid total probed required =>
    s!"Step {step}: {valid} valid of {total} tokens " ++
      s!"({probed} probed, required_next={required.render})"
  | vocabularyStarted tokens => s!"Decoding vocabulary of {Text.grouped tokens} tokens"
  | tokenSkipped cause => cause.message
  | vocabularyDecoded tokens special =>
    s!"Decoded {Text.grouped tokens} tokens ({special} special skipped)"
  | maskingStarted vocabulary endToken promptLength =>
    let shown := (endToken.map toString).getD "None"
    s!"StructuredLogitsProcessor initialized " ++
      s!"(vocab={vocabulary}, EOS={shown}, prompt_length={promptLength})"
  | maskingReset => "StructuredLogitsProcessor reset"
  | nothingContinues step required =>
    s!"No token can continue the parse at step {step} " ++
      s!"(required_next={required.render}); allowing EOS"
  | tokenViolates token chunk reason =>
    s!"Generated token {token} ({chunk.render}) violates the grammar: {reason.message}"

end Event

end GuidedDecoding
