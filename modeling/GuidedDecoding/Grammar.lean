import GuidedDecoding.Bounds
import GuidedDecoding.Numeral
import GuidedDecoding.Transform

set_option autoImplicit false

namespace GuidedDecoding

inductive Keep where
  | both
  | second
  | first
  deriving DecidableEq, Repr

def Keep.combine : Keep → Value → Value → Value
  | .both, a, b => .tuple [a,b]
  | .second, _, b => b
  | .first, a, _ => a

inductive Grammar where
  | literal (bytes : Bytes)
  | integer (range : IntegerRange)
  | sequence (keep : Keep) (first second : Grammar)
  /-- Whatever one of the alternatives matches, of which there is at least one. -/
  | choice (first : Grammar) (others : List Grammar)
  | repetition (item : Grammar) (bounds : Bounds)
  | mapped (body : Grammar) (transform : Transform)

namespace Grammar

def text (cs : CodePoints) : Except Fault Grammar :=
  match cs.encode with
  | .error run => .error (.unencodable run)
  | .ok bytes => .ok (.literal bytes)

def integers (least greatest : Int) : Except Fault Grammar :=
  (IntegerRange.ofBounds least greatest).map .integer

def anyOf : List Grammar → Except Fault Grammar
  | [] => .error .noAlternatives
  | first :: others => .ok (.choice first others)

def repeated (item : Grammar) (min : Int) (max : Option Int) : Except Fault Grammar :=
  (Bounds.ofInts min max).map (.repetition item)

mutual

def render : Grammar → String
  | literal bytes => s!"LiteralParser({Quoted.bytes bytes})"
  | integer range => s!"IntegerParser({range.least}, {range.greatest})"
  | sequence keep first second =>
    (match keep with
      | .both => "SequenceParser("
      | .second => "IgnoreOutputThen("
      | .first => "ThenIgnoreOutput(") ++ first.render ++ ", " ++ second.render ++ ")"
  | choice first others =>
    "ChoiceParser(" ++ ", ".intercalate (first.render :: renderAll others) ++ ")"
  | repetition item bounds => "RepeatParser(" ++ item.render ++ ", " ++ bounds.render ++ ")"
  | mapped body transform =>
    "MapOutputParser(" ++ body.render ++ ", " ++ transform.render ++ ")"

def renderAll : List Grammar → List String
  | [] => []
  | g :: gs => g.render :: renderAll gs

end

end Grammar

end GuidedDecoding
